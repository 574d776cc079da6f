import Flotilla.Proofs.Fleet.Moves
import Flotilla.Proofs.Fleet.Stages
import Flotilla.Proofs.Metrics.Index

/-!
# What a cycle does to the metrics and the tokens

The samples of the fleet itself are written by the steps of the cycles and by nothing else
(`sameFleet_cycle`).  What goes on beside the cycles writes only the series of controllers.

A cycle that neither stops nor forgets anything cancels no instance and drops no series
(`spares_cycle`), whatever else it does.
-/

namespace Flotilla

open Std (ExtTreeMap ExtTreeSet)

namespace Metrics

namespace Store

/-- Two stores agree on the samples of the fleet. -/
structure SameFleet (m m' : Store) : Prop where
  managed : m'.managed = m.managed
  cycles : m'.cycles = m.cycles
  listingErrors : m'.listingErrors = m.listingErrors
  launchFailures : m'.launchFailures = m.launchFailures

/-- The series of controllers in one store are all in another. -/
structure Keeps (m m' : Store) : Prop where
  syncs : ∀ key ∈ m.syncs, key ∈ m'.syncs
  objects : ∀ key ∈ m.objects, key ∈ m'.objects

theorem SameFleet.refl (m : Store) : m.SameFleet m := ⟨rfl, rfl, rfl, rfl⟩

theorem SameFleet.trans {m m' m'' : Store} (h : m.SameFleet m') (h' : m'.SameFleet m'') :
    m.SameFleet m'' :=
  ⟨h'.managed.trans h.managed, h'.cycles.trans h.cycles,
    h'.listingErrors.trans h.listingErrors, h'.launchFailures.trans h.launchFailures⟩

theorem Keeps.refl (m : Store) : m.Keeps m := ⟨fun _ h => h, fun _ h => h⟩

theorem Keeps.trans {m m' m'' : Store} (h : m.Keeps m') (h' : m'.Keeps m'') : m.Keeps m'' :=
  ⟨fun key hk => h'.syncs key (h.syncs key hk), fun key hk => h'.objects key (h.objects key hk)⟩

/-- To forget a cluster does nothing to the other samples of the fleet. -/
theorem SameFleet.forget {m m' : Store} (h : m.SameFleet m') (cluster : String) :
    (m.forget cluster).SameFleet (m'.forget cluster) := by
  obtain ⟨syncs, objects, hm⟩ := m.dropSeries_rest cluster (m.written.getD cluster ∅).toList
  obtain ⟨syncs', objects', hm'⟩ := m'.dropSeries_rest cluster (m'.written.getD cluster ∅).toList
  rw [Store.forget, Store.forget, hm, hm']
  exact ⟨h.managed, h.cycles, h.listingErrors, by simp only [h.launchFailures]⟩

end Store

theorem Sink.write_spec (sink : Sink) (k : Cancellation) (m : Store) (w : Write) :
    m.SameFleet (sink.write k m w) ∧ m.Keeps (sink.write k m w) := by
  cases w with
  | sync controller =>
    simp only [Sink.write, Sink.recordSync]
    split
    · refine ⟨⟨rfl, rfl, rfl, rfl⟩, fun key hk => ?_, fun _ hk => hk⟩
      exact (m.mem_syncs_recordSync _ _ key).mpr (Or.inr hk)
    · exact ⟨.refl m, .refl m⟩
  | objects controller n =>
    simp only [Sink.write, Sink.setObjects]
    split
    · refine ⟨⟨rfl, rfl, rfl, rfl⟩, fun _ hk => hk, fun key hk => ?_⟩
      exact (m.mem_objects_setObjects _ _ n key).mpr (Or.inr hk)
    · exact ⟨.refl m, .refl m⟩

theorem Sink.writes_spec (sink : Sink) (k : Cancellation) (writes : List Write) (m : Store) :
    m.SameFleet (writes.foldl (sink.write k) m) ∧ m.Keeps (writes.foldl (sink.write k) m) := by
  induction writes generalizing m with
  | nil => exact ⟨.refl m, .refl m⟩
  | cons w rest ih =>
    obtain ⟨hf, hk⟩ := sink.write_spec k m w
    obtain ⟨hf', hk'⟩ := ih (sink.write k m w)
    exact ⟨hf.trans hf', hk.trans hk'⟩

end Metrics

namespace Fleet

open Metrics (Store)

/-! ## The samples of the fleet -/

/-- What a step does to the samples of the fleet depends on nothing else. -/
theorem Step.sameFleet_record {H : Type} {m m' : Store} (h : m.SameFleet m') (step : Step H) :
    (step.record m).SameFleet (step.record m') := by
  obtain ⟨hm, hc, hl, hf⟩ := h
  cases step with
  | listingFailed fault => exact ⟨hm, hc, congrArg (· + 1) hl, hf⟩
  | launchFailed c f =>
    exact ⟨hm, hc, hl, by simp only [Step.record, Store.countLaunchFailure, hf]⟩
  | stopped c x => exact Store.SameFleet.forget ⟨hm, hc, hl, hf⟩ c
  | forgotten c => exact Store.SameFleet.forget ⟨hm, hc, hl, hf⟩ c
  | completed n => exact ⟨rfl, congrArg (· + 1) hc, hl, hf⟩
  | _ => exact ⟨hm, hc, hl, hf⟩

namespace Stage

/-- What goes on beside the cycles does to the metrics at most what controllers do. -/
theorem aside_spec (s : Stage) (a : Aside) :
    s.store.SameFleet (s.aside a).store ∧ s.store.Keeps (s.aside a).store := by
  cases a with
  | shutDown => exact ⟨.refl _, .refl _⟩
  | write cluster place write =>
    simp only [aside]
    split
    · next sink _ => exact sink.write_spec s.cancellation s.store write
    · exact ⟨.refl _, .refl _⟩

theorem sameFleet_asides (s : Stage) (asides : List Aside) :
    s.store.SameFleet (asides.foldl aside s).store := by
  induction asides generalizing s with
  | nil => exact .refl _
  | cons a rest ih => exact (s.aside_spec a).1.trans (ih _)

theorem sameFleet_note (o : Occasion) (s : Stage) (step : Step Token) :
    (step.record s.store).SameFleet (o.surroundings.note step s).store := by
  refine Store.SameFleet.trans ?_ (sameFleet_asides (s.note step) (o.asides step))
  cases step <;> exact .refl _

theorem sameFleet_create (s : Stage) (c : String) (a : Instance.Attempt) :
    s.store.SameFleet (create c a s).2.store := by
  have hb := ((s.begin c).1.writes_spec (s.begin c).2.2.cancellation a.writes s.store).1
  simp only [create]
  cases a.failure <;> exact hb

end Stage

/-- The samples of the fleet are those that the steps lead to. -/
theorem sameFleet_move {o : Occasion} {listed : ExtTreeSet String} {p q : Progress Stage Token}
    (hm : Move o.surroundings listed p q) {m : Store}
    (h : (p.steps.foldl Step.record m).SameFleet p.scene.store) :
    (q.steps.foldl Step.record m).SameFleet q.scene.store := by
  have note {s : Stage} {steps : List (Step Token)} (step : Step Token)
      (h : (steps.foldl Step.record m).SameFleet s.store) :
      ((steps ++ [step]).foldl Step.record m).SameFleet (o.surroundings.note step s).store := by
    rw [List.foldl_append]
    exact (Step.sameFleet_record h step).trans (s.sameFleet_note o step)
  -- a creation comes after the step that asks for it, and before the one that tells its answer
  have asked {c : String} {answer : Except ControllerFailure Token} {s : Stage}
      (ha : o.surroundings.create c (o.surroundings.note (.asked c) p.scene) = (answer, s)) :
      ((p.steps ++ [Step.asked c]).foldl Step.record m).SameFleet s.store := by
    have hc := Stage.sameFleet_create (o.surroundings.note (.asked c) p.scene) c (o.attempt c)
    rw [show Stage.create c (o.attempt c) (o.surroundings.note (.asked c) p.scene) = _ from ha] at hc
    exact (note (.asked c) h).trans hc
  cases hm with
  | launched isListed isMissing answer => exact note _ (asked answer)
  | launchFailed isListed isMissing isReal answer => exact note _ (asked answer)
  | abandoned isListed isMissing isCut answer => exact note _ (asked answer)
  | _ => exact note _ h

theorem sameFleet_cycle (c : Course) (o : Occasion) :
    ((c.progress o).steps.foldl Step.record c.stage.store).SameFleet (c.cycle o).stage.store :=
  cycle_keeps
    (P := fun p : Progress Stage Token =>
      (p.steps.foldl Step.record c.stage.store).SameFleet p.scene.store)
    (fun _ _ _ hm hp => sameFleet_move hm hp) o.first o.listing c.stage c.roster (.refl _)

/-! ## What is not touched -/

/-- Whether a step stops an instance or forgets a cluster. -/
def Step.isDrop {H : Type} : Step H → Bool
  | .stopped _ _ => true
  | .forgotten _ => true
  | _ => false

/-- Between two stages no instance that was there was cancelled for itself, and no series was
dropped. -/
structure Stage.Spares (s s' : Stage) : Prop where
  process : s'.process = s.process
  next : s.cancellation.next ≤ s'.cancellation.next
  kept : ∀ n ∈ s.cancellation.fired, n ∈ s'.cancellation.fired
  only : ∀ n ∈ s'.cancellation.fired,
    n ∈ s.cancellation.fired ∨ n = s.process.number ∨ s.cancellation.next ≤ n
  series : s.store.Keeps s'.store

namespace Stage.Spares

variable {s s' s'' : Stage}

theorem refl (s : Stage) : s.Spares s :=
  ⟨rfl, Nat.le_refl _, fun _ h => h, fun _ h => Or.inl h, .refl _⟩

theorem trans (h : s.Spares s') (h' : s'.Spares s'') : s.Spares s'' where
  process := h'.process.trans h.process
  next := Nat.le_trans h.next h'.next
  kept n hn := h'.kept n (h.kept n hn)
  only n hn := by
    rcases h'.only n hn with hn | hn | hn
    · exact h.only n hn
    · exact Or.inr (Or.inl (hn.trans (congrArg Token.number h.process)))
    · exact Or.inr (Or.inr (Nat.le_trans h.next hn))
  series := h.series.trans h'.series

theorem alike (h : s.Alike s') (hs : s.store.Keeps s'.store) : s.Spares s' where
  process := h.process
  next := Nat.le_of_eq h.next.symm
  kept := h.kept
  only n hn := by
    rcases h.only n hn with hn | hn
    · exact Or.inl hn
    · exact Or.inr (Or.inl hn)
  series := hs

theorem asides (s : Stage) (asides : List Aside) : s.Spares (asides.foldl aside s) := by
  induction asides generalizing s with
  | nil => exact refl s
  | cons a rest ih => exact trans (alike (s.alike_aside a) (s.aside_spec a).2) (ih _)

/-- A step spares everything unless it stops or forgets a cluster. -/
theorem note (o : Occasion) (s : Stage) {step : Step Token} (h : step.isDrop = false) :
    s.Spares (o.surroundings.note step s) := by
  refine trans ?_ (asides (s.note step) (o.asides step))
  cases step with
  | stopped c t => cases h
  | forgotten c => cases h
  | _ => exact alike (s.alike_withStore _) ⟨fun _ h => h, fun _ h => h⟩

theorem create (s : Stage) (c : String) (a : Instance.Attempt) :
    s.Spares (Stage.create c a s).2 := by
  have hbuild : s.Spares (s.build c a).2 :=
    { process := rfl
      next := Nat.le_succ _
      kept := fun _ h => h
      only := fun _ h => Or.inl h
      series := ((s.begin c).1.writes_spec (s.begin c).2.2.cancellation a.writes s.store).2 }
  simp only [Stage.create]
  cases a.failure with
  | none => exact { hbuild with }
  | some f =>
    refine { hbuild with kept := fun n hn => ?_, only := fun n hn => ?_ }
    · exact (mem_fired_fire _ _ n).mpr (Or.inr hn)
    · rcases (mem_fired_fire _ _ n).mp hn with rfl | hn
      · exact Or.inr (Or.inr (Nat.le_refl _))
      · exact Or.inl hn

end Stage.Spares

/-- A move spares everything unless its step stops or forgets a cluster. -/
theorem spares_move {o : Occasion} {listed : ExtTreeSet String} {p q : Progress Stage Token}
    (hm : Move o.surroundings listed p q) {s : Stage}
    (h : p.steps.any Step.isDrop = false → s.Spares p.scene)
    (hq : q.steps.any Step.isDrop = false) : s.Spares q.scene := by
  have asked {c : String} {answer : Except ControllerFailure Token} {s' : Stage}
      (ha : o.surroundings.create c (o.surroundings.note (.asked c) p.scene) = (answer, s'))
      (hp : p.steps.any Step.isDrop = false) : s.Spares s' := by
    have hn : p.scene.Spares (o.surroundings.note (.asked c) p.scene) := .note o _ rfl
    have hc := Stage.Spares.create (o.surroundings.note (.asked c) p.scene) c (o.attempt c)
    rw [show Stage.create c (o.attempt c) (o.surroundings.note (.asked c) p.scene) = _ from ha] at hc
    exact ((h hp).trans hn).trans hc
  cases hm with
  | launched isListed isMissing answer =>
    exact (asked answer (by simpa [Progress.take, Step.isDrop] using hq)).trans
      (.note o _ rfl)
  | launchFailed isListed isMissing isReal answer =>
    exact (asked answer (by simpa [Progress.take, Step.isDrop] using hq)).trans
      (.note o _ rfl)
  | abandoned isListed isMissing isCut answer =>
    exact (asked answer (by simpa [Progress.take, Step.isDrop] using hq)).trans
      (.note o _ rfl)
  | stopped isManaged isGone => simp [Progress.take, Step.isDrop] at hq
  | forgotten isFailed isGone => simp [Progress.take, Step.isDrop] at hq
  | _ =>
    exact (h (by simpa [Progress.take, Step.isDrop] using hq)).trans (.note o _ rfl)

theorem spares_cycle (c : Course) (o : Occasion)
    (h : (c.progress o).steps.any Step.isDrop = false) : c.stage.Spares (c.cycle o).stage :=
  cycle_keeps
    (P := fun p : Progress Stage Token =>
      p.steps.any Step.isDrop = false → c.stage.Spares p.scene)
    (fun _ _ _ hm hp => spares_move hm hp) o.first o.listing c.stage c.roster (fun _ => .refl _) h

end Fleet

end Flotilla
