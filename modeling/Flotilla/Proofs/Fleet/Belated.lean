import Flotilla.Proofs.Fleet.Settled
import Flotilla.Proofs.Fleet.Shutdown

/-!
# Cycles after the shutdown

A cycle may begin when the token of the process has fired.  If it then sees the shutdown first it
does nothing.  If it sees its listing first it goes on until it looks at the token again, which it
does only before it asks for an instance.  So a listed cluster without an instance ends it there,
and without one it is completed like any other.

After the shutdown no sink writes any more (`Hushed`), so the metrics are just what the steps of the
cycles make of them (`hushed_cycle`).  `Course.belated` says what this comes to.
-/

namespace Flotilla.Fleet

open Std (ExtTreeSet)
open Instance (Attempt)
open Metrics (Sink Store)

/-! ## Dead sinks -/

/-- A dead sink writes nothing. -/
theorem write_of_not_isLive {sink : Sink} {k : Cancellation} (h : sink.isLive k = false)
    (m : Store) (w : Metrics.Write) : sink.write k m w = m := by
  cases w <;> simp [Sink.write, Sink.recordSync, Sink.setObjects, h]

/-- A dead sink stays dead. -/
theorem not_isLive_mono {sink : Sink} {k k' : Cancellation}
    (hk : ∀ n ∈ k.fired, n ∈ k'.fired) (h : sink.isLive k = false) : sink.isLive k' = false := by
  cases hs : sink.token with
  | none =>
    rw [Sink.isLive, hs] at h
    cases h
  | some t =>
    simp only [Sink.isLive, hs, Bool.not_eq_false'] at h ⊢
    exact Cancellation.isCancelled_mono hk h

namespace Stage

/-- The shutdown has come, and no sink writes any more. -/
structure Hushed (s : Stage) : Prop where
  fired : s.fired = true
  dead : ∀ sink ∈ s.sinks, sink.isLive s.cancellation = false

namespace Hushed

variable {s s' : Stage}

theorem alike (h : s.Hushed) (ha : s.Alike s') : s'.Hushed where
  fired := by
    show s'.cancellation.isCancelled s'.process = true
    rw [ha.process]
    exact Cancellation.isCancelled_mono ha.kept h.fired
  dead sink hs := not_isLive_mono ha.kept (h.dead sink (ha.sinks ▸ hs))

theorem fire (h : s.Hushed) (t : Token) : (s.fire t).Hushed where
  fired := Cancellation.isCancelled_fire.mpr (Or.inr h.fired)
  dead sink hs :=
    not_isLive_mono (fun n hn => (s.mem_fired_fire t n).mpr (Or.inr hn)) (h.dead sink hs)

theorem store_aside (h : s.Hushed) (a : Aside) : (s.aside a).store = s.store := by
  cases a with
  | shutDown => rfl
  | write cluster place write =>
    simp only [aside]
    split
    · next sink hsink =>
      have hs : sink ∈ s.sinks := (List.mem_filter.mp (List.mem_of_getElem? hsink)).1
      exact write_of_not_isLive (h.dead sink hs) s.store write
    · rfl

theorem store_asides (h : s.Hushed) (asides : List Aside) :
    (asides.foldl aside s).store = s.store := by
  induction asides generalizing s with
  | nil => rfl
  | cons a rest ih => exact (ih (h.alike (s.alike_aside a))).trans (h.store_aside a)

theorem note (h : s.Hushed) (o : Occasion) (step : Step Token) :
    (o.surroundings.note step s).Hushed ∧
      (o.surroundings.note step s).store = step.record s.store := by
  have hnote : (s.note step).Hushed ∧ (s.note step).store = step.record s.store := by
    cases step with
    | stopped c t => exact ⟨(h.fire t).alike (alike_withStore _ _), rfl⟩
    | _ => exact ⟨h.alike (alike_withStore _ _), rfl⟩
  exact ⟨hnote.1.alike (alike_asides _ _), (hnote.1.store_asides _).trans hnote.2⟩

/-- What is created after the shutdown is dead from the start. -/
theorem create (h : s.Hushed) (c : String) (a : Attempt) :
    (Stage.create c a s).2.Hushed ∧ (Stage.create c a s).2.store = s.store := by
  have hsink : Sink.isLive (s.build c a).2.cancellation ⟨c, some (s.build c a).1⟩ = false := by
    rw [Sink.isLive, Bool.not_eq_false']
    exact Cancellation.isCancelled_child h.fired
  have hbuild : (s.build c a).2.Hushed := by
    refine ⟨h.fired, fun sink hs => ?_⟩
    rw [sinks_build, List.mem_append, List.mem_singleton] at hs
    rcases hs with hs | rfl
    · exact h.dead sink hs
    · exact hsink
  have hstore : (s.build c a).2.store = s.store :=
    List.foldl_fixed' (fun w => write_of_not_isLive hsink s.store w) a.writes
  simp only [Stage.create]
  split
  · exact ⟨hbuild.fire _, hstore⟩
  · exact ⟨⟨hbuild.fired, hbuild.dead⟩, hstore⟩

end Hushed

end Stage

/-! ## The steps of a cycle -/

/-- When the token has fired a cycle ends before it asks for the first instance. -/
theorem converge_of_fired {S H : Type} {around : Surroundings S H} {listed : ExtTreeSet String}
    {p : Progress S H} (h : p.roster.missing listed ≠ [])
    (hfired : around.fired (around.note (.discovered listed.toList) p.scene) = true) :
    around.converge listed p = p.take around (.discovered listed.toList) := by
  obtain ⟨k, rest, hm⟩ := List.exists_cons_of_ne_nil h
  have hstop : around.addAll (p.roster.missing listed) (p.take around (.discovered listed.toList)) =
      (false, p.take around (.discovered listed.toList)) := by
    rw [hm]
    exact if_pos hfired
  unfold Surroundings.converge
  simp only
  rw [show (p.take around (.discovered listed.toList)).roster = p.roster from rfl, hstop]

/-- After the shutdown the metrics are what the steps make of them. -/
theorem hushed_move {o : Occasion} {listed : ExtTreeSet String} {p q : Progress Stage Token}
    (hm : Move o.surroundings listed p q) {m : Store}
    (h : p.scene.Hushed ∧ p.scene.store = p.steps.foldl Step.record m) :
    q.scene.Hushed ∧ q.scene.store = q.steps.foldl Step.record m := by
  have note {s : Stage} {steps : List (Step Token)} (step : Step Token)
      (h : s.Hushed ∧ s.store = steps.foldl Step.record m) :
      (o.surroundings.note step s).Hushed ∧
        (o.surroundings.note step s).store = (steps ++ [step]).foldl Step.record m := by
    obtain ⟨hhushed, hstore⟩ := h.1.note o step
    rw [List.foldl_concat, ← h.2]
    exact ⟨hhushed, hstore⟩
  -- a creation comes after the step that asks for it, and before the one that tells its answer
  have asked {c : String} {answer : Except ControllerFailure Token} {s : Stage}
      (ha : o.surroundings.create c (o.surroundings.note (.asked c) p.scene) = (answer, s)) :
      s.Hushed ∧ s.store = (p.steps ++ [Step.asked c]).foldl Step.record m := by
    obtain ⟨hhushed, hstore⟩ := note (.asked c) h
    obtain ⟨hhushed', hstore'⟩ := hhushed.create c (o.attempt c)
    rw [show Stage.create c (o.attempt c) (o.surroundings.note (.asked c) p.scene) = _ from ha]
      at hhushed' hstore'
    exact ⟨hhushed', hstore'.trans hstore⟩
  cases hm with
  | listingFailed fault => exact note _ h
  | discovered => exact note _ h
  | launched isListed isMissing answer => exact note _ (asked answer)
  | launchFailed isListed isMissing isReal answer => exact note _ (asked answer)
  | abandoned isListed isMissing isCut answer => exact note _ (asked answer)
  | stopped isManaged isGone => exact note _ h
  | forgotten isFailed isGone => exact note _ h
  | completed => exact note _ h

theorem hushed_cycle {c : Course} (h : c.stage.Hushed) (o : Occasion) :
    (c.cycle o).stage.Hushed ∧
      (c.cycle o).stage.store = (c.progress o).steps.foldl Step.record c.stage.store :=
  cycle_keeps (P := fun p : Progress Stage Token =>
    p.scene.Hushed ∧ p.scene.store = p.steps.foldl Step.record c.stage.store)
    (fun _ _ _ hm hp => hushed_move hm hp) o.first o.listing c.stage c.roster ⟨h, rfl⟩

/-- When the token has fired a course is hushed. -/
theorem Course.hushed {turns : List Turn} (h : (run turns).stage.fired = true) :
    (run turns).stage.Hushed :=
  ⟨h, fun _ hs => (settled turns).dead_of_fired h hs⟩

namespace Course

section

variable (c : Course) (o : Occasion)

/-- A cycle changes no instance and no sample, calls no factory and reports nothing. -/
structure Idle : Prop where
  roster : (c.cycle o).roster = c.roster
  store : (c.cycle o).stage.store = c.stage.store
  uncalled : c.calls o = []
  report : c.report o = {}

/-- What a cycle does that begins after the shutdown. -/
structure Belated : Prop where
  /-- It asks for no instance. -/
  uncalled : c.calls o = []
  /-- The instances were cancelled by the shutdown, and stay so. -/
  cancelled : ∀ x ∈ c.stage.instances, c.stage.cancellation.isCancelled x.2 = true ∧
    (c.cycle o).stage.cancellation.isCancelled x.2 = true
  /-- It is idle if it sees the shutdown first, or a listed cluster has no instance. -/
  idle_iff : c.Idle o ↔ o.first = .shutdown ∨
    ∃ names, o.listing = .ok names ∧ ∃ k ∈ names, k ∉ c.roster.instances
  /-- A listing that is seen first and has failed is reported and counted. -/
  unlisted : ∀ fault, o.first = .listing → o.listing = .error fault →
    (c.cycle o).roster = c.roster ∧ c.report o = { listingFailed := true } ∧
      (c.cycle o).stage.store = c.stage.store.countListingError
  /-- If all listed clusters have instances the others are dropped, and the cycle is counted. -/
  completed : ∀ names, o.first = .listing → o.listing = .ok names →
    (∀ k ∈ names, k ∈ c.roster.instances) →
      (c.cycle o).roster = c.roster.restrict (.ofList names) ∧
      c.report o = { stopped := (c.roster.stale (.ofList names)).map (·.1) } ∧
      (c.cycle o).stage.store =
        ((((c.roster.stale (.ofList names)).map (·.1) ++ c.roster.vanished (.ofList names)).foldl
          Store.forget c.stage.store).setManaged (c.cycle o).roster.instances.size).countCycle

end

variable {c : Course} {o : Occasion}

theorem idle_of_shutdown (h : c.stage.Hushed) (ho : o.first = .shutdown) : c.Idle o := by
  have hs : ¬ o.Sees c.stage := by
    rintro (hf | hf)
    · rw [ho] at hf
      cases hf
    · exact Bool.noConfusion (h.fired.symm.trans hf)
  obtain ⟨hroster, hstage, huncalled, hreport⟩ := skipped hs
  exact ⟨hroster, congrArg Stage.store hstage, huncalled, hreport⟩

/-- A listed cluster without an instance ends a cycle after the shutdown. -/
theorem idle_of_missing (h : c.stage.Hushed) (hs : o.Sees c.stage) {names : List String}
    (hl : o.listing = .ok names) {k : String} (hk : k ∈ names)
    (hmissing : k ∉ c.roster.instances) : c.Idle o := by
  have hmem : k ∈ c.roster.missing (.ofList names) :=
    (c.roster.mem_missing _).mpr ⟨mem_listed.mpr hk, hmissing⟩
  have hp : c.progress o = Progress.take ⟨c.stage, c.roster, []⟩ o.surroundings
      (.discovered (ExtTreeSet.ofList names).toList) := by
    unfold progress Surroundings.cycle
    rw [if_neg (sees_iff.mp hs), hl]
    exact converge_of_fired (List.ne_nil_of_mem hmem) (h.note o _).1.fired
  have hsteps : (c.progress o).steps = [.discovered (ExtTreeSet.ofList names).toList] := by
    rw [hp]
    rfl
  refine ⟨congrArg (·.roster) hp, ?_, ?_, ?_⟩
  · rw [(hushed_cycle h o).2, hsteps]
    rfl
  · rw [calls_of_steps, hsteps]
    rfl
  · rw [report, hsteps]
    rfl

/-- Without one it comes to its end and has called nobody. -/
theorem followed_of_nothing_missing (hs : o.Sees c.stage) {names : List String}
    (hl : o.listing = .ok names) (hall : ∀ k ∈ names, k ∈ c.roster.instances) :
    Followed o.surroundings (.ofList names) ⟨c.stage, c.roster, []⟩ [] true (c.progress o) := by
  have hnone : c.roster.missing (.ofList names) = [] := by
    refine List.eq_nil_iff_forall_not_mem.mpr fun k hk => ?_
    obtain ⟨hlisted, hmissing⟩ := (c.roster.mem_missing _).mp hk
    exact hmissing (hall k (mem_listed.mp hlisted))
  have hcomplete : o.surroundings.completes (.ofList names) ⟨c.stage, c.roster, []⟩ = true := by
    rw [completes_iff_unhindered, hnone]
    trivial
  obtain ⟨calls, h⟩ := followed hs hl
  have hasked := h.asked
  rw [hcomplete] at h
  rw [hnone, List.prefix_nil, List.map_eq_nil_iff] at hasked
  rwa [hasked] at h

/-- What the steps of a cycle that asks for no instance make of the metrics. -/
theorem record_followed {names : List String} (h : c.stage.Hushed)
    (hf : Followed o.surroundings (.ofList names) ⟨c.stage, c.roster, []⟩ [] true (c.progress o)) :
    (c.cycle o).stage.store =
      ((((c.roster.stale (.ofList names)).map (·.1) ++ c.roster.vanished (.ofList names)).foldl
        Store.forget c.stage.store).setManaged (c.cycle o).roster.instances.size).countCycle := by
  have hsteps : (c.progress o).steps = .discovered (ExtTreeSet.ofList names).toList ::
      c.roster.closing (.ofList names) := hf.steps
  have hroster : (c.cycle o).roster = c.roster.restrict (.ofList names) := hf.roster
  rw [(hushed_cycle h o).2, hsteps, hroster, Roster.closing]
  simp only [List.foldl_cons, List.foldl_append, List.foldl_map, List.foldl_nil, Step.record]

theorem record_unlisted (h : c.stage.Hushed) (hs : o.Sees c.stage) {fault : CommandFailure}
    (hl : o.listing = .error fault) :
    (c.cycle o).stage.store = c.stage.store.countListingError := by
  have hsteps : (c.progress o).steps = [.listingFailed fault] := by
    rw [progress_of_error hs hl]
    rfl
  rw [(hushed_cycle h o).2, hsteps]
  rfl

theorem completes_of_nothing_missing (hs : o.Sees c.stage) {names : List String}
    (hl : o.listing = .ok names) (hall : ∀ k ∈ names, k ∈ c.roster.instances) :
    c.Completes o :=
  completes_iff.mpr (followed_of_nothing_missing hs hl hall).any_isCompleted

/-- After the shutdown a cycle is idle if it sees that first, and otherwise only if some cluster
lacks an instance. -/
theorem belated (turns : List Turn) (o : Occasion) (h : (run turns).stage.fired = true) :
    (run turns).Belated o := by
  have hhushed := hushed h
  generalize hc : run turns = c at h hhushed ⊢
  have hsees (ho : o.first = .listing) : o.Sees c.stage := Or.inl ho
  have completed {names : List String} (ho : o.first = .listing) (hl : o.listing = .ok names)
      (hall : ∀ k ∈ names, k ∈ c.roster.instances) :=
    followed_of_nothing_missing (hsees ho) hl hall
  refine ⟨?uncalled, ?cancelled, ⟨?busy, ?idle⟩, ?unlisted, ?completed⟩
  case uncalled =>
    cases ho : o.first with
    | shutdown => exact (idle_of_shutdown hhushed ho).uncalled
    | listing =>
      cases hl : o.listing with
      | error fault => exact (unlisted (hsees ho) hl).uncalled
      | ok names =>
        by_cases hall : ∀ k ∈ names, k ∈ c.roster.instances
        · exact calls_of_followed (completed ho hl hall)
        · push Not at hall
          obtain ⟨k, hk, hmissing⟩ := hall
          exact (idle_of_missing hhushed (hsees ho) hl hk hmissing).uncalled
  case cancelled =>
    intro x hx
    have hcancelled : c.stage.cancellation.isCancelled x.2 = true := by
      subst hc
      rw [(settled turns).sound.isCancelled_eq hx,
        show (run turns).stage.cancellation.isCancelled _ = true from h, Bool.or_true]
    exact ⟨hcancelled, Cancellation.isCancelled_mono (before_cycle c o).kept hcancelled⟩
  case busy =>
    intro hidle
    cases ho : o.first with
    | shutdown => exact Or.inl rfl
    | listing =>
      refine Or.inr ?_
      cases hl : o.listing with
      | error fault =>
        have hreport := (unlisted (hsees ho) hl).report
        rw [hidle.report] at hreport
        cases hreport
      | ok names =>
        refine ⟨names, rfl, ?_⟩
        by_contra hall
        push Not at hall
        have hcycles := (booked c o).cycles
        rw [hidle.store, if_pos (completes_of_nothing_missing (hsees ho) hl hall)] at hcycles
        exact absurd hcycles (Nat.ne_of_lt (Nat.lt_succ_self _))
  case idle =>
    rintro (ho | ⟨names, hl, k, hk, hmissing⟩)
    · exact idle_of_shutdown hhushed ho
    · cases ho : o.first with
      | shutdown => exact idle_of_shutdown hhushed ho
      | listing => exact idle_of_missing hhushed (hsees ho) hl hk hmissing
  case unlisted =>
    intro fault ho hl
    have hun := unlisted (hsees ho) hl
    exact ⟨hun.roster, hun.report, record_unlisted hhushed (hsees ho) hl⟩
  case completed =>
    intro names ho hl hall
    have hf := completed ho hl hall
    exact ⟨hf.roster, hf.report, record_followed hhushed hf⟩

/-- The instance of `a` is dropped after the shutdown, when the clusters are listed at once. -/
theorem belated_stale :
    let turns : List Turn :=
      [.cycle { listing := .ok ["a"], attempt := fun _ => {} }, .aside .shutDown]
    let o : Occasion := { first := .listing, listing := .ok [], attempt := fun _ => {} }
    (run turns).Belated o ∧ ¬ (run turns).Idle o ∧
      ((run turns).report o).stopped = ["a"] ∧
      ((run turns).cycle o).roster.managed = [] ∧
      (run turns).stage.store.cycles = 1 ∧ ((run turns).cycle o).stage.store.cycles = 2 := by
  intro turns o
  have hfired : (run turns).stage.fired = true := by decide +kernel
  have hstopped : ((run turns).report o).stopped = ["a"] := by decide +kernel
  refine ⟨belated turns o hfired, fun hidle => ?_, hstopped, by decide +kernel, by decide +kernel,
    by decide +kernel⟩
  rw [hidle.report] at hstopped
  cases hstopped

end Course

end Flotilla.Fleet
