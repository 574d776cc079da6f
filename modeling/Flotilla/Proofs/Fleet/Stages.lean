import Flotilla.Fleet.Course

/-!
# Laws of the stage

What goes on beside the cycles writes metrics and may fire the token of the
process, and does nothing else.  Two stages between which nothing else happened
are `Alike`.  A step of a cycle is noted just so, but for a stop, which fires the
token of the instance.
-/

namespace Flotilla.Fleet

namespace Stage

open Instance (Attempt)

/-- Nothing happened between two stages but to the metrics and to the token of the process. -/
structure Alike (s s' : Stage) : Prop where
  process : s'.process = s.process
  instances : s'.instances = s.instances
  sinks : s'.sinks = s.sinks
  next : s'.cancellation.next = s.cancellation.next
  kept : ∀ n ∈ s.cancellation.fired, n ∈ s'.cancellation.fired
  only : ∀ n ∈ s'.cancellation.fired, n ∈ s.cancellation.fired ∨ n = s.process.number

/-! ## What goes on beside the cycles -/

theorem mem_fired_fire (s : Stage) (t : Token) (n : Nat) :
    n ∈ (s.fire t).cancellation.fired ↔ n = t.number ∨ n ∈ s.cancellation.fired := by
  show n ∈ s.cancellation.fired.insert t.number ↔ _
  rw [Std.ExtTreeSet.mem_insert, Std.LawfulEqOrd.compare_eq_iff_eq, eq_comm]

theorem alike_withStore (s : Stage) (m : Metrics.Store) : s.Alike (s.withStore m) :=
  ⟨rfl, rfl, rfl, rfl, fun _ h => h, fun _ h => Or.inl h⟩

theorem Alike.refl (s : Stage) : s.Alike s := alike_withStore s s.store

theorem Alike.trans {s s' s'' : Stage} (h : s.Alike s') (h' : s'.Alike s'') : s.Alike s'' where
  process := h'.process.trans h.process
  instances := h'.instances.trans h.instances
  sinks := h'.sinks.trans h.sinks
  next := h'.next.trans h.next
  kept n hn := h'.kept n (h.kept n hn)
  only n hn := by
    rcases h'.only n hn with hn | hn
    · exact h.only n hn
    · exact Or.inr (hn.trans (congrArg Token.number h.process))

theorem alike_shutDown (s : Stage) : s.Alike s.shutDown where
  process := rfl
  instances := rfl
  sinks := rfl
  next := rfl
  kept n hn := (s.mem_fired_fire s.process n).mpr (Or.inr hn)
  only n hn := ((s.mem_fired_fire s.process n).mp hn).symm

theorem alike_aside (s : Stage) (a : Aside) : s.Alike (s.aside a) := by
  cases a with
  | shutDown => exact s.alike_shutDown
  | write cluster place write =>
    simp only [aside]
    split
    · exact s.alike_withStore _
    · exact Alike.refl s

theorem alike_asides (s : Stage) (asides : List Aside) : s.Alike (asides.foldl aside s) := by
  induction asides generalizing s with
  | nil => exact Alike.refl s
  | cons a rest ih => exact (s.alike_aside a).trans (ih _)

/-! ## Steps -/

/-- A step that is no stop changes the metrics only. -/
theorem note_eq (s : Stage) {step : Step Token} (h : ∀ c t, step ≠ .stopped c t) :
    s.note step = s.withStore (step.record s.store) := by
  cases step with
  | stopped c t => exact absurd rfl (h c t)
  | _ => rfl

theorem alike_note (o : Occasion) (s : Stage) {step : Step Token}
    (h : ∀ c t, step ≠ .stopped c t) : s.Alike (o.surroundings.note step s) := by
  refine Alike.trans ?_ (alike_asides _ (o.asides step))
  rw [s.note_eq h]
  exact s.alike_withStore _

theorem alike_note_stopped (o : Occasion) (s : Stage) (c : String) (t : Token) :
    (s.fire t).Alike (o.surroundings.note (.stopped c t) s) :=
  (alike_withStore _ _).trans (alike_asides _ (o.asides (.stopped c t)))

/-! ## Creations -/

section Build

variable (s : Stage) (c : String) (a : Attempt)

@[simp] theorem sinks_build :
    (s.build c a).2.sinks = s.sinks ++ [⟨c, some (s.build c a).1⟩] := rfl

variable {s c a}

/-- A creation that gives an instance gives the token that was built. -/
theorem create_ok {t : Token} {s' : Stage} (h : create c a s = (.ok t, s')) :
    t = (s.build c a).1 ∧
      s' = { (s.build c a).2 with instances := s.instances ++ [(c, t)] } := by
  simp only [create] at h
  split at h
  · cases h
  · cases h
    exact ⟨rfl, rfl⟩

/-- A creation that fails fires the token that was built. -/
theorem create_error {f : ControllerFailure} {s' : Stage} (h : create c a s = (.error f, s')) :
    a.failure = some f ∧ s' = (s.build c a).2.fire (s.build c a).1 := by
  simp only [create] at h
  split at h
  · next f' hf =>
    cases h
    exact ⟨hf, rfl⟩
  · cases h

end Build

end Stage

end Flotilla.Fleet
