import Flotilla.Proofs.Fleet.Interruptions

/-!
# How cycles end

A cycle ends in one of three ways: it is completed, its listing has failed, or the shutdown
interrupts it.  Each is said here of what the cycle meets, and then found again in its steps.

* `completes_iff`: the steps tell whether it was completed.
* `ending_cases`: what the cycle did, for each of the three.
* `interrupted_iff`: there is no fourth way, and no cycle ends in two.
-/

namespace Flotilla.Fleet

open Std (ExtTreeSet)

variable {S H : Type}

/-- If all creations take place nothing has cut them short. -/
theorem unhindered_of_addAll (around : Surroundings S H) (clusters : List String)
    (p : Progress S H) (h : (around.addAll clusters p).1 = true) :
    around.Unhindered clusters p.scene := by
  induction clusters generalizing p with
  | nil => trivial
  | cons c rest ih =>
    obtain ⟨⟨answer, s⟩, ha⟩ :
        ∃ x, around.create c (around.note (.asked c) p.scene) = x := ⟨_, rfl⟩
    have ha' : around.create c (p.take around (.asked c)).scene = (answer, s) := ha
    cases hf : around.fired p.scene with
    | true => simp [Surroundings.addAll, hf] at h
    | false =>
      simp only [Surroundings.addAll, hf, ha', Bool.false_eq_true, if_false] at h
      refine ⟨hf, ?_⟩
      rw [ha]
      cases answer with
      | ok x => exact ih _ h
      | error f =>
        cases hcut : f.isCancelled with
        | true => simp [hcut] at h
        | false =>
          simp only [hcut, Bool.false_eq_true, if_false] at h
          exact ⟨hcut, ih _ h⟩

theorem completes_iff_unhindered (around : Surroundings S H) (listed : ExtTreeSet String)
    (p : Progress S H) : around.completes listed p = true ↔
      around.Unhindered (p.roster.missing listed) (around.note (.discovered listed.toList) p.scene) :=
  ⟨unhindered_of_addAll around _ (p.take around (.discovered listed.toList)),
    addAll_of_unhindered around _ (p.take around (.discovered listed.toList))⟩

/-! ## What a completed cycle drops -/

namespace Followed

variable {around : Surroundings S H} {listed : ExtTreeSet String} {p q : Progress S H}
  {calls : List (Call H)} {complete : Bool}

/-- The instances to stop are those of the managed clusters that are not listed. -/
theorem mem_stale_map (h : Followed around listed p calls complete q) {k : String} :
    k ∈ ((calls.foldl Roster.answer p.roster).stale listed).map (·.1) ↔
      k ∈ p.roster.instances ∧ k ∉ listed := by
  simp only [List.mem_map, Prod.exists, h.mem_stale, Roster.mem_instances_iff]
  constructor
  · rintro ⟨_, x, ⟨hx, hk⟩, rfl⟩
    exact ⟨⟨x, hx⟩, hk⟩
  · rintro ⟨⟨x, hx⟩, hk⟩
    exact ⟨k, x, ⟨hx, hk⟩, rfl⟩

/-- The failed clusters to forget are those that had failed before and are not listed. -/
theorem mem_vanished (h : Followed around listed p calls complete q) {k : String} :
    k ∈ (calls.foldl Roster.answer p.roster).vanished listed ↔
      k ∈ p.roster.failed ∧ k ∉ listed := by
  rw [Roster.mem_vanished, failed_foldl_answer calls p.roster h.nodup]
  constructor
  · rintro ⟨⟨f, hf, -⟩ | ⟨hk, -⟩, hl⟩
    · exact absurd (h.mem_missing hf).1 hl
    · exact ⟨hk, hl⟩
  · rintro ⟨hk, hl⟩
    exact ⟨Or.inr ⟨hk, fun x hx => hl (h.mem_missing hx).1⟩, hl⟩

end Followed

/-! ## The three ways -/

namespace Course

section

variable (c : Course) (o : Occasion)

/-- A cycle is completed: its listing is seen and answers, and nothing cuts the creations short. -/
def Completes : Prop :=
  ∃ names, o.listing = .ok names ∧ o.surroundings.Undisturbed o.first names c.stage c.roster

/-- The listing of a cycle is seen, and has failed. -/
def Misses : Prop := o.Sees c.stage ∧ ∃ fault, o.listing = .error fault

/-- The shutdown interrupts a cycle: before the listing is seen, or while instances are created. -/
def Interrupted : Prop :=
  ¬ o.Sees c.stage ∨ ∃ names, o.listing = .ok names ∧
    ¬ o.surroundings.Unhindered (c.roster.missing (.ofList names))
      (o.surroundings.note (.discovered (ExtTreeSet.ofList names).toList) c.stage)

end

variable {c : Course} {o : Occasion}

/-- A cycle that sees a listing is completed when nothing cuts its creations short. -/
theorem completes_of_listing {names : List String} (hl : o.listing = .ok names) :
    c.Completes o ↔ o.Sees c.stage ∧
      o.surroundings.completes (.ofList names) ⟨c.stage, c.roster, []⟩ = true := by
  rw [completes_iff_unhindered]
  constructor
  · rintro ⟨names', hl', hs, hun⟩
    rw [hl] at hl'
    cases hl'
    exact ⟨hs, hun⟩
  · rintro ⟨hs, hun⟩
    exact ⟨names, hl, hs, hun⟩

theorem completes_iff : c.Completes o ↔ (c.progress o).steps.any Step.isCompleted = true := by
  constructor
  · rintro ⟨names, hl, hun⟩
    exact (recovers c).completes o names hl hun
  · intro h
    have hs := sees_of_isCompleted h
    cases hl : o.listing with
    | error fault =>
      rw [progress_of_error hs hl] at h
      cases h
    | ok names =>
      obtain ⟨calls, hf⟩ := followed hs hl
      rw [hf.any_isCompleted] at h
      exact (completes_of_listing hl).mpr ⟨hs, h⟩

/-- A cycle does nothing, has a listing that failed, or follows a listing. -/
theorem ending_cases (c : Course) (o : Occasion) :
    (¬ o.Sees c.stage ∧ c.Skipped o) ∨
      (∃ fault, o.listing = .error fault ∧ o.Sees c.stage ∧ c.Unlisted o fault) ∨
      ∃ names calls, o.listing = .ok names ∧ o.Sees c.stage ∧ c.calls o = calls ∧
        Followed o.surroundings (.ofList names) ⟨c.stage, c.roster, []⟩ calls
          (o.surroundings.completes (.ofList names) ⟨c.stage, c.roster, []⟩) (c.progress o) := by
  by_cases hs : o.Sees c.stage
  · cases hl : o.listing with
    | error fault => exact Or.inr (Or.inl ⟨fault, rfl, hs, unlisted hs hl⟩)
    | ok names =>
      obtain ⟨calls, hf⟩ := followed hs hl
      exact Or.inr (Or.inr ⟨names, calls, rfl, hs, calls_of_followed hf, hf⟩)
  · exact Or.inl ⟨hs, skipped hs⟩

theorem interrupted_iff : c.Interrupted o ↔ ¬ c.Completes o ∧ ¬ c.Misses o := by
  constructor
  · rintro (hs | ⟨names, hl, hun⟩)
    · exact ⟨fun ⟨_, _, hseen, _⟩ => hs hseen, fun hm => hs hm.1⟩
    · refine ⟨fun hc => hun ?_, fun ⟨_, fault, he⟩ => ?_⟩
      · exact (completes_iff_unhindered _ _ _).mp ((completes_of_listing hl).mp hc).2
      · rw [hl] at he
        cases he
  · rintro ⟨hc, hm⟩
    by_cases hs : o.Sees c.stage
    · cases hl : o.listing with
      | error fault => exact absurd ⟨hs, fault, hl⟩ hm
      | ok names =>
        refine Or.inr ⟨names, hl, fun hun => hc ((completes_of_listing hl).mpr ⟨hs, ?_⟩)⟩
        exact (completes_iff_unhindered _ _ _).mpr hun
    · exact Or.inl hs

/-- Without an interruption a listing is followed to the end. -/
theorem followed_of_uninterrupted (hi : ¬ c.Interrupted o) {names : List String}
    (hl : o.listing = .ok names) : c.Completes o ∧
      Followed o.surroundings (.ofList names) ⟨c.stage, c.roster, []⟩ (c.calls o) true
        (c.progress o) := by
  have hcomplete : c.Completes o := by
    by_contra hn
    refine hi (interrupted_iff.mpr ⟨hn, fun ⟨_, fault, he⟩ => ?_⟩)
    rw [hl] at he
    cases he
  obtain ⟨hs, hall⟩ := (completes_of_listing hl).mp hcomplete
  obtain ⟨calls, h⟩ := followed hs hl
  rw [← calls_of_followed h, hall] at h
  exact ⟨hcomplete, h⟩

theorem Misses.not_completes (h : c.Misses o) : ¬ c.Completes o := by
  rintro ⟨names, hl, -⟩
  obtain ⟨-, fault, he⟩ := h
  rw [hl] at he
  cases he

end Course

end Flotilla.Fleet
