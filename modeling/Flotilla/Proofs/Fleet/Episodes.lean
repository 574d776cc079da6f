import Flotilla.Fleet.Course
import Flotilla.Proofs.Fleet.Reports

/-!
# The episodes of a course

What one cycle does to what is managed, told by its listing and its steps: what it
keeps and what it drops, what it brings, and what is left when it is complete.
-/

namespace Flotilla.Fleet

open Std (ExtTreeMap ExtTreeSet)

/-- The cycle was complete and its listing omitted a cluster. -/
def Episode.Drops (e : Episode) (cluster : String) : Prop :=
  e.steps.any Step.isCompleted = true ∧ ∃ names, e.listing = .ok names ∧ cluster ∉ names

/-- Whether a cluster is managed or has failed. -/
def Roster.Has (r : Roster Token) (c : String) : Prop := c ∈ r.instances ∨ c ∈ r.failed

/-! ## One cycle -/

section Cycle

variable {o : Occasion} {scene : Stage} {roster : Roster Token} {c : String} {t : Token}

variable (o scene) in
/-- A managed instance is kept, or the cycle drops its cluster and stops it. -/
theorem kept_or_dropped (h : roster.instances[c]? = some t) :
    let p := o.surroundings.cycle o.first o.listing scene roster
    (¬ Episode.Drops ⟨o.listing, p.steps⟩ c ∧ p.roster.instances[c]? = some t) ∨
      (Episode.Drops ⟨o.listing, p.steps⟩ c ∧ .stopped c t ∈ p.steps) := by
  intro p
  rcases cycle_cases o.surroundings o.first o.listing scene roster with
    hp | ⟨fault, -, hp⟩ | ⟨names, calls, complete, hl, hf⟩
  · have hp : p = { scene, roster } := hp
    rw [hp]
    exact Or.inl ⟨fun hd => Bool.noConfusion hd.1, h⟩
  · have hp : p = _ := hp
    rw [hp]
    exact Or.inl ⟨fun hd => Bool.noConfusion hd.1, h⟩
  · have hf : Followed o.surroundings (.ofList names) ⟨scene, roster, []⟩ calls complete p := hf
    have hdrops : Episode.Drops ⟨o.listing, p.steps⟩ c ↔ complete = true ∧ c ∉ names := by
      simp only [Episode.Drops, hf.any_isCompleted, hl, Except.ok.injEq, exists_eq_left']
    cases complete with
    | false =>
      exact Or.inl ⟨fun hd => Bool.noConfusion (hdrops.mp hd).1,
        (hf.instances_cut c t).mpr (Or.inr h)⟩
    | true =>
      by_cases hc : c ∈ names
      · exact Or.inl ⟨fun hd => (hdrops.mp hd).2 hc,
          (hf.instances_complete c t).mpr ⟨mem_listed.mpr hc, Or.inr h⟩⟩
      · exact Or.inr ⟨hdrops.mpr ⟨rfl, hc⟩,
          hf.stopped_mem.mpr ⟨rfl, h, fun hm => hc (mem_listed.mp hm)⟩⟩

/-- An instance that a cycle brings is managed after it. -/
theorem managed_of_launched
    (h : .launched c t ∈ (o.surroundings.cycle o.first o.listing scene roster).steps) :
    (o.surroundings.cycle o.first o.listing scene roster).roster.instances[c]? = some t := by
  rcases cycle_cases o.surroundings o.first o.listing scene roster with
    hp | ⟨fault, -, hp⟩ | ⟨names, calls, complete, hl, hf⟩
  · rw [hp] at h
    cases h
  · rw [hp] at h
    cases List.mem_singleton.mp h
  · have hcall := hf.launched_mem.mp h
    cases complete with
    | false => exact (hf.instances_cut c t).mpr (Or.inl hcall)
    | true => exact (hf.instances_complete c t).mpr ⟨(hf.mem_missing hcall).1, Or.inl hcall⟩

/-- A cluster that a cycle brings was listed and was asked of the factory. -/
theorem asked_of_has {c : String}
    (h : (o.surroundings.cycle o.first o.listing scene roster).roster.Has c) :
    roster.Has c ∨ (∃ names, o.listing = .ok names ∧ c ∈ names) ∧
      .asked c ∈ (o.surroundings.cycle o.first o.listing scene roster).steps := by
  rcases cycle_cases o.surroundings o.first o.listing scene roster with
    hp | ⟨fault, -, hp⟩ | ⟨names, calls, complete, hl, hf⟩
  · rw [hp] at h
    exact Or.inl h
  · rw [hp] at h
    exact Or.inl h
  · -- what the calls did not bring was there before
    have hanswered : (calls.foldl Roster.answer roster).Has c := by
      cases complete with
      | false =>
        rw [hf.roster_cut] at h
        exact h
      | true =>
        rw [hf.roster_complete] at h
        rcases h with h | h
        · exact Or.inl ((Roster.mem_instances_restrict _ _ c).mp h).1
        · exact Or.inr ((Roster.mem_failed_restrict _ _ c).mp h).1
    have hcall {a : Except ControllerFailure Token} (ha : (c, a) ∈ calls) :
        (∃ names, o.listing = .ok names ∧ c ∈ names) ∧
          .asked c ∈ (o.surroundings.cycle o.first o.listing scene roster).steps := by
      refine ⟨⟨names, hl, mem_listed.mp (hf.mem_missing ha).1⟩, ?_⟩
      rw [hf.steps]
      refine List.mem_append_right _ (List.mem_cons_of_mem _ (List.mem_append_left _ ?_))
      exact List.mem_flatMap.mpr ⟨_, ha, List.mem_cons_self⟩
    rcases hanswered with hi | hfailed
    · obtain ⟨t, ht⟩ := Roster.mem_instances_iff _ |>.mp hi
      rcases (hf.instances_answered c t).mp ht with ha | hold
      · exact Or.inr (hcall ha)
      · exact Or.inl (Or.inl (roster.mem_instances_iff.mpr ⟨t, hold⟩))
    · rcases (failed_foldl_answer calls roster hf.nodup c).mp hfailed with ⟨f, ha, -⟩ | ⟨hold, -⟩
      · exact Or.inr (hcall ha)
      · exact Or.inl (Or.inr hold)

/-- After a complete cycle there is nothing that was not listed. -/
theorem listed_of_has {names : List String} (hl : o.listing = .ok names)
    (hcomplete : (o.surroundings.cycle o.first o.listing scene roster).steps.any
      Step.isCompleted = true) {c : String}
    (h : (o.surroundings.cycle o.first o.listing scene roster).roster.Has c) : c ∈ names := by
  rcases cycle_cases o.surroundings o.first o.listing scene roster with
    hp | ⟨fault, -, hp⟩ | ⟨names', calls, complete, hl', hf⟩
  · rw [hp] at hcomplete
    cases hcomplete
  · rw [hp] at hcomplete
    cases hcomplete
  · rw [hl] at hl'
    cases hl'
    rw [hf.any_isCompleted] at hcomplete
    subst hcomplete
    rw [hf.roster_complete] at h
    rw [← mem_listed]
    rcases h with h | h
    · exact ((Roster.mem_instances_restrict _ _ c).mp h).2
    · exact ((Roster.mem_failed_restrict _ _ c).mp h).2

end Cycle

/-! ## A course -/

namespace Course

/-- What holds at the start and is kept by every turn holds of every course. -/
theorem run_keeps {P : Course → Prop} (start : P {})
    (keep : ∀ c t, P c → P (c.turn t)) (turns : List Turn) : P (run turns) := by
  have go (c : Course) (hc : P c) : P (c.go turns) := by
    induction turns generalizing c with
    | nil => exact hc
    | cons t rest ih => exact ih _ (keep c t hc)
  exact go {} start

theorem run_concat (turns : List Turn) (t : Turn) : run (turns ++ [t]) = (run turns).turn t :=
  List.foldl_concat turn {} t turns

theorem steps_cycle (c : Course) (o : Occasion) :
    (c.cycle o).steps = c.steps ++ (c.progress o).steps := by
  simp [Course.steps, Course.cycle]

/-- An episode of a course with one more is the new one or one of the others. -/
theorem episode_cases {l : List Episode} {e e' : Episode} {j : Nat}
    (h : (l ++ [e])[j]? = some e') :
    (j < l.length ∧ l[j]? = some e') ∨ (j = l.length ∧ e' = e) := by
  rw [List.getElem?_append] at h
  split at h
  · next hj => exact Or.inl ⟨hj, h⟩
  · next hj =>
    obtain ⟨hlt, he⟩ := List.getElem?_eq_some_iff.mp h
    have hj' : j = l.length := by
      simp only [List.length_cons, List.length_nil] at hlt
      omega
    subst hj'
    simp at he
    exact Or.inr ⟨rfl, he.symm⟩

/-- An episode stays where it is. -/
theorem episode_kept {l : List Episode} {e e' : Episode} {j : Nat} (h : l[j]? = some e') :
    (l ++ [e])[j]? = some e' := by
  rw [List.getElem?_append_left (List.getElem?_eq_some_iff.mp h).1, h]

end Course

end Flotilla.Fleet
