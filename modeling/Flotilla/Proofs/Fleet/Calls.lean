import Mathlib.Data.List.Nodup
import Flotilla.Proofs.Fleet.Roster

/-!
# The calls of a cycle

The creations of a cycle come to a list of calls of the factory, each with its
answer.  `Additions` says how the steps and the roster follow from the calls, and
`Followed` says it of a whole cycle: after the calls it either ends, because the
shutdown came, or drops from the roster what is not listed.

* `addAll_spec`, `converge_spec`: every cycle has such calls.
-/

namespace Flotilla.Fleet

open Std (ExtTreeMap ExtTreeSet)

variable {S H : Type}

/-- A call of the factory: the cluster and the answer. -/
abbrev Call (H : Type) := String × Except ControllerFailure H

/-- Whether a call was cut short by the shutdown. -/
def Call.isCut : Call H → Bool
  | (_, .ok _) => false
  | (_, .error failure) => failure.isCancelled

/-- The step that an answer leads to. -/
def Call.step : Call H → Step H
  | (c, .ok h) => .launched c h
  | (c, .error f) => if f.isCancelled then .abandoned c else .launchFailed c f

/-- The steps that a call leads to. -/
def Call.steps (call : Call H) : List (Step H) := [.asked call.1, call.step]

/-- The roster after a call. -/
def Roster.answer (r : Roster H) : Call H → Roster H
  | (c, .ok h) => r.launch c h
  | (c, .error f) => if f.isCancelled then r else r.fail c

/-! ## Creations -/

/-- What the creations did. -/
structure Additions (around : Surroundings S H) (clusters : List String) (p : Progress S H)
    (calls : List (Call H)) (all : Bool) (q : Progress S H) : Prop where
  /-- The clusters are asked for in order. -/
  asked : calls.map (·.1) <+: clusters
  /-- The steps are those of the calls. -/
  steps : q.steps = p.steps ++ calls.flatMap Call.steps
  /-- The roster follows the answers. -/
  roster : q.roster = calls.foldl Roster.answer p.roster
  /-- If nothing came between, all were asked for and none was cut short. -/
  whole : all = true → calls.map (·.1) = clusters ∧ ∀ call ∈ calls, call.isCut = false
  /-- Otherwise the last call was cut short, or the token was seen fired before the next one. -/
  part : all = false →
    (∃ start last, calls = start ++ [last] ∧ last.isCut = true ∧
      ∀ call ∈ start, call.isCut = false) ∨
    (around.fired q.scene = true ∧ calls.length < clusters.length ∧
      ∀ call ∈ calls, call.isCut = false)

/-- A call that is not cut short, and then further creations. -/
theorem Additions.cons {around : Surroundings S H} {c : String} {rest : List String}
    {p p' q : Progress S H} {calls : List (Call H)} {all : Bool}
    {answer : Except ControllerFailure H} (hcut : Call.isCut (c, answer) = false)
    (hsteps : p'.steps = p.steps ++ Call.steps (c, answer))
    (hroster : p'.roster = p.roster.answer (c, answer))
    (h : Additions around rest p' calls all q) :
    Additions around (c :: rest) p ((c, answer) :: calls) all q where
  asked := by simpa using h.asked
  steps := by simp [h.steps, hsteps]
  roster := by simp [h.roster, hroster]
  whole ha := by
    obtain ⟨hm, hc⟩ := h.whole ha
    exact ⟨by simp [hm], by simpa [hcut] using hc⟩
  part ha := by
    rcases h.part ha with ⟨start, last, rfl, hl, hs⟩ | ⟨hf, hlt, hc⟩
    · exact Or.inl ⟨(c, answer) :: start, last, rfl, hl, by simpa [hcut] using hs⟩
    · exact Or.inr ⟨hf, by simpa using hlt, by simpa [hcut] using hc⟩

/-- The creations come to some calls. -/
theorem addAll_spec (around : Surroundings S H) (clusters : List String) (p : Progress S H) :
    ∃ calls, Additions around clusters p calls (around.addAll clusters p).1
      (around.addAll clusters p).2 := by
  induction clusters generalizing p with
  | nil => exact ⟨[], by simp, by simp [Surroundings.addAll], by simp [Surroundings.addAll],
      by simp, by simp [Surroundings.addAll]⟩
  | cons c rest ih =>
    simp only [Surroundings.addAll]
    split
    · next hf =>
      exact ⟨[], by simp, by simp, by simp, by simp, fun _ => Or.inr ⟨hf, by simp, by simp⟩⟩
    · split
      · next h s _ =>
        obtain ⟨calls, hc⟩ := ih (Progress.take ⟨s, p.roster.launch c h, p.steps ++ [.asked c]⟩
          around (.launched c h))
        refine ⟨(c, .ok h) :: calls, hc.cons rfl ?_ rfl⟩
        simp [Progress.take, Call.steps, Call.step]
      · next f s _ =>
        split
        · next hf =>
          refine ⟨[(c, .error f)], by simp, ?_, ?_, by simp, fun _ => Or.inl ?_⟩
          · simp [Progress.take, Call.steps, Call.step, hf]
          · simp [Progress.take, Roster.answer, hf]
          · exact ⟨[], (c, .error f), rfl, hf, by simp⟩
        · next hf =>
          obtain ⟨calls, hc⟩ := ih (Progress.take ⟨s, p.roster.fail c, p.steps ++ [.asked c]⟩
            around (.launchFailed c f))
          refine ⟨(c, .error f) :: calls, hc.cons (by simpa [Call.isCut] using hf) ?_ ?_⟩
          · simp [Progress.take, Call.steps, Call.step, hf]
          · simp [Progress.take, Roster.answer, hf]

/-- The instances after some calls for different clusters: each created one has its own. -/
theorem instances_foldl_answer (calls : List (Call H)) (r : Roster H)
    (hn : (calls.map (·.1)).Nodup) (k : String) (h : H) :
    (calls.foldl Roster.answer r).instances[k]? = some h ↔
      (k, .ok h) ∈ calls ∨ (r.instances[k]? = some h ∧ ∀ h', (k, .ok h') ∉ calls) := by
  induction calls generalizing r with
  | nil => simp
  | cons call rest ih =>
    obtain ⟨c, answer⟩ := call
    rw [List.map_cons, List.nodup_cons] at hn
    have hnew : ∀ k' h', (k', Except.ok h') ∈ rest → c ≠ k' := by
      rintro k' h' hm rfl
      exact hn.1 (List.mem_map_of_mem (f := (·.1)) hm)
    rw [List.foldl_cons, ih _ hn.2]
    cases answer with
    | ok h₀ =>
      simp only [Roster.answer, Roster.instances_launch]
      by_cases hk : c = k
      · subst hk
        have hno : ∀ h', (c, Except.ok h') ∉ rest := fun h' hm => hnew c h' hm rfl
        simp [hno, eq_comm]
      · simp [hk, Ne.symm hk]
    | error f =>
      have hsame : (r.answer (c, .error f)).instances = r.instances := by
        simp only [Roster.answer]
        split <;> rfl
      simp [hsame]

/-- Of two calls for one cluster there are no two answers. -/
theorem answer_unique {calls : List (Call H)} (hn : (calls.map (·.1)).Nodup) {c : String}
    {a b : Except ControllerFailure H} (ha : (c, a) ∈ calls) (hb : (c, b) ∈ calls) : a = b :=
  congrArg Prod.snd (List.inj_on_of_nodup_map hn ha hb rfl)

/-- The failed clusters after some calls for different clusters. -/
theorem failed_foldl_answer (calls : List (Call H)) (r : Roster H)
    (hn : (calls.map (·.1)).Nodup) (k : String) :
    k ∈ (calls.foldl Roster.answer r).failed ↔
      (∃ f, (k, .error f) ∈ calls ∧ f.isCancelled = false) ∨
        (k ∈ r.failed ∧ ∀ h, (k, .ok h) ∉ calls) := by
  induction calls generalizing r with
  | nil => simp
  | cons call rest ih =>
    obtain ⟨c, answer⟩ := call
    rw [List.map_cons, List.nodup_cons] at hn
    have hnew : ∀ k' a, (k', a) ∈ rest → c ≠ k' := by
      rintro k' a hm rfl
      exact hn.1 (List.mem_map_of_mem (f := (·.1)) hm)
    rw [List.foldl_cons, ih _ hn.2]
    cases answer with
    | ok h₀ =>
      simp only [Roster.answer, Roster.mem_failed_launch]
      by_cases hk : c = k
      · subst hk
        have hno : ∀ a, (c, a) ∉ rest := fun a hm => hnew c a hm rfl
        simp [hno]
      · simp [hk, Ne.symm hk]
    | error f =>
      simp only [Roster.answer]
      by_cases hk : c = k
      · subst hk
        have hno : ∀ a, (c, a) ∉ rest := fun a hm => hnew c a hm rfl
        cases hf : f.isCancelled <;> simp [hno, hf, Roster.mem_failed_fail]
      · cases hf : f.isCancelled <;> simp [hk, Ne.symm hk, Roster.mem_failed_fail]

/-! ## The end of a cycle -/

/-- The roster without what is not listed. -/
def Roster.restrict (r : Roster H) (listed : ExtTreeSet String) : Roster H where
  instances := r.instances.filter fun c _ => listed.contains c
  failed := r.failed ∩ listed

/-- The steps at the end of a complete cycle. -/
def Roster.closing (r : Roster H) (listed : ExtTreeSet String) : List (Step H) :=
  (r.stale listed).map (fun x => .stopped x.1 x.2) ++ (r.vanished listed).map .forgotten ++
    [.completed (r.restrict listed).instances.size]

theorem Roster.instances_restrict (r : Roster H) (listed : ExtTreeSet String) (k : String) :
    (r.restrict listed).instances[k]? = if k ∈ listed then r.instances[k]? else none := by
  by_cases h : k ∈ listed
  · have hc : listed.contains k = true := h
    simp only [restrict, ExtTreeMap.getElem?_filter', hc, h, if_true]
    cases r.instances[k]? <;> rfl
  · have hc : listed.contains k = false := Bool.eq_false_iff.mpr h
    simp [restrict, h, hc]

theorem Roster.mem_failed_restrict (r : Roster H) (listed : ExtTreeSet String) (k : String) :
    k ∈ (r.restrict listed).failed ↔ k ∈ r.failed ∧ k ∈ listed := by
  simp [restrict]

theorem Roster.mem_instances_restrict (r : Roster H) (listed : ExtTreeSet String) (k : String) :
    k ∈ (r.restrict listed).instances ↔ k ∈ r.instances ∧ k ∈ listed := by
  simp only [mem_instances_iff, instances_restrict]
  split <;> simp_all

theorem stopAll_steps (around : Surroundings S H) (stale : List (String × H))
    (p : Progress S H) :
    (around.stopAll stale p).steps = p.steps ++ stale.map fun x => .stopped x.1 x.2 := by
  induction stale generalizing p with
  | nil => simp [Surroundings.stopAll]
  | cons x rest ih => simp [Surroundings.stopAll, ih, Progress.take]

theorem stopAll_roster (around : Surroundings S H) (stale : List (String × H))
    (p : Progress S H) (k : String) :
    (around.stopAll stale p).roster.instances[k]? =
        (if k ∈ stale.map (·.1) then none else p.roster.instances[k]?) ∧
      (around.stopAll stale p).roster.failed = p.roster.failed := by
  induction stale generalizing p with
  | nil => simp [Surroundings.stopAll]
  | cons x rest ih =>
    simp only [Surroundings.stopAll, ih, Progress.take, Roster.instances_stop, Roster.failed_stop]
    grind

theorem forgetAll_steps (around : Surroundings S H) (vanished : List String)
    (p : Progress S H) :
    (around.forgetAll vanished p).steps = p.steps ++ vanished.map .forgotten := by
  induction vanished generalizing p with
  | nil => simp [Surroundings.forgetAll]
  | cons c rest ih => simp [Surroundings.forgetAll, ih, Progress.take]

theorem forgetAll_roster (around : Surroundings S H) (vanished : List String)
    (p : Progress S H) (k : String) :
    (around.forgetAll vanished p).roster.instances = p.roster.instances ∧
      (k ∈ (around.forgetAll vanished p).roster.failed ↔ k ∈ p.roster.failed ∧ k ∉ vanished) := by
  induction vanished generalizing p with
  | nil => simp [Surroundings.forgetAll]
  | cons c rest ih =>
    simp only [Surroundings.forgetAll, ih, Progress.take, Roster.instances_forget,
      Roster.mem_failed_forget, true_and]
    grind

/-- The order in which failed clusters are forgotten does not matter for the roster. -/
theorem forgetAll_roster_congr (around : Surroundings S H) {l l' : List String}
    (h : ∀ c, c ∈ l ↔ c ∈ l') (p : Progress S H) :
    (around.forgetAll l p).roster = (around.forgetAll l' p).roster := by
  have hi : (around.forgetAll l p).roster.instances = (around.forgetAll l' p).roster.instances := by
    rw [(forgetAll_roster around l p "").1, (forgetAll_roster around l' p "").1]
  have hf : (around.forgetAll l p).roster.failed = (around.forgetAll l' p).roster.failed := by
    refine ExtTreeSet.ext_mem fun k => ?_
    rw [(forgetAll_roster around l p k).2, (forgetAll_roster around l' p k).2, h]
  cases hl : (around.forgetAll l p).roster
  cases hl' : (around.forgetAll l' p).roster
  simp_all

/-- Once the instances that are not listed are stopped and the failed clusters that are not listed
are forgotten, the roster is without what is not listed. -/
theorem roster_of_closing (around : Surroundings S H) (listed : ExtTreeSet String)
    (p : Progress S H) :
    (around.forgetAll (p.roster.vanished listed)
      (around.stopAll (p.roster.stale listed) p)).roster = p.roster.restrict listed := by
  have hstale (k : String) : k ∈ (p.roster.stale listed).map (·.1) ↔
      k ∈ p.roster.instances ∧ k ∉ listed := by
    simp only [List.mem_map, Prod.exists, Roster.mem_stale, Roster.mem_instances_iff]
    grind
  generalize p.roster.stale listed = stale at hstale ⊢
  generalize hv : p.roster.vanished listed = vanished
  have hvanished (k : String) : k ∈ vanished ↔ k ∈ p.roster.failed ∧ k ∉ listed := by
    rw [← hv, Roster.mem_vanished]
  have hi : (around.forgetAll vanished (around.stopAll stale p)).roster.instances =
      (p.roster.restrict listed).instances := by
    refine ExtTreeMap.ext_getElem? fun k => ?_
    rw [(forgetAll_roster around vanished _ k).1, (stopAll_roster around stale p k).1,
      Roster.instances_restrict]
    by_cases hl : k ∈ listed
    · simp [hstale, hl]
    · by_cases hk : k ∈ p.roster.instances
      · simp [hstale, hl, hk]
      · simp [hstale, hl, ExtTreeMap.getElem?_eq_none hk]
  have hf : (around.forgetAll vanished (around.stopAll stale p)).roster.failed =
      (p.roster.restrict listed).failed := by
    refine ExtTreeSet.ext_mem fun k => ?_
    rw [(forgetAll_roster around vanished _ k).2, (stopAll_roster around stale p k).2,
      Roster.mem_failed_restrict, hvanished]
    grind
  calc (around.forgetAll vanished (around.stopAll stale p)).roster
      = ⟨(p.roster.restrict listed).instances, (p.roster.restrict listed).failed⟩ := by
        rw [← hi, ← hf]
    _ = p.roster.restrict listed := rfl

/-! ## The whole cycle -/

/-- What a cycle that follows a listing did. -/
structure Followed (around : Surroundings S H) (listed : ExtTreeSet String) (p : Progress S H)
    (calls : List (Call H)) (complete : Bool) (q : Progress S H) : Prop where
  /-- The missing clusters are asked for in order. -/
  asked : calls.map (·.1) <+: p.roster.missing listed
  /-- The steps are those of the calls, and those of the end of a complete cycle. -/
  steps : q.steps = p.steps ++ .discovered listed.toList :: (calls.flatMap Call.steps ++
    if complete then (calls.foldl Roster.answer p.roster).closing listed else [])
  /-- The roster follows the answers, and after a complete cycle has nothing that is not listed. -/
  roster : q.roster =
    if complete then (calls.foldl Roster.answer p.roster).restrict listed
    else calls.foldl Roster.answer p.roster
  /-- In a complete cycle all missing clusters were asked for and no call was cut short. -/
  whole : complete = true →
    calls.map (·.1) = p.roster.missing listed ∧ ∀ call ∈ calls, call.isCut = false
  /-- Otherwise the last call was cut short, or the token was seen fired before the next one. -/
  part : complete = false →
    (∃ start last, calls = start ++ [last] ∧ last.isCut = true ∧
      ∀ call ∈ start, call.isCut = false) ∨
    (around.fired q.scene = true ∧ calls.length < (p.roster.missing listed).length ∧
      ∀ call ∈ calls, call.isCut = false)

/-- Whether a cycle that follows a listing gets past its creations. -/
def Surroundings.completes (around : Surroundings S H) (listed : ExtTreeSet String)
    (p : Progress S H) : Bool :=
  (around.addAll (p.roster.missing listed) (p.take around (.discovered listed.toList))).1

/-- A cycle that follows a listing comes to some calls. -/
theorem converge_spec (around : Surroundings S H) (listed : ExtTreeSet String)
    (p : Progress S H) :
    ∃ calls, Followed around listed p calls (around.completes listed p)
      (around.converge listed p) := by
  obtain ⟨calls, h⟩ :=
    addAll_spec around (p.roster.missing listed) (p.take around (.discovered listed.toList))
  refine ⟨calls, ?_⟩
  unfold Surroundings.converge Surroundings.completes
  simp only
  rw [show (p.take around (.discovered listed.toList)).roster = p.roster from rfl]
  generalize around.addAll (p.roster.missing listed) _ = x at h ⊢
  obtain ⟨complete, q⟩ := x
  have hsteps : q.steps = p.steps ++ .discovered listed.toList :: calls.flatMap Call.steps := by
    simpa [Progress.take] using h.steps
  have hroster : q.roster = calls.foldl Roster.answer p.roster := h.roster
  cases complete with
  | false => exact ⟨h.asked, by simpa using hsteps, by simpa using hroster, h.whole, h.part⟩
  | true =>
    have hv : (around.stopAll (q.roster.stale listed) q).roster.vanished listed =
        q.roster.vanished listed := by
      rw [Roster.vanished, Roster.vanished, (stopAll_roster around _ q "").2]
    have hr := roster_of_closing around listed q
    simp only [hv]
    refine ⟨h.asked, ?_, ?_, h.whole, fun hf => absurd hf (by simp)⟩ <;> rw [← hroster]
    · simp [Progress.take, hr, forgetAll_steps, stopAll_steps, hsteps, Roster.closing]
    · simp [Progress.take, hr]

/-- A cycle comes to nothing, or the listing failed, or a listing was followed. -/
theorem cycle_cases (around : Surroundings S H) (first : First)
    (listing : Except CommandFailure (List String)) (scene : S) (roster : Roster H) :
    around.cycle first listing scene roster = { scene, roster } ∨
      (∃ fault, listing = .error fault ∧ around.cycle first listing scene roster =
        Progress.take { scene, roster } around (.listingFailed fault)) ∨
      ∃ names calls complete, listing = .ok names ∧
        Followed around (.ofList names) ⟨scene, roster, []⟩ calls complete
          (around.cycle first listing scene roster) := by
  unfold Surroundings.cycle
  split
  · exact Or.inl rfl
  · cases listing with
    | error fault => exact Or.inr (Or.inl ⟨fault, rfl, rfl⟩)
    | ok names =>
      obtain ⟨calls, h⟩ := converge_spec around (.ofList names) ⟨scene, roster, []⟩
      exact Or.inr (Or.inr ⟨names, calls, _, rfl, h⟩)

/-! ## What follows of the calls -/

namespace Followed

variable {around : Surroundings S H} {listed : ExtTreeSet String} {p q : Progress S H}
  {calls : List (Call H)} {complete : Bool}

/-- Only listed clusters without an instance are asked for. -/
theorem mem_missing (h : Followed around listed p calls complete q) {c : String}
    {a : Except ControllerFailure H} (hc : (c, a) ∈ calls) :
    c ∈ listed ∧ c ∉ p.roster.instances :=
  (p.roster.mem_missing listed).mp (h.asked.subset (List.mem_map_of_mem (f := (·.1)) hc))

theorem ascending (h : Followed around listed p calls complete q) :
    (calls.map (·.1)).Pairwise (· < ·) :=
  (p.roster.missing_ascending listed).sublist h.asked.sublist

theorem nodup (h : Followed around listed p calls complete q) : (calls.map (·.1)).Nodup :=
  nodup_of_ascending h.ascending

/-- After the calls the old instances are there and the created ones. -/
theorem instances_answered (h : Followed around listed p calls complete q) (c : String) (x : H) :
    (calls.foldl Roster.answer p.roster).instances[c]? = some x ↔
      (c, .ok x) ∈ calls ∨ p.roster.instances[c]? = some x := by
  rw [instances_foldl_answer calls p.roster h.nodup]
  constructor
  · rintro (hx | ⟨hx, -⟩)
    · exact Or.inl hx
    · exact Or.inr hx
  · rintro (hx | hx)
    · exact Or.inl hx
    · refine Or.inr ⟨hx, fun x' hx' => (h.mem_missing hx').2 ?_⟩
      exact p.roster.mem_instances_iff.mpr ⟨x, hx⟩

/-- The instances to stop are the old ones that are not listed. -/
theorem mem_stale (h : Followed around listed p calls complete q) {c : String} {x : H} :
    (c, x) ∈ (calls.foldl Roster.answer p.roster).stale listed ↔
      p.roster.instances[c]? = some x ∧ c ∉ listed := by
  rw [Roster.mem_stale, h.instances_answered]
  constructor
  · rintro ⟨hx | hx, hc⟩
    · exact absurd (h.mem_missing hx).1 hc
    · exact ⟨hx, hc⟩
  · rintro ⟨hx, hc⟩
    exact ⟨Or.inr hx, hc⟩

theorem roster_complete (h : Followed around listed p calls true q) :
    q.roster = (calls.foldl Roster.answer p.roster).restrict listed := h.roster

theorem roster_cut (h : Followed around listed p calls false q) :
    q.roster = calls.foldl Roster.answer p.roster := h.roster

/-- After a complete cycle the old instances that are listed are there and the created ones. -/
theorem instances_complete (h : Followed around listed p calls true q) (c : String) (x : H) :
    q.roster.instances[c]? = some x ↔
      c ∈ listed ∧ ((c, .ok x) ∈ calls ∨ p.roster.instances[c]? = some x) := by
  rw [h.roster_complete, Roster.instances_restrict, ← h.instances_answered]
  split <;> simp_all

/-- After a cycle that was cut short nothing is missing. -/
theorem instances_cut (h : Followed around listed p calls false q) (c : String) (x : H) :
    q.roster.instances[c]? = some x ↔
      (c, .ok x) ∈ calls ∨ p.roster.instances[c]? = some x := by
  rw [h.roster_cut, h.instances_answered]

end Followed

end Flotilla.Fleet
