import Flotilla.Proofs.Fleet.Calls

/-!
# Reading a cycle's steps

The report of a cycle, and the calls of the factory in it, are read off its steps
one kind of step at a time.  What the steps of some calls and of the end of a
cycle give is said here once.
-/

namespace Flotilla.Fleet

open Std (ExtTreeMap ExtTreeSet)

variable {H : Type}

namespace Step

/-- The cluster of which the instance was created. -/
def launched? : Step H → Option String
  | .launched c _ => some c
  | _ => none

/-- The cluster of which the launch failed. -/
def launchFailed? : Step H → Option String
  | .launchFailed c _ => some c
  | _ => none

/-- The cluster of which the instance was stopped. -/
def stopped? : Step H → Option String
  | .stopped c _ => some c
  | _ => none

/-- Whether the clusters could not be listed. -/
def isListingFailure : Step H → Bool
  | .listingFailed _ => true
  | _ => false

/-- Whether the cycle is complete. -/
def isCompleted : Step H → Bool
  | .completed _ => true
  | _ => false

/-- The call of the factory that was answered. -/
def call? : Step H → Option (Call H)
  | .launched c h => some (c, .ok h)
  | .launchFailed c f => some (c, .error f)
  | .abandoned c => some (c, .error .cancelled)
  | _ => none

end Step

/-- The cluster of which a call created an instance. -/
def Call.created? : Call H → Option String
  | (c, .ok _) => some c
  | (_, .error _) => none

/-- The cluster of which a call failed, but not because of the shutdown. -/
def Call.failed? : Call H → Option String
  | (_, .ok _) => none
  | (c, .error f) => if f.isCancelled then none else some c

/-- How a call failed. -/
def Call.failure? : Call H → Option ControllerFailure
  | (_, .ok _) => none
  | (_, .error f) => some f

theorem Call.mem_created {calls : List (Call H)} {c : String} :
    c ∈ calls.filterMap created? ↔ ∃ h, (c, .ok h) ∈ calls := by
  rw [List.mem_filterMap]
  constructor
  · rintro ⟨⟨k, f | h⟩, hm, hk⟩
    · cases hk
    · cases hk
      exact ⟨h, hm⟩
  · rintro ⟨h, hm⟩
    exact ⟨_, hm, rfl⟩

theorem Call.mem_failed {calls : List (Call H)} {c : String} :
    c ∈ calls.filterMap failed? ↔ ∃ f, (c, .error f) ∈ calls ∧ f.isCancelled = false := by
  rw [List.mem_filterMap]
  constructor
  · rintro ⟨⟨k, f | h⟩, hm, hk⟩
    · cases hf : f.isCancelled with
      | true => simp [failed?, hf] at hk
      | false =>
        simp only [failed?, hf, Bool.false_eq_true, if_false, Option.some.injEq] at hk
        exact ⟨f, hk ▸ hm, hf⟩
    · cases hk
  · rintro ⟨f, hm, hf⟩
    exact ⟨_, hm, by simp [failed?, hf]⟩

theorem Call.eq_of_created {call : Call H} {c : String} (h : created? call = some c) :
    call.1 = c := by
  obtain ⟨k, f | x⟩ := call <;> cases h
  rfl

theorem Call.eq_of_failed {call : Call H} {c : String} (h : failed? call = some c) :
    call.1 = c := by
  obtain ⟨k, f | x⟩ := call
  · simp only [failed?, Option.ite_none_left_eq_some, Option.some.injEq] at h
    exact h.2
  · cases h

/-- What is picked from calls in ascending order is in ascending order. -/
theorem Call.ascending_filterMap {calls : List (Call H)} {pick : Call H → Option String}
    (hpick : ∀ call c, pick call = some c → call.1 = c)
    (h : (calls.map (·.1)).Pairwise (· < ·)) : (calls.filterMap pick).Pairwise (· < ·) := by
  refine (List.pairwise_map.mp h).filterMap pick ?_
  intro a b hab c hc d hd
  rw [← hpick a c hc, ← hpick b d hd]
  exact hab

/-- The report has the clusters of each kind of step in order. -/
theorem Report.ofSteps_eq (steps : List (Step H)) :
    ofSteps steps = {
      started := steps.filterMap Step.launched?
      stopped := steps.filterMap Step.stopped?
      failed := steps.filterMap Step.launchFailed?
      listingFailed := steps.any Step.isListingFailure } := by
  have general (r : Report) : steps.foldl add r = {
      started := r.started ++ steps.filterMap Step.launched?
      stopped := r.stopped ++ steps.filterMap Step.stopped?
      failed := r.failed ++ steps.filterMap Step.launchFailed?
      listingFailed := r.listingFailed || steps.any Step.isListingFailure } := by
    induction steps generalizing r with
    | nil => simp
    | cons s rest ih =>
      rw [List.foldl_cons, ih]
      cases s <;> simp [add, List.filterMap_cons, Step.launched?, Step.stopped?,
        Step.launchFailed?, Step.isListingFailure]
  rw [ofSteps, general]
  simp

/-- Forgetting failed clusters and completing a cycle are not reported. -/
theorem Report.ofSteps_forgotten (steps : List (Step H)) (vanished : List String) (n : Nat) :
    ofSteps (steps ++ vanished.map .forgotten ++ [.completed n]) = ofSteps steps := by
  have hv (r : Report) : (vanished.map .forgotten).foldl (add (H := H)) r = r := by
    induction vanished with
    | nil => rfl
    | cons c rest ih => exact ih
  rw [ofSteps, List.foldl_append, List.foldl_append, hv]
  rfl

/-! ## The steps of some calls -/

section Calls

variable (calls : List (Call H))

@[simp] theorem filterMap_launched?_steps :
    (calls.flatMap Call.steps).filterMap Step.launched? = calls.filterMap Call.created? := by
  induction calls with
  | nil => rfl
  | cons call rest ih =>
    obtain ⟨c, f | h⟩ := call
    · cases hf : f.isCancelled <;>
        simp [Call.steps, Call.step, List.filterMap_cons, Call.created?, Step.launched?, hf, ih]
    · simp [Call.steps, Call.step, List.filterMap_cons, Call.created?, Step.launched?, ih]

@[simp] theorem filterMap_launchFailed?_steps :
    (calls.flatMap Call.steps).filterMap Step.launchFailed? = calls.filterMap Call.failed? := by
  induction calls with
  | nil => rfl
  | cons call rest ih =>
    obtain ⟨c, f | h⟩ := call
    · cases hf : f.isCancelled <;>
        simp [Call.steps, Call.step, List.filterMap_cons, Call.failed?, Step.launchFailed?, hf, ih]
    · simp [Call.steps, Call.step, List.filterMap_cons, Call.failed?, Step.launchFailed?, ih]

/-- No instance is stopped while instances are created. -/
theorem stopped_not_mem_steps (c : String) (h : H) : .stopped c h ∉ calls.flatMap Call.steps := by
  simp only [List.mem_flatMap, not_exists, not_and]
  rintro ⟨k, f | h'⟩ -
  · cases hf : f.isCancelled <;> simp [Call.steps, Call.step, hf]
  · simp [Call.steps, Call.step]

@[simp] theorem filterMap_stopped?_steps :
    (calls.flatMap Call.steps).filterMap Step.stopped? = [] := by
  rw [List.filterMap_eq_nil_iff]
  intro s hs
  cases s with
  | stopped c h => exact absurd hs (stopped_not_mem_steps calls c h)
  | _ => rfl

/-- What no answer to a call is, no step of some calls is. -/
theorem any_steps {P : Step H → Bool} (hasked : ∀ c, P (.asked c) = false)
    (hstep : ∀ call : Call H, P call.step = false) : (calls.flatMap Call.steps).any P = false := by
  simp [Call.steps, hasked, hstep]

@[simp] theorem any_isListingFailure_steps :
    (calls.flatMap Call.steps).any Step.isListingFailure = false := by
  refine any_steps calls (fun _ => rfl) ?_
  rintro ⟨c, f | h⟩
  · cases hf : f.isCancelled <;> simp [Call.step, hf, Step.isListingFailure]
  · rfl

@[simp] theorem any_isCompleted_steps :
    (calls.flatMap Call.steps).any Step.isCompleted = false := by
  refine any_steps calls (fun _ => rfl) ?_
  rintro ⟨c, f | h⟩
  · cases hf : f.isCancelled <;> simp [Call.step, hf, Step.isCompleted]
  · rfl

theorem launched_mem_steps {c : String} {h : H} :
    .launched c h ∈ calls.flatMap Call.steps ↔ (c, .ok h) ∈ calls := by
  rw [List.mem_flatMap]
  constructor
  · rintro ⟨⟨k, f | h'⟩, hm, hs⟩
    · cases hf : f.isCancelled <;> simp [Call.steps, Call.step, hf] at hs
    · simp only [Call.steps, Call.step, List.mem_cons, List.not_mem_nil, or_false, reduceCtorEq,
        false_or, Step.launched.injEq] at hs
      obtain ⟨rfl, rfl⟩ := hs
      exact hm
  · intro hm
    exact ⟨_, hm, by simp [Call.steps, Call.step]⟩

/-- The steps of some calls tell the calls. -/
@[simp] theorem filterMap_call?_steps :
    (calls.flatMap Call.steps).filterMap Step.call? = calls := by
  induction calls with
  | nil => rfl
  | cons call rest ih =>
    obtain ⟨c, f | h⟩ := call
    · cases hf : f.isCancelled with
      | false => simp [Call.steps, Call.step, List.filterMap_cons, Step.call?, hf, ih]
      | true =>
        have he : f = .cancelled := f.isCancelled_iff.mp hf
        simp [Call.steps, Call.step, List.filterMap_cons, Step.call?, ControllerFailure.isCancelled,
          he, ih]
    · simp [Call.steps, Call.step, List.filterMap_cons, Step.call?, ih]

end Calls

/-! ## The steps at the end of a cycle -/

section Closing

variable (r : Roster H) (listed : ExtTreeSet String)

@[simp] theorem filterMap_launched?_closing :
    (r.closing listed).filterMap Step.launched? = [] := by
  simp [Roster.closing, List.filterMap_cons, Step.launched?, List.filterMap_map, Function.comp_def]

@[simp] theorem filterMap_launchFailed?_closing :
    (r.closing listed).filterMap Step.launchFailed? = [] := by
  simp [Roster.closing, List.filterMap_cons, Step.launchFailed?, List.filterMap_map,
    Function.comp_def]

@[simp] theorem filterMap_stopped?_closing :
    (r.closing listed).filterMap Step.stopped? = (r.stale listed).map (·.1) := by
  simp [Roster.closing, List.filterMap_cons, Step.stopped?, List.filterMap_map, Function.comp_def]

@[simp] theorem any_isListingFailure_closing :
    (r.closing listed).any Step.isListingFailure = false := by
  simp [Roster.closing, Step.isListingFailure]

@[simp] theorem any_isCompleted_closing : (r.closing listed).any Step.isCompleted = true := by
  simp [Roster.closing, Step.isCompleted]

theorem stopped_mem_closing {c : String} {h : H} :
    .stopped c h ∈ r.closing listed ↔ (c, h) ∈ r.stale listed := by
  simp [Roster.closing]

theorem launched_not_mem_closing (c : String) (h : H) : .launched c h ∉ r.closing listed := by
  simp [Roster.closing]

@[simp] theorem filterMap_call?_closing : (r.closing listed).filterMap Step.call? = [] := by
  simp [Roster.closing, List.filterMap_cons, Step.call?, List.filterMap_map, Function.comp_def]

end Closing

/-! ## The steps of a cycle -/

namespace Followed

variable {S : Type} {around : Surroundings S H} {listed : ExtTreeSet String} {scene : S}
  {roster : Roster H} {calls : List (Call H)} {complete : Bool} {q : Progress S H}

theorem any_isCompleted (h : Followed around listed ⟨scene, roster, []⟩ calls complete q) :
    q.steps.any Step.isCompleted = complete := by
  rw [h.steps, List.nil_append, List.any_cons, List.any_append, any_isCompleted_steps]
  cases complete with
  | false => rfl
  | true => simp [Step.isCompleted]

theorem launched_mem (h : Followed around listed ⟨scene, roster, []⟩ calls complete q)
    {c : String} {x : H} : .launched c x ∈ q.steps ↔ (c, .ok x) ∈ calls := by
  rw [h.steps, ← launched_mem_steps, List.nil_append, List.mem_cons, List.mem_append]
  cases complete <;> simp [launched_not_mem_closing]

theorem stopped_mem (h : Followed around listed ⟨scene, roster, []⟩ calls complete q)
    {c : String} {x : H} :
    .stopped c x ∈ q.steps ↔ complete = true ∧ roster.instances[c]? = some x ∧ c ∉ listed := by
  have hs := stopped_not_mem_steps calls c x
  rw [h.steps, ← h.mem_stale, ← stopped_mem_closing, List.nil_append, List.mem_cons,
    List.mem_append]
  cases complete with
  | false => simp [hs]
  | true => simp [hs]

/-- What a complete cycle reports. -/
theorem report (h : Followed around listed ⟨scene, roster, []⟩ calls true q) :
    Report.ofSteps q.steps = {
      started := calls.filterMap Call.created?
      stopped := ((calls.foldl Roster.answer roster).stale listed).map (·.1)
      failed := calls.filterMap Call.failed?
      listingFailed := false } := by
  have hsteps : q.steps = .discovered listed.toList :: (calls.flatMap Call.steps ++
      (calls.foldl Roster.answer roster).closing listed) := h.steps
  rw [hsteps, Report.ofSteps_eq]
  simp only [List.filterMap_cons, List.filterMap_append, List.any_cons, List.any_append,
    filterMap_launched?_steps, filterMap_launched?_closing, filterMap_stopped?_steps,
    filterMap_stopped?_closing, filterMap_launchFailed?_steps, filterMap_launchFailed?_closing,
    any_isListingFailure_steps, any_isListingFailure_closing, Step.launched?, Step.stopped?,
    Step.launchFailed?, Step.isListingFailure, List.append_nil, List.nil_append, Bool.or_false]

/-- What a cycle reports that was cut short. -/
theorem report_cut (h : Followed around listed ⟨scene, roster, []⟩ calls false q) :
    Report.ofSteps q.steps =
      { started := calls.filterMap Call.created?, failed := calls.filterMap Call.failed? } := by
  have hsteps : q.steps = .discovered listed.toList :: calls.flatMap Call.steps := by
    simpa using h.steps
  rw [hsteps, Report.ofSteps_eq]
  simp only [List.filterMap_cons, List.any_cons, filterMap_launched?_steps,
    filterMap_stopped?_steps, filterMap_launchFailed?_steps, any_isListingFailure_steps,
    Step.launched?, Step.stopped?, Step.launchFailed?, Step.isListingFailure, Bool.or_false]

end Followed

end Flotilla.Fleet
