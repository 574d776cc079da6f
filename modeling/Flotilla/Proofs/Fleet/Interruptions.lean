import Flotilla.Proofs.Fleet.Chronicle
import Flotilla.Proofs.Fleet.Convergence
import Flotilla.Proofs.Fleet.Samples

/-!
# Cycles that do not come to their end

A cycle whose listing fails does nothing but count that.  A cycle that is interrupted while it
creates instances keeps those it has, leaves everything else alone, and says nothing of the
creation that was cut short.  `Course.interruptions` says so of every course.

Neither spoils anything for later: the next cycle that nothing disturbs makes the roster follow
its listing.
-/

namespace Flotilla.Fleet

open Std (ExtTreeMap ExtTreeSet)

/-- Whether a cycle gets to see its listing. -/
def Occasion.Sees (o : Occasion) (s : Stage) : Prop := o.first = .listing ∨ s.fired = false

namespace Course

variable (c : Course) (o : Occasion)

/-- The calls of the factory in a cycle, watched from outside. -/
def calls : List (Call Token) := o.surroundings.calls o.first o.listing c.stage c.roster

/-- What a cycle reports. -/
def report : Report := Report.ofSteps (c.progress o).steps

/-- A cycle that does not see its listing does nothing at all. -/
structure Skipped : Prop where
  roster : (c.cycle o).roster = c.roster
  stage : (c.cycle o).stage = c.stage
  uncalled : c.calls o = []
  report : c.report o = {}

/-- What a cycle did whose listing failed. -/
structure Unlisted (fault : CommandFailure) : Prop where
  roster : (c.cycle o).roster = c.roster
  uncalled : c.calls o = []
  report : c.report o = { listingFailed := true }
  /-- It counts the failed listing, and whatever else goes on does the rest. -/
  stage : (c.cycle o).stage = (o.asides (.listingFailed fault)).foldl Stage.aside
    (c.stage.withStore { c.stage.store with listingErrors := c.stage.store.listingErrors + 1 })
  /-- What else goes on is no matter for the samples of the fleet, and it cancels no instance. -/
  fleet : Metrics.Store.SameFleet
    { c.stage.store with listingErrors := c.stage.store.listingErrors + 1 } (c.cycle o).stage.store
  spared : c.stage.Spares (c.cycle o).stage

/-- What a cycle did that was interrupted while it created instances. -/
structure CutShort (names : List String) : Prop where
  /-- The first of the missing clusters were asked for.  The last creation was cut short, or the
  token was seen fired before the next one. -/
  asked : ∃ missing : List String, missing.Pairwise (· < ·) ∧
    (∀ k, k ∈ missing ↔ k ∈ names ∧ k ∉ c.roster.instances) ∧
    (c.calls o).map (·.1) <+: missing ∧
    ((∃ start k, c.calls o = start ++ [(k, .error .cancelled)] ∧
        ∀ call ∈ start, Call.isCut call = false) ∨
      ((c.cycle o).stage.fired = true ∧ (c.calls o).length < missing.length ∧
        ∀ call ∈ c.calls o, Call.isCut call = false))
  /-- The created instances came to the old ones. -/
  instances : ∀ k t, (c.cycle o).roster.instances[k]? = some t ↔
    (k, .ok t) ∈ c.calls o ∨ c.roster.instances[k]? = some t
  /-- The failed clusters came to the old ones, those that were created ceased to be. -/
  failed : ∀ k, k ∈ (c.cycle o).roster.failed ↔
    (∃ f, (k, .error f) ∈ c.calls o ∧ f.isCancelled = false) ∨
      (k ∈ c.roster.failed ∧ ∀ t, (k, .ok t) ∉ c.calls o)
  reportedStarted : (c.report o).started.Pairwise (· < ·) ∧
    ∀ k, k ∈ (c.report o).started ↔ ∃ t, (k, .ok t) ∈ c.calls o
  reportedFailed : (c.report o).failed.Pairwise (· < ·) ∧
    ∀ k, k ∈ (c.report o).failed ↔ ∃ f, (k, .error f) ∈ c.calls o ∧ f.isCancelled = false
  reportedStopped : (c.report o).stopped = []
  reportedListed : (c.report o).listingFailed = false
  /-- Each failed creation is counted once, and nothing else is. -/
  counted : ∀ k, (c.cycle o).stage.store.launchFailures[k]? =
    if k ∈ (c.report o).failed then some (c.stage.store.launchFailures.getD k 0 + 1)
    else c.stage.store.launchFailures[k]?
  managed : (c.cycle o).stage.store.managed = c.stage.store.managed
  cycles : (c.cycle o).stage.store.cycles = c.stage.store.cycles
  listingErrors : (c.cycle o).stage.store.listingErrors = c.stage.store.listingErrors
  /-- The creation that was cut short left no trace. -/
  traceless : ∀ k, (k, .error .cancelled) ∈ c.calls o →
    k ∉ (c.cycle o).roster.instances ∧
      (k ∈ (c.cycle o).roster.failed ↔ k ∈ c.roster.failed) ∧
      (c.cycle o).stage.store.launchFailures[k]? = c.stage.store.launchFailures[k]? ∧
      (o.attempt k).writes = [] ∧ k ∉ (c.report o).started ∧ k ∉ (c.report o).failed
  /-- No instance was cancelled, and no cluster forgotten. -/
  spared : c.stage.Spares (c.cycle o).stage
  alive : ∀ (k : String) (t : Token), (c.cycle o).roster.instances[k]? = some t →
    t.number ∉ (c.cycle o).stage.cancellation.fired

/-- The next cycle that nothing disturbs is complete, and a complete cycle makes the roster follow
the listing. -/
structure Recovers : Prop where
  completes : ∀ (o : Occasion) (names : List String), o.listing = .ok names →
    o.surroundings.Undisturbed o.first names c.stage c.roster →
      (c.progress o).steps.any Step.isCompleted = true
  converges : ∀ (o : Occasion) (names : List String), o.listing = .ok names →
    (c.progress o).steps.any Step.isCompleted = true →
      Converged names c.roster (c.calls o) (c.cycle o).roster (c.report o)

end Course

/-! ## The launches that failed -/

/-- The answer to a call counts a failed launch of the cluster, or does nothing to the metrics. -/
theorem record_call {H : Type} (call : Call H) (m : Metrics.Store) :
    (Call.failed? call = none ∧ call.steps.foldl Step.record m = m) ∨
      (Call.failed? call = some call.1 ∧
        call.steps.foldl Step.record m = m.countLaunchFailure call.1) := by
  obtain ⟨c, f | h⟩ := call
  · cases hf : f.isCancelled <;> simp [Call.steps, Call.step, Call.failed?, hf, Step.record]
  · simp [Call.steps, Call.step, Call.failed?, Step.record]

/-- The calls of the factory count each failed launch once. -/
theorem launchFailures_calls {H : Type} (calls : List (Call H)) (m : Metrics.Store)
    (hn : (calls.map (·.1)).Nodup) (k : String) :
    ((calls.flatMap Call.steps).foldl Step.record m).launchFailures[k]? =
      if k ∈ calls.filterMap Call.failed? then some (m.launchFailures.getD k 0 + 1)
      else m.launchFailures[k]? := by
  induction calls generalizing m with
  | nil => rfl
  | cons call rest ih =>
    rw [List.map_cons, List.nodup_cons] at hn
    -- a cluster that this call counts is counted by no later one
    have hrest : call.1 ∉ rest.filterMap Call.failed? := by
      intro hm
      obtain ⟨f, hf, -⟩ := Call.mem_failed.mp hm
      exact hn.1 (List.mem_map_of_mem (f := (·.1)) hf)
    rw [List.flatMap_cons, List.foldl_append, ih _ hn.2, List.filterMap_cons]
    rcases record_call call m with ⟨hnone, h⟩ | ⟨hsome, h⟩
    · rw [hnone, h]
    · rw [hsome, h, Metrics.Store.countLaunchFailure, lookup_insert, getD_insert]
      by_cases hk : call.1 = k
      · subst hk
        simp [hrest]
      · have hmem : k ∈ call.1 :: rest.filterMap Call.failed? ↔ k ∈ rest.filterMap Call.failed? := by
          simp [Ne.symm hk]
        simp only [if_neg hk, hmem]

theorem record_calls {H : Type} (calls : List (Call H)) (m : Metrics.Store) :
    ∃ launchFailures, (calls.flatMap Call.steps).foldl Step.record m = { m with launchFailures } := by
  induction calls generalizing m with
  | nil => exact ⟨_, rfl⟩
  | cons call rest ih =>
    rw [List.flatMap_cons, List.foldl_append]
    rcases record_call call m with ⟨-, h⟩ | ⟨-, h⟩
    · rw [h]
      exact ih m
    · rw [h]
      obtain ⟨launchFailures, h⟩ := ih (m.countLaunchFailure call.1)
      exact ⟨launchFailures, h⟩

/-! ## Cycles that follow a listing -/

namespace Course

variable {c : Course} {o : Occasion}

theorem sees_iff : o.Sees c.stage ↔ ¬ (o.first = .shutdown ∧ o.surroundings.fired c.stage = true) := by
  show o.first = .listing ∨ c.stage.fired = false ↔ ¬ (o.first = .shutdown ∧ c.stage.fired = true)
  cases o.first <;> simp

/-- The calls of a cycle are those that its steps tell of. -/
theorem calls_of_steps (c : Course) (o : Occasion) :
    c.calls o = (c.progress o).steps.filterMap Step.call? := calls_eq ..

theorem skipped (hs : ¬ o.Sees c.stage) : c.Skipped o := by
  have hp : c.progress o = ⟨c.stage, c.roster, []⟩ := if_pos (not_not.mp (sees_iff.not.mp hs))
  refine ⟨congrArg (·.roster) hp, congrArg (·.scene) hp, ?_, ?_⟩
  · rw [calls_of_steps, hp]
    rfl
  · rw [report, hp]
    rfl

theorem followed {names : List String} (hs : o.Sees c.stage) (hl : o.listing = .ok names) :
    ∃ calls, Followed o.surroundings (.ofList names) ⟨c.stage, c.roster, []⟩ calls
      (o.surroundings.completes (.ofList names) ⟨c.stage, c.roster, []⟩) (c.progress o) := by
  have hp : c.progress o = o.surroundings.converge (.ofList names) ⟨c.stage, c.roster, []⟩ := by
    unfold progress Surroundings.cycle
    rw [if_neg (sees_iff.mp hs), hl]
  rw [hp]
  exact converge_spec _ _ _

theorem calls_of_followed {listed : ExtTreeSet String} {calls : List (Call Token)}
    {complete : Bool}
    (h : Followed o.surroundings listed ⟨c.stage, c.roster, []⟩ calls complete (c.progress o)) :
    c.calls o = calls := by
  rw [calls_of_steps, h.steps]
  cases complete <;> simp [List.filterMap_cons, Step.call?]

/-- When the listing fails a cycle takes note of that and does nothing else. -/
theorem progress_of_error {fault : CommandFailure} (hs : o.Sees c.stage)
    (hl : o.listing = .error fault) : c.progress o =
      Progress.take ⟨c.stage, c.roster, []⟩ o.surroundings (.listingFailed fault) := by
  unfold progress Surroundings.cycle
  rw [if_neg (sees_iff.mp hs), hl]

theorem unlisted {fault : CommandFailure} (hs : o.Sees c.stage) (hl : o.listing = .error fault) :
    c.Unlisted o fault := by
  have hp := progress_of_error hs hl
  have hsteps : (c.progress o).steps = [.listingFailed fault] := by rw [hp]; rfl
  refine ⟨?roster, ?uncalled, ?report, ?stage, ?fleet, ?spared⟩
  case roster =>
    show (c.progress o).roster = c.roster
    rw [hp]
    rfl
  case uncalled =>
    rw [calls_of_steps, hsteps]
    rfl
  case report => rw [report, hsteps]; rfl
  case stage =>
    show (c.progress o).scene = _
    rw [hp]
    rfl
  case fleet =>
    have hfleet := sameFleet_cycle c o
    rwa [hsteps] at hfleet
  case spared => exact spares_cycle c o (by rw [hsteps]; rfl)

/-- The factory answers a call as the creation comes out. -/
theorem failure_of_create {k : String} {a : Instance.Attempt} {s s' : Stage}
    {answer : Except ControllerFailure Token} (h : Stage.create k a s = (answer, s')) :
    a.failure = Call.failure? (k, answer) := by
  cases answer with
  | error f => exact (Stage.create_error h).1
  | ok t =>
    simp only [Stage.create] at h
    split at h
    · cases h
    · next hf => exact hf

theorem failure_of_call {call : Call Token} (h : call ∈ c.calls o) :
    (o.attempt call.1).failure = call.failure? := by
  rw [calls_of_steps] at h
  have keep (listed : ExtTreeSet String) (p q : Progress Stage Token)
      (hm : Move o.surroundings listed p q)
      (hp : ∀ call ∈ p.steps.filterMap Step.call?, (o.attempt call.1).failure = call.failure?) :
      ∀ call ∈ q.steps.filterMap Step.call?, (o.attempt call.1).failure = call.failure? := by
    have answered {k : String} {answer : Except ControllerFailure Token} {s s' : Stage}
        (ha : o.surroundings.create k s = (answer, s'))
        (hq : q.steps.filterMap Step.call? = p.steps.filterMap Step.call? ++ [(k, answer)]) :
        ∀ call ∈ q.steps.filterMap Step.call?, (o.attempt call.1).failure = call.failure? := by
      intro call hc
      rw [hq, List.mem_append, List.mem_singleton] at hc
      rcases hc with hc | rfl
      · exact hp call hc
      · exact failure_of_create ha
    cases hm with
    | launched isListed isMissing answer =>
      exact answered answer (by simp [Progress.take, Step.call?, List.filterMap_cons])
    | launchFailed isListed isMissing isReal answer =>
      exact answered answer (by simp [Progress.take, Step.call?, List.filterMap_cons])
    | abandoned isListed isMissing isCut answer =>
      rw [(ControllerFailure.isCancelled_iff _).mp isCut] at answer
      exact answered answer (by simp [Progress.take, Step.call?, List.filterMap_cons])
    | _ => simpa [Progress.take, Step.call?, List.filterMap_cons] using hp
  exact cycle_keeps (P := fun p : Progress Stage Token =>
    ∀ call ∈ p.steps.filterMap Step.call?, (o.attempt call.1).failure = call.failure?) keep o.first
    o.listing c.stage c.roster (fun _ hc => absurd hc List.not_mem_nil) call h

/-- An instance is given up only when its creation was cut short. -/
theorem failure_of_abandoned {k : String} (h : .abandoned k ∈ (c.progress o).steps) :
    (o.attempt k).failure = some .cancelled := by
  have hcall : (k, .error .cancelled) ∈ c.calls o := by
    rw [calls_of_steps]
    exact List.mem_filterMap.mpr ⟨_, h, rfl⟩
  exact failure_of_call hcall

/-- A call that was cut short leads to giving up. -/
theorem abandoned_mem {H : Type} {calls : List (Call H)} {k : String}
    (hk : (k, .error .cancelled) ∈ calls) : .abandoned k ∈ calls.flatMap Call.steps :=
  List.mem_flatMap.mpr ⟨_, hk, by simp [Call.steps, Call.step, ControllerFailure.isCancelled]⟩

/-- No instance is stopped and nothing forgotten while instances are created. -/
theorem any_isDrop_steps {H : Type} (calls : List (Call H)) :
    (calls.flatMap Call.steps).any Step.isDrop = false := by
  refine any_steps calls (fun _ => rfl) ?_
  rintro ⟨k, f | x⟩
  · cases hf : f.isCancelled <;> simp [Call.step, hf, Step.isDrop]
  · rfl

section CutShort

variable {names : List String} {calls : List (Call Token)}
  (h : Followed o.surroundings (.ofList names) ⟨c.stage, c.roster, []⟩ calls false (c.progress o))

include h

theorem steps_cut : (c.progress o).steps =
    .discovered (ExtTreeSet.ofList names).toList :: calls.flatMap Call.steps := by
  simpa using h.steps

/-- The first of the missing clusters were asked for, until the shutdown came. -/
theorem asked_cut : ∃ missing : List String, missing.Pairwise (· < ·) ∧
    (∀ k, k ∈ missing ↔ k ∈ names ∧ k ∉ c.roster.instances) ∧ calls.map (·.1) <+: missing ∧
    ((∃ start k, calls = start ++ [(k, .error .cancelled)] ∧
        ∀ call ∈ start, Call.isCut call = false) ∨
      ((c.cycle o).stage.fired = true ∧ calls.length < missing.length ∧
        ∀ call ∈ calls, Call.isCut call = false)) := by
  refine ⟨c.roster.missing (.ofList names), c.roster.missing_ascending _, fun k => ?_, h.asked, ?_⟩
  · rw [Roster.mem_missing, mem_listed]
  · rcases h.part rfl with ⟨start, ⟨k, f | t⟩, rfl, hlast, hstart⟩ | hseen
    · obtain rfl : f = .cancelled := f.isCancelled_iff.mp hlast
      exact Or.inl ⟨start, k, rfl, hstart⟩
    · cases hlast
    · exact Or.inr hseen

theorem failed_cut (k : String) : k ∈ (c.cycle o).roster.failed ↔
    (∃ f, (k, .error f) ∈ calls ∧ f.isCancelled = false) ∨
      (k ∈ c.roster.failed ∧ ∀ t, (k, .ok t) ∉ calls) := by
  rw [show (c.cycle o).roster = _ from h.roster_cut]
  exact failed_foldl_answer calls c.roster h.nodup k

theorem fleet_cut : ((calls.flatMap Call.steps).foldl Step.record c.stage.store).SameFleet
    (c.cycle o).stage.store := by
  have hfleet := sameFleet_cycle c o
  rwa [steps_cut h] at hfleet

theorem counted_cut (k : String) : (c.cycle o).stage.store.launchFailures[k]? =
    if k ∈ calls.filterMap Call.failed? then some (c.stage.store.launchFailures.getD k 0 + 1)
    else c.stage.store.launchFailures[k]? := by
  rw [(fleet_cut h).launchFailures]
  exact launchFailures_calls calls c.stage.store h.nodup k

/-- Of a creation that was cut short no other answer is told. -/
theorem traceless_cut {k : String} (hk : (k, .error .cancelled) ∈ calls) :
    k ∉ (c.cycle o).roster.instances ∧
      (k ∈ (c.cycle o).roster.failed ↔ k ∈ c.roster.failed) ∧
      (c.cycle o).stage.store.launchFailures[k]? = c.stage.store.launchFailures[k]? ∧
      (o.attempt k).writes = [] ∧ k ∉ calls.filterMap Call.created? ∧
        k ∉ calls.filterMap Call.failed? := by
  -- no cluster is asked for twice, so there is no other answer for this one
  have hok (t : Token) : (k, .ok t) ∉ calls := fun ht => nomatch answer_unique h.nodup hk ht
  have hfail : ¬ ∃ f, (k, .error f) ∈ calls ∧ f.isCancelled = false := by
    rintro ⟨f, hf, hcut⟩
    cases answer_unique h.nodup hk hf
    cases hcut
  have hfailed : k ∉ calls.filterMap Call.failed? := fun hm => hfail (Call.mem_failed.mp hm)
  refine ⟨?_, ?_, ?_, ?_, ?_, hfailed⟩
  · intro hm
    obtain ⟨t, ht⟩ := (c.cycle o).roster.mem_instances_iff.mp hm
    rcases (h.instances_cut k t).mp ht with ht | ht
    · exact hok t ht
    · exact (h.mem_missing hk).2 (c.roster.mem_instances_iff.mpr ⟨t, ht⟩)
  · rw [failed_cut h]
    constructor
    · rintro (hf | ⟨hf, -⟩)
      · exact absurd hf hfail
      · exact hf
    · exact fun hf => Or.inr ⟨hf, hok⟩
  · rw [counted_cut h, if_neg hfailed]
  · refine (o.attempt k).writes_of_cancelled (failure_of_abandoned (c := c) ?_)
    rw [steps_cut h]
    exact List.mem_cons_of_mem _ (abandoned_mem hk)
  · intro hm
    obtain ⟨t, ht⟩ := Call.mem_created.mp hm
    exact hok t ht

theorem cutShort_of_followed (hc : Chronicle c.stage c.roster.instances c.steps) :
    c.CutShort o names := by
  have hcalls : c.calls o = calls := calls_of_followed h
  have hreport : c.report o =
      { started := calls.filterMap Call.created?, failed := calls.filterMap Call.failed? } :=
    h.report_cut
  have hfleet := fleet_cut h
  obtain ⟨launchFailures, hrest⟩ := record_calls calls c.stage.store
  rw [hrest] at hfleet
  rw [← hcalls] at h hreport
  exact {
    asked := asked_cut h
    instances := h.instances_cut
    failed := failed_cut h
    reportedStarted := by
      rw [hreport]
      exact ⟨Call.ascending_filterMap (fun _ _ => Call.eq_of_created) h.ascending,
        fun k => Call.mem_created⟩
    reportedFailed := by
      rw [hreport]
      exact ⟨Call.ascending_filterMap (fun _ _ => Call.eq_of_failed) h.ascending,
        fun k => Call.mem_failed⟩
    reportedStopped := by rw [hreport]
    reportedListed := by rw [hreport]
    counted := by
      rw [hreport]
      exact counted_cut h
    managed := hfleet.managed
    cycles := hfleet.cycles
    listingErrors := hfleet.listingErrors
    traceless := by
      rw [hreport]
      exact fun k hk => traceless_cut h hk
    spared := spares_cycle c o (by rw [steps_cut h, List.any_cons, any_isDrop_steps]; rfl)
    alive := by
      intro k t ht hfired
      have hlast := hc.turn (.cycle o)
      exact (hlast.fired (k, t) (hlast.managed k t ht)).mp hfired ht }

end CutShort

theorem sees_of_isCompleted (h : (c.progress o).steps.any Step.isCompleted = true) :
    o.Sees c.stage := by
  refine sees_iff.mpr fun hseen => ?_
  have hp : c.progress o = ⟨c.stage, c.roster, []⟩ := if_pos hseen
  rw [hp] at h
  cases h

/-- Whatever came before, the next cycles are as good as any. -/
theorem recovers (c : Course) : c.Recovers where
  completes o names hl hun := by
    have hs : o.Sees c.stage := hun.1
    obtain ⟨calls, h⟩ := followed hs hl
    rw [h.any_isCompleted]
    exact addAll_of_unhindered _ _ _ hun.2
  converges o names hl hcomplete := by
    obtain ⟨calls, h⟩ := followed (sees_of_isCompleted hcomplete) hl
    rw [calls_of_followed h]
    rw [h.any_isCompleted] at hcomplete
    rw [hcomplete] at h
    exact h.converged

/-- A cycle that does not come to its end leaves things in order, however the course went
before. -/
theorem interruptions (turns : List Turn) (o : Occasion) :
    (¬ o.Sees (run turns).stage → (run turns).Skipped o) ∧
    (∀ fault, o.Sees (run turns).stage → o.listing = .error fault → (run turns).Unlisted o fault) ∧
    (∀ names, o.Sees (run turns).stage → o.listing = .ok names →
      ((run turns).progress o).steps.any Step.isCompleted = false →
        (run turns).CutShort o names) ∧
    ((run turns).cycle o).Recovers := by
  refine ⟨skipped, fun fault hs hl => unlisted hs hl, fun names hs hl hcut => ?_, recovers _⟩
  obtain ⟨calls, h⟩ := followed hs hl
  have hcomplete := h.any_isCompleted.symm.trans hcut
  rw [hcomplete] at h
  exact cutShort_of_followed h (chronicle turns)

/-- An occasion on which the second of four creations fails and the last is cut short. -/
def cutting : Occasion where
  listing := .ok ["d", "b", "c", "a"]
  attempt c :=
    { failure :=
        if c = "b" then some (.noWorkingClient c)
        else if c = "d" then some .cancelled
        else none }

/-- With an instance of `z`, which is not listed any more. -/
theorem interruptions_trial :
    let c := run [.cycle { listing := .ok ["z"], attempt := fun _ => {} }]
    (c.CutShort cutting ["d", "b", "c", "a"] ∧ (c.cycle cutting).Recovers) ∧
      c.Unlisted { cutting with listing := .error (.notFound "") } (.notFound "") ∧
      (c.calls cutting).map (·.1) = ["a", "b", "c", "d"] ∧
      (c.cycle cutting).roster.managed = ["a", "c", "z"] ∧
      (c.cycle cutting).roster.failed.toList = ["b"] := by
  intro c
  have hfired : c.stage.fired = false := by decide +kernel
  obtain ⟨-, -, hcut, hrecovers⟩ :=
    interruptions [.cycle { listing := .ok ["z"], attempt := fun _ => {} }] cutting
  obtain ⟨-, hunlisted, -, -⟩ :=
    interruptions [.cycle { listing := .ok ["z"], attempt := fun _ => {} }]
      { cutting with listing := .error (.notFound "") }
  exact ⟨⟨hcut _ (Or.inr hfired) rfl (by decide +kernel), hrecovers⟩,
    hunlisted _ (Or.inr hfired) rfl, by decide +kernel, by decide +kernel, by decide +kernel⟩

end Course

end Flotilla.Fleet
