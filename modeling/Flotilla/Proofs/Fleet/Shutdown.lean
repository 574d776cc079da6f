import Flotilla.Proofs.Fleet.Accounting
import Flotilla.Proofs.Instance.Reasons

/-!
# Nothing but the shutdown interrupts a cycle

A cycle gives up what it has still to do when a creation says that it was cut short.  The creations
of a factory say so only when the shutdown has come.  So as long as the process goes on, every cycle
that sees a listing follows it to the end, and no failed launch goes unreported.

* `Stage.Before`: a token that has fired stays so.
* `ByFactory`: a cycle whose instances are created by factories.
* `Whole`: what such a cycle does while the process goes on.
-/

namespace Flotilla.Fleet

open Std (ExtTreeMap ExtTreeSet)
open Instance (Attempt Creation Factory)
open Time (Moment)

/-! ## Later stages -/

/-- What has fired in one stage has fired in another, and the process is the same. -/
structure Stage.Before (s s' : Stage) : Prop where
  process : s'.process = s.process
  kept : ∀ n ∈ s.cancellation.fired, n ∈ s'.cancellation.fired

namespace Stage.Before

variable {s s' s'' : Stage}

theorem refl (s : Stage) : s.Before s := ⟨rfl, fun _ h => h⟩

theorem trans (h : s.Before s') (h' : s'.Before s'') : s.Before s'' :=
  ⟨h'.process.trans h.process, fun n hn => h'.kept n (h.kept n hn)⟩

theorem alike (h : s.Alike s') : s.Before s' := ⟨h.process, h.kept⟩

theorem fire (s : Stage) (t : Token) : s.Before (s.fire t) :=
  ⟨rfl, fun n hn => (s.mem_fired_fire t n).mpr (Or.inr hn)⟩

theorem note (o : Occasion) (s : Stage) (step : Step Token) :
    s.Before (o.surroundings.note step s) := by
  cases step with
  | stopped c t => exact (fire s t).trans (alike (s.alike_note_stopped o c t))
  | _ => exact alike (s.alike_note o nofun)

theorem create (s : Stage) (c : String) (a : Attempt) : s.Before (Stage.create c a s).2 :=
  have h := Stage.Spares.create s c a
  ⟨h.process, h.kept⟩

theorem fired (h : s.Before s') (hf : s.fired = true) : s'.fired = true := by
  show s'.cancellation.isCancelled s'.process = true
  rw [h.process]
  exact Cancellation.isCancelled_mono h.kept hf

theorem move {o : Occasion} {listed : ExtTreeSet String} {p q : Progress Stage Token}
    (hm : Move o.surroundings listed p q) (h : s.Before p.scene) : s.Before q.scene := by
  have asked {c : String} {answer : Except ControllerFailure Token} {s' : Stage}
      (ha : o.surroundings.create c (o.surroundings.note (.asked c) p.scene) = (answer, s')) :
      s.Before s' := by
    have hc := create (o.surroundings.note (.asked c) p.scene) c (o.attempt c)
    rw [show Stage.create c (o.attempt c) (o.surroundings.note (.asked c) p.scene) = _ from ha] at hc
    exact (h.trans (note o _ (.asked c))).trans hc
  cases hm with
  | launched isListed isMissing answer => exact (asked answer).trans (note o _ _)
  | launchFailed isListed isMissing isReal answer => exact (asked answer).trans (note o _ _)
  | abandoned isListed isMissing isCut answer => exact (asked answer).trans (note o _ _)
  | _ => exact h.trans (note o _ _)

end Stage.Before

namespace Course

theorem before_cycle (c : Course) (o : Occasion) : c.stage.Before (c.cycle o).stage :=
  cycle_keeps (P := fun p : Progress Stage Token => c.stage.Before p.scene)
    (fun _ _ _ hm hp => .move hm hp) o.first o.listing c.stage c.roster (.refl _)

theorem before_go (c : Course) (turns : List Turn) : c.stage.Before (c.go turns).stage := by
  induction turns generalizing c with
  | nil => exact .refl _
  | cons t rest ih =>
    refine Stage.Before.trans ?_ (ih (c.turn t))
    cases t with
    | cycle o => exact c.before_cycle o
    | aside a => exact .alike (c.stage.alike_aside a)

/-! ## Cycles over a factory -/

section

variable (c : Course) (o : Occasion)

/-- The creation of an instance in a cycle is that of a factory.  A shutdown that came by its end is
one of the process. -/
structure CreatedBy (f : Factory) (k : String) (start : Moment) (shutdown : Option Moment)
    (creation : Creation) : Prop where
  created : f.create k start shutdown = some creation
  seen : f.attempt k start shutdown = some (o.attempt k)
  shutdown : ∀ t, shutdown = some t → t ≤ creation.ended → (c.cycle o).stage.fired = true

/-- So it is with every call of a cycle.  What the creations meet may change from one to the
next. -/
def ByFactory : Prop :=
  ∀ k ∈ (c.calls o).map (·.1), ∃ f start shutdown creation,
    c.CreatedBy o f k start shutdown creation

/-- A cycle that nothing interrupts. -/
structure Whole : Prop where
  uninterrupted : ¬ c.Interrupted o
  /-- If there is a listing the cycle is complete and follows it. -/
  follows : ∀ names, o.listing = .ok names → c.Completes o ∧
    Converged names c.roster (c.calls o) (c.cycle o).roster (c.report o)
  /-- A listed cluster that has no instance then could not be launched.  It is reported, remembered
  and counted. -/
  failed : ∀ names, o.listing = .ok names → ∀ k ∈ names, k ∉ (c.cycle o).roster.instances →
    (∃ f, (k, .error f) ∈ c.calls o ∧ f.isCancelled = false) ∧ k ∈ (c.report o).failed ∧
      k ∈ (c.cycle o).roster.failed ∧ (c.cycle o).stage.store.launchFailures[k]? =
        some (c.stage.store.launchFailures.getD k 0 + 1)
  /-- An instance whose cluster is not listed is removed, reported and cancelled. -/
  removed : ∀ names, o.listing = .ok names → ∀ (k : String) (t : Token),
    c.roster.instances[k]? = some t → k ∉ names → k ∉ (c.cycle o).roster.instances ∧
      k ∈ (c.report o).stopped ∧ (c.cycle o).stage.cancellation.isCancelled t = true
  /-- A failed cluster that is not listed is forgotten. -/
  forgotten : ∀ names, o.listing = .ok names → ∀ k ∈ c.roster.failed, k ∉ names →
    k ∉ (c.cycle o).roster.failed

end

/-- What the fleet sees of a creation is how it failed. -/
theorem attempt_of_create {f : Factory} {k : String} {start : Moment} {shutdown : Option Moment}
    {creation : Creation} (h : f.create k start shutdown = some creation) :
    ∃ a : Attempt, f.attempt k start shutdown = some a ∧ a.failure = creation.failure := by
  unfold Factory.attempt
  split
  · next hnone =>
    rw [h] at hnone
    cases hnone
  · next c hc =>
    obtain rfl := Option.some.inj (h.symm.trans hc)
    exact ⟨_, rfl, rfl⟩

variable {c : Course} {o : Occasion}

/-- A factory says that a creation was cut short only if the process is shut down. -/
theorem CreatedBy.fired {f : Factory} {k : String} {start : Moment} {shutdown : Option Moment}
    {creation : Creation} (h : c.CreatedBy o f k start shutdown creation)
    (hcut : (o.attempt k).failure = some .cancelled) : (c.cycle o).stage.fired = true := by
  obtain ⟨a, ha, hfailure⟩ := attempt_of_create h.created
  obtain rfl := Option.some.inj (ha.symm.trans h.seen)
  rw [hfailure, Creation.failure_eq_some] at hcut
  cases Factory.reason h.created hcut with
  | shutdown fires come => exact h.shutdown _ fires come

theorem uninterrupted (hmade : c.ByFactory o) (hf : (c.cycle o).stage.fired = false) :
    ¬ c.Interrupted o := by
  intro hi
  have hstart : c.stage.fired ≠ true := by
    intro hstart
    rw [(c.before_cycle o).fired hstart] at hf
    cases hf
  obtain ⟨hcomplete, hmiss⟩ := interrupted_iff.mp hi
  rcases ending_cases c o with ⟨hs, -⟩ | ⟨fault, hl, hs, -⟩ | ⟨names, calls, hl, hs, hcalls, h⟩
  · exact hs (Or.inr (by simpa using hstart))
  · exact hmiss ⟨hs, fault, hl⟩
  · have hcut : o.surroundings.completes (.ofList names) ⟨c.stage, c.roster, []⟩ = false := by
      rw [Bool.eq_false_iff]
      exact fun hall => hcomplete ((completes_of_listing hl).mpr ⟨hs, hall⟩)
    rw [hcut] at h
    have hfired : (c.cycle o).stage.fired = true := by
      rcases h.part rfl with ⟨before, ⟨k, answer⟩, hsplit, hlast, -⟩ | ⟨hseen, -⟩
      · cases answer with
        | ok t => cases hlast
        | error failure =>
          obtain rfl := failure.isCancelled_iff.mp hlast
          have hk : (k, .error .cancelled) ∈ calls := by simp [hsplit]
          obtain ⟨f, start, shutdown, creation, hcreated⟩ :=
            hmade k (by rw [hcalls]; exact List.mem_map_of_mem (f := (·.1)) hk)
          refine hcreated.fired (failure_of_abandoned (c := c) ?_)
          rw [steps_cut h]
          exact List.mem_cons_of_mem _ (abandoned_mem hk)
      · exact hseen
    rw [hf] at hfired
    cases hfired

section Whole

variable {names : List String}
  (h : Followed o.surroundings (.ofList names) ⟨c.stage, c.roster, []⟩ (c.calls o) true
    (c.progress o))

include h

theorem failed_of_followed (hl : o.listing = .ok names) {k : String} (hk : k ∈ names)
    (hnone : k ∉ (c.cycle o).roster.instances) :
    (∃ f, (k, .error f) ∈ c.calls o ∧ f.isCancelled = false) ∧ k ∈ (c.report o).failed ∧
      k ∈ (c.cycle o).roster.failed ∧ (c.cycle o).stage.store.launchFailures[k]? =
        some (c.stage.store.launchFailures.getD k 0 + 1) := by
  have hconv : Converged names c.roster (c.calls o) (c.cycle o).roster (c.report o) := h.converged
  have hold : k ∉ c.roster.instances := fun hm => hnone ((hconv.instances k).mpr (Or.inl ⟨hm, hk⟩))
  obtain ⟨⟨k', answer⟩, hcall, rfl⟩ := List.mem_map.mp ((hconv.mem_calls k).mpr ⟨hk, hold⟩)
  cases answer with
  | ok t => exact absurd ((Roster.mem_instances_iff _).mpr ⟨t, hconv.created k' t hcall⟩) hnone
  | error f =>
    have hreal : f.isCancelled = false := (h.whole rfl).2 _ hcall
    have hfailed : k' ∈ (c.calls o).filterMap Call.failed? := Call.mem_failed.mpr ⟨f, hcall, hreal⟩
    have hkept : ¬ Releases k' c o := by
      rintro ⟨-, ⟨names', hl', hn⟩, -⟩
      obtain rfl := Except.ok.inj (hl.symm.trans hl')
      exact hn hk
    refine ⟨⟨f, hcall, hreal⟩, (hconv.failed.2 k').mpr ⟨f, hcall⟩, ?_, ?_⟩
    · rw [show (c.cycle o).roster = _ from h.roster_complete, Roster.mem_failed_restrict,
        failed_foldl_answer _ _ h.nodup]
      exact ⟨Or.inl ⟨f, hcall, hreal⟩, mem_listed.mpr hk⟩
    · rw [(booked c o).failed k' hkept, failures_eq h.nodup, if_pos hfailed, if_neg Nat.one_ne_zero]

theorem removed_of_followed (hc : Chronicle c.stage c.roster.instances c.steps) {k : String}
    {t : Token} (ht : c.roster.instances[k]? = some t) (hk : k ∉ names) :
    k ∉ (c.cycle o).roster.instances ∧ k ∈ (c.report o).stopped ∧
      (c.cycle o).stage.cancellation.isCancelled t = true := by
  have hconv : Converged names c.roster (c.calls o) (c.cycle o).roster (c.report o) := h.converged
  have hm : k ∈ c.roster.instances := c.roster.mem_instances_iff.mpr ⟨t, ht⟩
  have hgone : k ∉ (c.cycle o).roster.instances := by
    rw [hconv.instances]
    rintro (⟨-, hn⟩ | ⟨⟨hn, -⟩, -⟩) <;> exact hk hn
  refine ⟨hgone, (hconv.stopped.2 k).mpr ⟨hm, hk⟩, ?_⟩
  -- the steps stop the instance, and so its token has fired
  have hlast : Chronicle (c.cycle o).stage (c.cycle o).roster.instances (c.cycle o).steps :=
    hc.turn (.cycle o)
  have hstopped : .stopped k t ∈ (c.cycle o).steps := by
    rw [steps_cycle]
    exact List.mem_append_right _ (h.stopped_mem.mpr ⟨rfl, ht, fun hn => hk (mem_listed.mp hn)⟩)
  have hfired := (hlast.fired _ (hlast.stopped k t hstopped)).mpr fun hkept =>
    hgone ((Roster.mem_instances_iff _).mpr ⟨t, hkept⟩)
  exact Cancellation.isCancelled_eq_true.mpr ⟨t.number, List.mem_cons_self, hfired⟩

end Whole

theorem whole (hc : Chronicle c.stage c.roster.instances c.steps) (hi : ¬ c.Interrupted o) :
    c.Whole o where
  uninterrupted := hi
  follows names hl := by
    obtain ⟨hcomplete, h⟩ := followed_of_uninterrupted hi hl
    exact ⟨hcomplete, h.converged⟩
  failed names hl k hk hnone := failed_of_followed (followed_of_uninterrupted hi hl).2 hl hk hnone
  removed names hl k t ht hk :=
    removed_of_followed (followed_of_uninterrupted hi hl).2 hc ht hk
  forgotten names hl k _ hk hm :=
    hk (listed_of_has hl (completes_iff.mp (followed_of_uninterrupted hi hl).1) (Or.inr hm))

/-- A creation fails with a cancellation only if the shutdown has come, so over a factory no cycle is
interrupted while the process goes on. -/
theorem cancelled_means_shutdown :
    (∀ (f : Factory) (k : String) (start : Moment) (shutdown : Option Moment) (creation : Creation)
      (failure : ControllerFailure), f.create k start shutdown = some creation →
        creation.outcome = .error failure →
          (failure.isCancelled = true → ∃ t, shutdown = some t ∧ t ≤ creation.ended) ∧
          (failure.isCancelled = false → failure = .noWorkingClient k ∨
            (∃ why, failure = .notReady k why) ∨
              ∃ controller named why, failure = .controllerInit controller named why)) ∧
    ∀ turns : List Turn,
      (∀ before o after, turns = before ++ .cycle o :: after → (run before).ByFactory o) →
      (run turns).stage.fired = false →
        ∀ before o after, turns = before ++ .cycle o :: after → (run before).Whole o := by
  refine ⟨?creations, ?cycles⟩
  case creations =>
    intro f k start shutdown creation failure hcreated hf
    cases Factory.reason hcreated hf with
    | shutdown fires come => exact ⟨fun _ => ⟨_, fires, come⟩, nofun⟩
    | noWorkingClient => exact ⟨nofun, fun _ => Or.inl rfl⟩
    | notReady why => exact ⟨nofun, fun _ => Or.inr (Or.inl ⟨why, rfl⟩)⟩
    | controllerInit c named why => exact ⟨nofun, fun _ => Or.inr (Or.inr ⟨c, named, why, rfl⟩)⟩
  case cycles =>
    intro turns hmade hf before o after hsplit
    -- what had fired after this cycle would have fired at the end
    have hlater : (run turns).stage = (((run before).cycle o).go after).stage := by
      rw [hsplit, run, go, List.foldl_append]
      rfl
    have hcycle : ((run before).cycle o).stage.fired = false := by
      rw [Bool.eq_false_iff]
      intro hfired
      rw [hlater, (before_go _ after).fired hfired] at hf
      cases hf
    exact whole (chronicle before) (uninterrupted (hmade before o after hsplit) hcycle)

/-- A factory that finds no kubeconfig for one cluster, and for another waits for it for ever. -/
def trialFactory (builders : List Instance.Builder) : Factory where
  plan := { builders }
  site k :=
    { fetch := fun endpoint =>
        { kubeconfig := if k = "b" then none else some endpoint.name
          takes := if k = "c" then none else some 0 }
      target := fun server => some ⟨server, true⟩
      probe := fun _ _ _ => { ready := true } }
  world _ := {}

/-- An occasion on which the instances of some clusters are created so. -/
def trialOccasion (builders : List Instance.Builder) (names : List String) : Occasion where
  listing := .ok names
  attempt k := ((trialFactory builders).attempt k 0 none).getD { failure := some (.noWorkingClient k) }

theorem byFactory_trial {builders : List Instance.Builder} {names : List String} {c : Course}
    (h : ∀ k ∈ (c.calls (trialOccasion builders names)).map (·.1),
      ((trialFactory builders).create k 0 none).isSome = true) :
    c.ByFactory (trialOccasion builders names) := by
  intro k hk
  obtain ⟨creation, hcreated⟩ := Option.isSome_iff_exists.mp (h k hk)
  obtain ⟨a, ha, -⟩ := attempt_of_create hcreated
  have hseen : (trialOccasion builders names).attempt k = a := by
    simp only [trialOccasion, ha, Option.getD_some]
  exact ⟨trialFactory builders, 0, none, creation, hcreated, hseen ▸ ha, nofun⟩

/-- First there is an instance of `z`.  Then there is no kubeconfig for `b`, and a builder for `a`
fails as if there were a shutdown.  Still `z` is removed. -/
theorem cancelled_means_shutdown_trial :
    let first := trialOccasion [.service, .node] ["z"]
    let second := trialOccasion [.service, .scripted "x" (some .cancelled) false] ["a", "b"]
    (run [.cycle first, .cycle second]).stage.fired = false ∧
      (run [.cycle first]).Whole second ∧ (run [.cycle first]).roster.managed = ["z"] ∧
      (run [.cycle first]).report second = { stopped := ["z"], failed := ["a", "b"] } ∧
      ∃ creation, (trialFactory [.service]).create "c" 0 (some 5) = some creation ∧
        creation.outcome = .error .cancelled ∧ ∃ t, some 5 = some t ∧ t ≤ creation.ended := by
  intro first second
  have hf : (run [.cycle first, .cycle second]).stage.fired = false := by decide +kernel
  have hfirst : (run []).ByFactory first := byFactory_trial (by decide +kernel)
  have hsecond : (run [.cycle first]).ByFactory second := byFactory_trial (by decide +kernel)
  have hmade (before : List Turn) (o : Occasion) (after : List Turn)
      (hsplit : [.cycle first, .cycle second] = before ++ .cycle o :: after) :
      (run before).ByFactory o := by
    rcases before with _ | ⟨t, _ | ⟨t', before⟩⟩
    · cases hsplit
      exact hfirst
    · cases hsplit
      exact hsecond
    · simp at hsplit
  have hcut : ((trialFactory [.service]).create "c" 0 (some 5)).map Creation.failure =
      some (some .cancelled) := by decide +kernel
  obtain ⟨creation, hcreated, hfailure⟩ := Option.map_eq_some_iff.mp hcut
  have ho : creation.outcome = .error .cancelled := Creation.failure_eq_some.mp hfailure
  exact ⟨hf, cancelled_means_shutdown.2 _ hmade hf [.cycle first] second [] rfl,
    by decide +kernel, by decide +kernel, creation, hcreated, ho,
    (cancelled_means_shutdown.1 _ "c" 0 (some 5) creation _ hcreated ho).1 rfl⟩

end Course

end Flotilla.Fleet
