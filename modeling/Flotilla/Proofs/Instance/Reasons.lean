import Flotilla.Instance.Attempt
import Flotilla.Proofs.Retry.Account

/-!
# Why an instance is not created

A creation goes through the fetches of kubeconfigs, the probes of servers, the question for the
health of the apiserver and the builders of the controllers.  Each of them can fail, and each can be
given up because of the shutdown.  `Reason` has what is left of this at the end: the shutdown if it
has come, and otherwise one failure for each step.

* `searchFrom_outcome`: the search for a client.
* `Launch.reason`: the launch.
* `Factory.reason`: the whole creation.
-/

namespace Flotilla

open Time (Moment)

/-- Why there is no instance of a cluster, given when the shutdown comes and when it was over. -/
inductive Instance.Reason (cluster : String) (shutdown : Option Moment) (ended : Moment) :
    ControllerFailure → Prop
  | shutdown {t : Moment} (fires : shutdown = some t) (come : t ≤ ended) :
      Reason cluster shutdown ended .cancelled
  | noWorkingClient : Reason cluster shutdown ended (.noWorkingClient cluster)
  | notReady (why : String) : Reason cluster shutdown ended (.notReady cluster why)
  | controllerInit (controller named why : String) :
      Reason cluster shutdown ended (.controllerInit controller named why)

open Instance (Reason)

namespace Bootstrap

open Retry (Policy)

variable {site : Site} {policy : Policy} {shutdown : Option Moment} {cluster : String}

/-! ## The search for a client -/

/-- A fetch is cut short only by the shutdown, at its moment. -/
theorem fetched_error {endpoint : Endpoint} {start t : Moment}
    (h : fetched site shutdown endpoint start = some (.error t)) : shutdown = some t := by
  simp only [fetched] at h
  split at h
  · cases h
  · cases h
    rfl
  · cases h
  · split at h
    · cases h
      rfl
    · cases h

/-- A try is cut short only when the shutdown has come, and its client is one for the cluster. -/
theorem tryEndpoint_verdict {endpoint : Endpoint} {earlier : List String} {start : Moment} {t : Try}
    (h : tryEndpoint site policy shutdown cluster endpoint earlier start = some t) :
    (t.verdict = .cutShort → ∃ u, shutdown = some u ∧ u ≤ t.ended) ∧
      ∀ client, t.verdict = .works client → client.cluster = cluster := by
  unfold tryEndpoint at h
  split at h
  · cases h
  · -- the fetch was cut short
    next u hfetched =>
    cases h
    exact ⟨fun _ => ⟨u, fetched_error hfetched, Nat.le_refl u⟩, nofun⟩
  · split at h
    · cases h
      exact ⟨nofun, nofun⟩
    · next target _ =>
      unfold probed at h
      split at h
      · cases h
      · next run hrun =>
        cases h
        cases ho : run.outcome with
        | error why =>
          cases why with
          | cancelled =>
            refine ⟨fun _ => ?_, nofun⟩
            exact (Policy.account hrun).shutdown_of_cancelled ho
          | _ => exact ⟨nofun, nofun⟩
        | ok n =>
          cases target.buildable with
          | true => exact ⟨nofun, fun client hc => by cases hc; rfl⟩
          | false => exact ⟨nofun, nofun⟩

/-- A search fails because no endpoint works, or because the shutdown has come.  If it finds a client
that is one for the cluster. -/
theorem searchFrom_outcome {endpoints : List Endpoint} {earlier : List String} {start : Moment}
    {s : Search} (h : searchFrom site policy shutdown cluster endpoints earlier start = some s) :
    (∀ failure, s.outcome = .error failure → Reason cluster shutdown s.ended failure) ∧
      ∀ client, s.outcome = .ok client → client.cluster = cluster := by
  induction endpoints generalizing earlier start s with
  | nil =>
    cases h
    refine ⟨fun failure hf => ?_, nofun⟩
    cases hf
    exact .noWorkingClient
  | cons endpoint rest ih =>
    simp only [searchFrom] at h
    split at h
    · next hshut =>
      cases h
      refine ⟨fun failure hf => ?_, nofun⟩
      cases hf
      cases hs : shutdown with
      | none => simp [hs] at hshut
      | some t => exact .shutdown rfl (by simpa [hs] using hshut)
    · split at h
      · cases h
      · next t ht =>
        obtain ⟨hcut, hclient⟩ := tryEndpoint_verdict ht
        split at h
        · next hv =>
          cases h
          refine ⟨nofun, fun client hc => ?_⟩
          cases hc
          exact hclient _ hv
        · next hv =>
          cases h
          refine ⟨fun failure hf => ?_, nofun⟩
          cases hf
          obtain ⟨u, hu, hle⟩ := hcut hv
          exact .shutdown hu hle
        · obtain ⟨s', hs', rfl⟩ := Option.map_eq_some_iff.mp h
          exact ih (s := s') hs'

end Bootstrap

namespace Instance

/-! ## The launch -/

theorem Launch.reason {plan : Plan} {client : AdminClient} {world : Apiserver.World}
    {start : Moment} {shutdown : Option Moment} {l : Launch} {failure : ControllerFailure}
    (h : Launch.run plan client world start shutdown = some l) (hf : l.failure = some failure) :
    Reason client.cluster shutdown l.ended failure := by
  obtain ⟨r, hr, rfl⟩ := Option.map_eq_some_iff.mp h
  cases ho : r.outcome with
  | error why =>
    cases why with
    | cancelled =>
      simp only [ho, Option.some.injEq] at hf ⊢
      subst hf
      obtain ⟨t, ht, hle⟩ := (Retry.Policy.account hr).shutdown_of_cancelled ho
      exact .shutdown ht hle
    | _ =>
      simp only [ho, Option.some.injEq] at hf
      subst hf
      exact .notReady _
  | ok n =>
    simp only [ho] at hf
    obtain ⟨controller, named, why, rfl⟩ := startAll_error hf
    exact .controllerInit controller named why

/-! ## The whole creation -/

theorem Creation.failure_eq_some {c : Creation} {failure : ControllerFailure} :
    c.failure = some failure ↔ c.outcome = .error failure := by
  unfold Creation.failure
  split <;> simp_all

/-- A creation fails because the shutdown has come, or for the reason of the step that failed. -/
theorem Factory.reason {f : Factory} {cluster : String} {start : Moment} {shutdown : Option Moment}
    {c : Creation} {failure : ControllerFailure} (h : f.create cluster start shutdown = some c)
    (hf : c.outcome = .error failure) : Reason cluster shutdown c.ended failure := by
  unfold create at h
  split at h
  · cases h
  · next search hsearch =>
    split at h
    · next e he =>
      cases h
      simp only [Creation.outcome, he] at hf
      cases hf
      exact (Bootstrap.searchFrom_outcome hsearch).1 _ he
    · next client hok =>
      obtain ⟨l, hl, rfl⟩ := Option.map_eq_some_iff.mp h
      obtain rfl := (Bootstrap.searchFrom_outcome hsearch).2 client hok
      cases hlf : l.failure with
      | none => simp [Creation.outcome, hok, hlf] at hf
      | some e =>
        simp only [Creation.outcome, hok, hlf, Except.error.injEq] at hf
        subst hf
        exact Launch.reason hl hlf

end Instance

end Flotilla
