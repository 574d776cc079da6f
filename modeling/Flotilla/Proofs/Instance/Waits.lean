import Flotilla.Proofs.Bootstrap.Tries
import Flotilla.Proofs.Instance.Gate
import Flotilla.Proofs.Retry.Bounds

/-!
# How long is waited for an apiserver

An apiserver is asked twice on behalf of an instance, each time again and again: whether it can be
reached, when an endpoint is tried, and whether it is healthy, when the instance is launched.  Both
come to an end, since a policy bounds them.

* `Bootstrap.Brief`: the probes of one endpoint.
* `Instance.Brief`: the questions for the health.
* `retries_bounded`: these two, and what bounds a run under any policy.
-/

namespace Flotilla

open Time (Moment nanosPerSecond)

/-! ## The probes of an endpoint -/

namespace Bootstrap

open Retry (Policy)

section

variable (site : Site) (shutdown : Option Moment) (cluster : String) (endpoint : Endpoint)
  (earlier : List String) (start : Moment)

/-- A try of an endpoint makes few probes, with short waits between them. -/
structure Brief : Prop where
  /-- It ends where the kubeconfig and every probe are answered. -/
  ends : (site.fetch endpoint).takes ≠ none →
    (∀ server k, (site.probe earlier server k).takes ≠ none) →
      ∃ t, tryEndpoint site .probe shutdown cluster endpoint earlier start = some t
  few : ∀ t, tryEndpoint site .probe shutdown cluster endpoint earlier start = some t →
    t.probes.length ≤ 5
  /-- All probes are for one server.  Between two there is an answer, and then a wait of none, one,
  two or three seconds. -/
  waits : ∀ t, tryEndpoint site .probe shutdown cluster endpoint earlier start = some t →
    ∀ k s server s' server', t.probes[k]? = some (s, server) →
      t.probes[k + 1]? = some (s', server') → k < 4 ∧ server' = server ∧
        ∃ d, (site.probe earlier server k).takes = some d ∧ s' = s + d + k * nanosPerSecond

end

variable {site : Site} {shutdown : Option Moment} {cluster : String} {endpoint : Endpoint}
  {earlier : List String} {start : Moment}

/-- The probes of a try are the attempts of a run. -/
theorem probes_of_try {policy : Policy} {t : Try}
    (h : tryEndpoint site policy shutdown cluster endpoint earlier start = some t) :
    t.probes = [] ∨ ∃ server begun r,
      policy.run (site.probe earlier server) begun shutdown = some r ∧
        t.probes = r.calls.map fun (_, m) => (m, server) := by
  cases tryEndpoint_goes h with
  | cut fires late => exact Or.inl rfl
  | bare fetched settings inTime => exact Or.inl rfl
  | probed fetched settings inTime goes =>
    obtain ⟨r, hr, hprobes, -⟩ := probed_eq_some goes
    exact Or.inr ⟨_, _, r, hr, hprobes⟩

/-- A try ends where everything is answered and the number of attempts is bounded. -/
theorem exists_try {policy : Policy} {most : Nat} (hmost : policy.maxAttempts = some most)
    (hbound : most < Retry.attemptBound) (hfetch : (site.fetch endpoint).takes ≠ none)
    (hprobe : ∀ server k, (site.probe earlier server k).takes ≠ none) :
    ∃ t, tryEndpoint site policy shutdown cluster endpoint earlier start = some t := by
  generalize hresult : tryEndpoint site policy shutdown cluster endpoint earlier start = result
  cases tryEndpoint_goes hresult with
  | stalled never free => exact absurd never hfetch
  | cut fires late => exact ⟨_, rfl⟩
  | bare fetched settings inTime => exact ⟨_, rfl⟩
  | @probed d target _ fetched settings inTime goes =>
    obtain ⟨r, hr⟩ : ∃ r, policy.run (site.probe earlier target.server) (start + d) shutdown =
        some r :=
      Policy.run_isSome_of_maxAttempts hmost hbound (hprobe target.server) shutdown
    simp only [probed, hr] at goes
    exact ⟨_, goes.symm⟩

/-- The waits between probes are none, one, two and three seconds. -/
theorem toNanos_delayAfter_probe : ∀ k < 4,
    (Policy.probe.schedule.delayAfter k).toNanos = k * nanosPerSecond := by
  decide

/-- There are no more probes than the policy allows attempts. -/
theorem length_probes {t : Try}
    (h : tryEndpoint site .probe shutdown cluster endpoint earlier start = some t) :
    t.probes.length ≤ 5 := by
  rcases probes_of_try h with hnone | ⟨server, begun, r, hr, hprobes⟩
  · rw [hnone]
    exact Nat.zero_le 5
  · rw [hprobes, List.length_map]
    exact (Policy.account hr).length_le (by rw [Policy.probe])

/-- A try is brief under the policy for probes. -/
theorem brief (site : Site) (shutdown : Option Moment) (cluster : String) (endpoint : Endpoint)
    (earlier : List String) (start : Moment) :
    Brief site shutdown cluster endpoint earlier start where
  ends hfetch hprobe := exists_try (by rw [Policy.probe]) (by decide) hfetch hprobe
  few t ht := length_probes ht
  waits t ht k s server s' server' hk hnext := by
    have hfew : k < 4 := Nat.lt_of_succ_lt_succ
      (Nat.lt_of_lt_of_le (List.getElem?_eq_some_iff.mp hnext).1 (length_probes ht))
    rcases probes_of_try ht with hnone | ⟨_, begun, r, hr, hprobes⟩
    · rw [hnone] at hk
      cases hk
    · rw [hprobes, List.getElem?_map, Option.map_eq_some_iff] at hk hnext
      obtain ⟨⟨i, m⟩, hk, he⟩ := hk
      obtain ⟨⟨i', m'⟩, hnext, he'⟩ := hnext
      cases he
      cases he'
      have ha := Policy.account hr
      obtain ⟨rfl, -⟩ := ha.getElem?_calls.mp hk
      obtain ⟨rfl, -⟩ := ha.getElem?_calls.mp hnext
      obtain ⟨d, htakes, hwait⟩ := (Policy.bounded _ _ _ _).waits r hr _ _ _ hk hnext
      rw [toNanos_delayAfter_probe _ hfew] at hwait
      exact ⟨hfew, rfl, d, htakes, hwait⟩

end Bootstrap

/-! ## The questions for the health -/

namespace Instance

open Apiserver (World)
open Bootstrap (Site tryEndpoint)
open Retry (Policy Checks)

section

variable (plan : Plan) (client : AdminClient) (world : World) (start : Moment)
  (shutdown : Option Moment)

/-- The wait for a healthy apiserver is short, and few questions are asked. -/
structure Brief : Prop where
  /-- So it is with any check that is made under the policy for it. -/
  check : ∀ checks, ∃ r, Policy.readiness.run checks start shutdown = some r ∧
    r.ended ≤ start + 30 * nanosPerSecond ∧ r.calls.length ≤ 31
  /-- So it is when an instance is launched. -/
  launch : plan.readiness = .readiness →
    ∃ l, Launch.run plan client world start shutdown = some l ∧
      l.ended ≤ start + 30 * nanosPerSecond ∧ l.asked.length ≤ 31

end

/-- A check that is made every second for thirty seconds. -/
theorem readiness_bounded (checks : Checks) (start : Moment) (shutdown : Option Moment) :
    ∃ r, Policy.readiness.run checks start shutdown = some r ∧
      r.ended ≤ start + 30 * nanosPerSecond ∧ r.calls.length ≤ 31 := by
  have hpolls := Policy.readiness_polls
  have hbounded := (Policy.readiness.bounded checks start shutdown).fixed _ _ hpolls.schedule
    hpolls.timeout
  rw [toNanos_ofSecs_one, toNanos_ofSecs_thirty] at hbounded
  exact hbounded (by decide) (by decide)

/-- The wait of a launch is short. -/
theorem brief (plan : Plan) (client : AdminClient) (world : World) (start : Moment)
    (shutdown : Option Moment) : Brief plan client world start shutdown where
  check checks := readiness_bounded checks start shutdown
  launch hpolicy := by
    obtain ⟨r, hr, hended, hlength⟩ := readiness_bounded world.healthChecks start shutdown
    rw [← hpolicy] at hr
    obtain ⟨l, hl, -, -, -, hlended, hlasked, -⟩ := run_cases client hr
    refine ⟨l, hl, ?_, ?_⟩
    · rw [hlended]
      exact hended
    · rw [hlasked]
      exact Nat.le_trans r.length_sent_le hlength

/-- A bounded run comes to its end, and so no apiserver is waited for long. -/
theorem retries_bounded (policy : Policy) (checks : Checks) (site : Site) (cluster : String)
    (endpoint : Endpoint) (earlier : List String) (plan : Plan) (client : AdminClient)
    (world : World) (start : Moment) (shutdown : Option Moment) :
    policy.Bounded checks start shutdown ∧
      Bootstrap.Brief site shutdown cluster endpoint earlier start ∧
        Brief plan client world start shutdown :=
  ⟨policy.bounded checks start shutdown,
    Bootstrap.brief site shutdown cluster endpoint earlier start,
    brief plan client world start shutdown⟩

/-- A server that is never reached. -/
def deadSite : Site :=
  { fetch := fun _ => { kubeconfig := some "" }
    target := fun _ => some ⟨"https://alpha", true⟩
    probe := fun _ _ _ => {} }

/-- The greatest number of attempts that a policy can allow, and a server that says no each time. -/
theorem retries_bounded_greatest :
    (∃ r, ({ maxAttempts := some 4294967295, schedule := .fixed .zero } : Policy).run
        (fun _ => {}) 0 none = some r ∧ r.calls.length ≤ 4294967295 ∧
          ∀ k s, (k, s) ∈ r.calls → k + 1 < Retry.attemptBound) ∧
      ∃ t, tryEndpoint deadSite .probe none "alpha" .external [] 0 = some t ∧
        t.probes.map (·.1) = [0, 0, 1000000000, 3000000000, 6000000000] := by
  obtain ⟨hbounded, hbrief, -⟩ := retries_bounded
    { maxAttempts := some 4294967295, schedule := .fixed .zero } (fun _ => {}) deadSite "alpha"
    .external [] {} ⟨"alpha", .external, "https://alpha"⟩ {} 0 none
  refine ⟨hbounded.attempts _ rfl (by decide) (fun _ => nofun), ?_⟩
  obtain ⟨t, ht⟩ := hbrief.ends nofun fun _ _ => nofun
  have hprobes : (tryEndpoint deadSite .probe none "alpha" .external [] 0).map
      (fun t => t.probes.map (·.1)) = some [0, 0, 1000000000, 3000000000, 6000000000] := by rfl
  rw [ht] at hprobes
  exact ⟨t, ht, Option.some.inj hprobes⟩

end Instance

end Flotilla
