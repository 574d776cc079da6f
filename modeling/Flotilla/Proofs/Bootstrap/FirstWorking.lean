import Flotilla.Bootstrap
import Flotilla.Proofs.Retry.Account

/-!
# The first endpoint that works

A search that no shutdown disturbs takes the endpoints in their order and stops at the first that
passes the four steps.

* `Passes`, `Works`: the four steps, told without the search.
* `Trial`: what a try of one endpoint asks of the outside, and how it ends.
* `Leads`: how a search goes from endpoint to endpoint.
* `search_first_works`: what comes of it for the endpoints in the order of preference.

What a server answers may depend on the probes before, so all of this speaks of an endpoint that
is tried after some probes and from a moment on.
-/

namespace Flotilla.Bootstrap

open Retry (Policy Checks)
open Time (Moment)

section

variable (site : Site) (policy : Policy) (cluster : String)

/-- What the kubeconfig of an endpoint is good for, if it is there and can be turned into
settings. -/
def Site.target? (endpoint : Endpoint) : Option Target :=
  (site.fetch endpoint).kubeconfig.bind site.target

/-- A check from a moment on succeeds under the policy. -/
def Answers (checks : Checks) (start : Moment) : Prop :=
  ∃ k attempts finish, policy.Closes checks start (policy.limits start none) k (.ok attempts) finish

/-- An endpoint passes all four steps. -/
structure Passes (endpoint : Endpoint) (earlier : List String) (start : Moment) (target : Target) :
    Prop where
  settings : site.target? endpoint = some target
  answers : ∃ d, (site.fetch endpoint).takes = some d ∧
    Answers policy (site.probe earlier target.server) (start + d)
  builds : target.buildable = true

def Works (endpoint : Endpoint) (earlier : List String) (start : Moment) : Prop :=
  ∃ target, Passes site policy endpoint earlier start target

/-- The kubeconfig of an endpoint comes or is refused, and the probing of its server ends. -/
def Settles (endpoint : Endpoint) (earlier : List String) (start : Moment) : Prop :=
  ∃ d, (site.fetch endpoint).takes = some d ∧ ∀ target, site.target? endpoint = some target →
    ∃ r, policy.run (site.probe earlier target.server) (start + d) none = some r

/-- So it is with the first of some endpoints, and if it does not work with those after it. -/
def SettlesFrom : List Endpoint → (earlier : List String) → (start : Moment) → Prop
  | [], _, _ => True
  | endpoint :: rest, earlier, start => Settles site policy endpoint earlier start ∧
      (¬ Works site policy endpoint earlier start →
        ∀ t, tryEndpoint site policy none cluster endpoint earlier start = some t →
          SettlesFrom rest (earlier ++ t.probes.map (·.2)) t.ended)

/-- A try of an endpoint. -/
structure Trial (endpoint : Endpoint) (earlier : List String) (start : Moment) (t : Try) :
    Prop where
  tried : tryEndpoint site policy none cluster endpoint earlier start = some t
  /-- It ends well if the endpoint works. -/
  works : ∀ target, Passes site policy endpoint earlier start target →
    t.verdict = .works ⟨cluster, endpoint, target.server⟩
  /-- And only then. -/
  fails : ¬ Works site policy endpoint earlier start → t.verdict = .fails
  /-- Without settings nothing is probed. -/
  bare : site.target? endpoint = none → t.probes = []
  /-- The probes are the attempts that the policy makes, and all of the server in the settings. -/
  probes : ∀ target d, site.target? endpoint = some target →
    (site.fetch endpoint).takes = some d → ∀ k m server, t.probes[k]? = some (m, server) ↔
      server = target.server ∧ policy.Begun (site.probe earlier target.server) (start + d)
        (policy.limits (start + d) none) k m
  /-- A probe that is followed by another is answered with no. -/
  refused : ∀ target, site.target? endpoint = some target → ∀ k, k + 1 < t.probes.length →
    (site.probe earlier target.server k).ready = false
  bounded : ∀ most, policy.maxAttempts = some most → t.probes.length ≤ max most 1
  within : ∀ m server, (m, server) ∈ t.probes → start ≤ m ∧ m ≤ t.ended

/-- How a search goes. -/
inductive Leads : List Endpoint → List String → Moment → Search → Prop
  | exhausted {earlier : List String} {start : Moment} :
      Leads [] earlier start { outcome := .error (.noWorkingClient cluster), ended := start }
  | works {endpoint : Endpoint} {rest : List Endpoint} {earlier : List String} {start : Moment}
      {t : Try} {target : Target} (trial : Trial site policy cluster endpoint earlier start t)
      (passes : Passes site policy endpoint earlier start target) :
      Leads (endpoint :: rest) earlier start
        { outcome := .ok ⟨cluster, endpoint, target.server⟩, calls := t.calls endpoint start,
          ended := t.ended }
  | fails {endpoint : Endpoint} {rest : List Endpoint} {earlier : List String} {start : Moment}
      {t : Try} {s : Search} (trial : Trial site policy cluster endpoint earlier start t)
      (fails : ¬ Works site policy endpoint earlier start)
      (next : Leads rest (earlier ++ t.probes.map (·.2)) t.ended s) :
      Leads (endpoint :: rest) earlier start (s.after (t.calls endpoint start))

/-- What comes of a search, given the try of the external endpoint. -/
structure FirstWorks (start : Moment) (ext : Try) (s : Search) : Prop where
  trial : Trial site policy cluster .external [] start ext
  /-- There is a client if some endpoint works. -/
  found : (∃ client, s.outcome = .ok client) ↔ Works site policy .external [] start ∨
    Works site policy .internal (ext.probes.map (·.2)) ext.ended
  /-- If the external endpoint works the client is one for it, and that is all. -/
  external : ∀ target, Passes site policy .external [] start target →
    s.outcome = .ok ⟨cluster, .external, target.server⟩ ∧
      s.calls = ext.calls .external start ∧ s.fetches = [.external]
  /-- If it does not, the internal one is tried when that is over. -/
  internal : ¬ Works site policy .external [] start →
    (∃ int, Trial site policy cluster .internal (ext.probes.map (·.2)) ext.ended int ∧
      s.calls = ext.calls .external start ++ int.calls .internal ext.ended ∧
        s.fetches = [.external, .internal]) ∧
      ∀ target, Passes site policy .internal (ext.probes.map (·.2)) ext.ended target →
        s.outcome = .ok ⟨cluster, .internal, target.server⟩
  /-- If neither works the failure says so. -/
  neither : ¬ Works site policy .external [] start →
    ¬ Works site policy .internal (ext.probes.map (·.2)) ext.ended →
      s.outcome = .error (.noWorkingClient cluster)

end

variable {site : Site} {policy : Policy} {cluster : String}

/-! ## One endpoint -/

theorem Passes.unique {endpoint : Endpoint} {earlier : List String} {start : Moment}
    {target target' : Target} (h : Passes site policy endpoint earlier start target)
    (h' : Passes site policy endpoint earlier start target') : target = target' :=
  Option.some.inj (h.settings.symm.trans h'.settings)

section

variable {endpoint : Endpoint} {earlier : List String} {start : Moment}

theorem not_works_of_target?_eq_none (h : site.target? endpoint = none) :
    ¬ Works site policy endpoint earlier start := by
  rintro ⟨target, hp⟩
  have hsettings := hp.settings
  rw [h] at hsettings
  cases hsettings

theorem trial_of_target?_eq_none {d : Nat} (hd : (site.fetch endpoint).takes = some d)
    (ht : site.target? endpoint = none) :
    Trial site policy cluster endpoint earlier start { verdict := .fails, ended := start + d } where
  tried := by
    have hbind : (site.fetch endpoint).kubeconfig.bind site.target = none := ht
    simp only [tryEndpoint, fetched, hd, Option.map_some, hbind]
  works target hp := absurd ⟨target, hp⟩ (not_works_of_target?_eq_none ht)
  fails _ := rfl
  bare _ := rfl
  probes target d ht' := by
    rw [ht] at ht'
    cases ht'
  refused target ht' := by
    rw [ht] at ht'
    cases ht'
  bounded most _ := Nat.zero_le _
  within m server hm := by cases hm

variable {d : Nat} {target : Target} {r : Retry.Run} (hd : (site.fetch endpoint).takes = some d)
  (ht : site.target? endpoint = some target)
  (hr : policy.run (site.probe earlier target.server) (start + d) none = some r)

include hd ht hr

/-- With settings it works when the run of its probes succeeds and a client can be built. -/
theorem passes_iff {target' : Target} : Passes site policy endpoint earlier start target' ↔
    target' = target ∧ (∃ n, r.outcome = .ok n) ∧ target.buildable = true := by
  have ha := Policy.account hr
  constructor
  · rintro ⟨hsettings, ⟨d', hd', k, n, e, hc⟩, hbuilds⟩
    obtain rfl : target' = target := Option.some.inj (hsettings.symm.trans ht)
    obtain rfl : d' = d := Option.some.inj (hd'.symm.trans hd)
    exact ⟨rfl, ⟨n, ha.outcome_eq_ok.mpr ⟨k, e, hc⟩⟩, hbuilds⟩
  · rintro ⟨rfl, ⟨n, hn⟩, hbuilds⟩
    obtain ⟨k, e, hc⟩ := ha.outcome_eq_ok.mp hn
    exact ⟨ht, ⟨d, hd, k, n, e, hc⟩, hbuilds⟩

/-- The try of an endpoint with settings goes as the run of its probes. -/
theorem exists_tryEndpoint (cluster : String) :
    ∃ t, tryEndpoint site policy none cluster endpoint earlier start = some t ∧
      t.probes = r.calls.map (fun (_, m) => (m, target.server)) ∧ t.ended = r.ended ∧
      (∀ n, r.outcome = .ok n → t.verdict =
        if target.buildable then .works ⟨cluster, endpoint, target.server⟩ else .fails) ∧
      ∀ why, why ≠ .cancelled → r.outcome = .error why → t.verdict = .fails := by
  have hbind : (site.fetch endpoint).kubeconfig.bind site.target = some target := ht
  simp only [tryEndpoint, fetched, hd, Option.map_some, hbind, probed, hr]
  refine ⟨_, rfl, rfl, rfl, fun n hn => by rw [hn], fun why hwhy ho => ?_⟩
  cases why with
  | cancelled => exact absurd rfl hwhy
  | _ => rw [ho]

theorem exists_trial_of_target? : ∃ t, Trial site policy cluster endpoint earlier start t := by
  have ha := Policy.account hr
  have hpass {target' : Target} : Passes site policy endpoint earlier start target' ↔ _ :=
    passes_iff hd ht hr
  obtain ⟨t, tried, hprobes, hended, hok, herror⟩ := exists_tryEndpoint hd ht hr cluster
  refine ⟨t, tried, ?works, ?fails, ?bare, ?probes, ?refused, ?bounded, ?within⟩
  case works =>
    intro target' hp
    obtain ⟨rfl, ⟨n, hn⟩, hbuilds⟩ := hpass.mp hp
    rw [hok n hn, if_pos hbuilds]
  case fails =>
    intro hnot
    cases ho : r.outcome with
    | error why =>
      refine herror why ?_ ho
      rintro rfl
      exact ha.outcome_ne_cancelled rfl ho
    | ok n =>
      rw [hok n ho, if_neg]
      exact fun hbuilds => hnot ⟨target, hpass.mpr ⟨rfl, ⟨n, ho⟩, hbuilds⟩⟩
  case bare =>
    intro hnone
    rw [ht] at hnone
    cases hnone
  case probes =>
    intro target' d' ht' hd' k m server
    obtain rfl : target = target' := Option.some.inj (ht.symm.trans ht')
    obtain rfl : d = d' := Option.some.inj (hd.symm.trans hd')
    simp only [hprobes, List.getElem?_map, Option.map_eq_some_iff, Prod.mk.injEq, Prod.exists]
    constructor
    · rintro ⟨j, s, hk, rfl, rfl⟩
      exact ⟨rfl, (ha.getElem?_calls.mp hk).2⟩
    · rintro ⟨rfl, hb⟩
      exact ⟨k, m, ha.getElem?_calls.mpr ⟨rfl, hb⟩, rfl, rfl⟩
  case refused =>
    intro target' ht' k hk
    obtain rfl : target = target' := Option.some.inj (ht.symm.trans ht')
    rw [hprobes, List.length_map] at hk
    exact (Policy.verdict_eq_none.mp (ha.verdict_of_lt hk)).1
  case bounded =>
    intro most hmost
    rw [hprobes, List.length_map]
    exact ha.length_le hmost
  case within =>
    intro m server hm
    rw [hprobes] at hm
    obtain ⟨⟨j, s⟩, hj, he⟩ := List.mem_map.mp hm
    cases he
    obtain ⟨hle, hlast⟩ := ha.within hj
    rw [hended]
    exact ⟨Nat.le_trans (Nat.le_add_right start d) hle, hlast⟩

end

theorem Settles.exists_trial {endpoint : Endpoint} {earlier : List String} {start : Moment}
    (h : Settles site policy endpoint earlier start) (cluster : String) :
    ∃ t, Trial site policy cluster endpoint earlier start t := by
  obtain ⟨d, hd, hrun⟩ := h
  cases ht : site.target? endpoint with
  | none => exact ⟨_, trial_of_target?_eq_none hd ht⟩
  | some target =>
    obtain ⟨r, hr⟩ := hrun target ht
    exact exists_trial_of_target? hd ht hr

/-! ## The endpoints in their order -/

/-- How a search goes that no shutdown disturbs. -/
theorem searchFrom_leads {endpoints : List Endpoint} {earlier : List String} {start : Moment}
    (h : SettlesFrom site policy cluster endpoints earlier start) :
    ∃ s, searchFrom site policy none cluster endpoints earlier start = some s ∧
      Leads site policy cluster endpoints earlier start s := by
  -- what the next endpoint is tried after, and from when on, depends on how this one went
  induction endpoints generalizing earlier start with
  | nil => exact ⟨_, rfl, .exhausted⟩
  | cons endpoint rest ih =>
    obtain ⟨hsettles, hnext⟩ := h
    obtain ⟨t, trial⟩ := hsettles.exists_trial cluster
    by_cases hworks : Works site policy endpoint earlier start
    · obtain ⟨target, hp⟩ := hworks
      refine ⟨_, ?_, .works trial hp⟩
      simp [searchFrom, trial.tried, trial.works target hp]
    · obtain ⟨s, hs, hleads⟩ := ih (hnext hworks t trial.tried)
      refine ⟨_, ?_, .fails trial hworks hleads⟩
      simp [searchFrom, trial.tried, trial.fails hworks, hs]

/-- Where every fetch and every probe is answered and the attempts are bounded, a search ends. -/
theorem settlesFrom_of_maxAttempts {most : Nat} (hmost : policy.maxAttempts = some most)
    (hbound : most < Retry.attemptBound) (hfetch : ∀ endpoint, (site.fetch endpoint).takes ≠ none)
    (hprobe : ∀ earlier server k, (site.probe earlier server k).takes ≠ none)
    (endpoints : List Endpoint) (earlier : List String) (start : Moment) :
    SettlesFrom site policy cluster endpoints earlier start := by
  induction endpoints generalizing earlier start with
  | nil => trivial
  | cons endpoint rest ih =>
    obtain ⟨d, hd⟩ := Option.ne_none_iff_exists'.mp (hfetch endpoint)
    refine ⟨⟨d, hd, fun target _ => ?_⟩, fun _ t _ => ih _ _⟩
    exact Policy.run_isSome_of_maxAttempts hmost hbound (hprobe earlier target.server) none

/-! ## The preferred endpoint -/

theorem fetches_calls (t : Try) (endpoint : Endpoint) (start : Moment) :
    (t.calls endpoint start).filterMap (fun (_, call) => call.fetch?) = [endpoint] := by
  simp [Try.calls, Call.fetch?, List.filterMap_map]

/-- A search that no shutdown disturbs finds a client for the first endpoint that works. -/
theorem search_first_works (site : Site) (policy : Policy) (cluster : String) (start : Moment)
    (h : SettlesFrom site policy cluster Endpoint.preference [] start) :
    ∃ s ext, search site policy cluster start none = some s ∧
      FirstWorks site policy cluster start ext s := by
  obtain ⟨s, hs, hleads⟩ := searchFrom_leads h
  -- there are three ways to go: the external endpoint works, only the internal one, or neither
  cases hleads with
  | works trial passes =>
    refine ⟨_, _, hs, trial, ?found, ?external, ?internal, ?neither⟩
    case found => exact ⟨fun _ => Or.inl ⟨_, passes⟩, fun _ => ⟨_, rfl⟩⟩
    case external =>
      intro target hp
      obtain rfl := passes.unique hp
      exact ⟨rfl, rfl, fetches_calls _ _ _⟩
    case internal => exact fun hnot => absurd ⟨_, passes⟩ hnot
    case neither => exact fun hnot => absurd ⟨_, passes⟩ hnot
  | fails trial hext next =>
    cases next with
    | works trial' passes =>
      refine ⟨_, _, hs, trial, ?found, ?external, ?internal, ?neither⟩
      case found => exact ⟨fun _ => Or.inr ⟨_, passes⟩, fun _ => ⟨_, rfl⟩⟩
      case external => exact fun target hp => absurd ⟨target, hp⟩ hext
      case internal =>
        intro _
        refine ⟨⟨_, trial', rfl, by simp [Search.fetches, Search.after, fetches_calls]⟩, ?_⟩
        intro target hp
        obtain rfl := passes.unique hp
        rfl
      case neither => exact fun _ hnot => absurd ⟨_, passes⟩ hnot
    | fails trial' hint next' =>
      cases next'
      refine ⟨_, _, hs, trial, ?found, ?external, ?internal, ?neither⟩
      case found =>
        constructor
        · rintro ⟨client, hc⟩
          cases hc
        · rintro (hw | hw)
          · exact absurd hw hext
          · exact absurd hw hint
      case external => exact fun target hp => absurd ⟨target, hp⟩ hext
      case internal =>
        intro _
        refine ⟨⟨_, trial', ?_, ?_⟩, fun target hp => absurd ⟨target, hp⟩ hint⟩
        · simp [Search.after]
        · simp [Search.fetches, Search.after, fetches_calls]
      case neither => exact fun _ _ => rfl

/-- Only the internal endpoint answers, and that at the second probe. -/
def trialSite : Site where
  fetch endpoint := { kubeconfig := some endpoint.name, takes := some 5 }
  target text := some ⟨text, true⟩
  probe _ server k := { ready := server == "internal" && k == 1, takes := some 1 }

/-- A search that falls back to the internal endpoint. -/
theorem search_first_works_trial :
    SettlesFrom trialSite .probe "alpha" Endpoint.preference [] 0 ∧
      ∃ s ext, search trialSite .probe "alpha" 0 none = some s ∧
        FirstWorks trialSite .probe "alpha" 0 ext s ∧
          s.outcome = .ok ⟨"alpha", .internal, "internal"⟩ ∧
            s.fetches = [.external, .internal] ∧
              s.probes.map (·.2) = List.replicate 5 "external" ++ List.replicate 2 "internal" := by
  have hsettles : SettlesFrom trialSite .probe "alpha" Endpoint.preference [] 0 :=
    settlesFrom_of_maxAttempts rfl (by decide) (by simp [trialSite]) (by simp [trialSite]) _ _ _
  obtain ⟨s, ext, hs, hworks⟩ := search_first_works trialSite .probe "alpha" 0 hsettles
  refine ⟨hsettles, s, ext, hs, hworks, ?_⟩
  have hrun : (search trialSite .probe "alpha" 0 none).map
      (fun s => (s.outcome, s.fetches, s.probes.map (·.2))) = some
        (.ok ⟨"alpha", .internal, "internal"⟩, [.external, .internal],
          List.replicate 5 "external" ++ List.replicate 2 "internal") := by rfl
  rw [hs] at hrun
  simpa using hrun

end Flotilla.Bootstrap
