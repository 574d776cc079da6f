import Flotilla.Proofs.Bootstrap.FirstWorking
import Flotilla.Proofs.Retry.Disturbed

/-!
# A try and its shutdown

The shutdown may come while a kubeconfig is fetched, during a probe or in the wait after one.  The
try is then over with it, and its calls are those that it would have made by then anyway.

* `TryGoes`: how a try goes.  It is looked into only here.
* `Asks`: the calls of a try that no shutdown disturbs.  Such a try need not end, so they cannot be
  read off what came of it.
* `tryEndpoint_shutdown`: a try is cut short, or it goes as without the shutdown.
* `Counted`: an attempt has a number below a bound, so that a policy that neither waits nor gives up
  could use the numbers up in no time.
-/

namespace Flotilla.Bootstrap

open Retry (Policy Checks attemptBound)
open Time (Moment)

section

variable (site : Site) (policy : Policy) (cluster : String)

/-- The calls of a try that no shutdown disturbs. -/
inductive Asks (endpoint : Endpoint) (earlier : List String) (start : Moment) :
    Nat → Moment × Call → Prop
  | fetch : Asks endpoint earlier start 0 (start, .fetch endpoint)
  | probe {target : Target} {d k : Nat} {m : Moment} (settings : site.target? endpoint = some target)
      (fetched : (site.fetch endpoint).takes = some d)
      (begun : policy.Begun (site.probe earlier target.server) (start + d)
        (policy.limits (start + d) none) k m) :
      Asks endpoint earlier start (k + 1) (m, .probe target.server)

/-- So few probes of an endpoint fall due before the shutdown that they can be counted. -/
def Counted (T : Moment) (endpoint : Endpoint) (earlier : List String) (start : Moment) : Prop :=
  ∀ target d, site.target? endpoint = some target → (site.fetch endpoint).takes = some d →
    start + d < T → ∃ n < attemptBound, ∀ m,
      policy.due (site.probe earlier target.server) (start + d) n = some m →
        T ≤ m ∨ ∃ limit, policy.timeout = some limit ∧ start + d + limit.toNanos < m

/-- How the try of an endpoint goes. -/
inductive TryGoes (shutdown : Option Moment) (endpoint : Endpoint) (earlier : List String)
    (start : Moment) : Option Try → Prop
  | stalled (never : (site.fetch endpoint).takes = none) (free : shutdown = none) :
      TryGoes shutdown endpoint earlier start none
  | cut {T : Moment} (fires : shutdown = some T)
      (late : ∀ d, (site.fetch endpoint).takes = some d → T < start + d) :
      TryGoes shutdown endpoint earlier start (some { verdict := .cutShort, ended := T })
  | bare {d : Nat} (fetched : (site.fetch endpoint).takes = some d)
      (settings : site.target? endpoint = none) (inTime : ∀ T, shutdown = some T → start + d ≤ T) :
      TryGoes shutdown endpoint earlier start (some { verdict := .fails, ended := start + d })
  | probed {d : Nat} {target : Target} {result : Option Try}
      (fetched : (site.fetch endpoint).takes = some d)
      (settings : site.target? endpoint = some target)
      (inTime : ∀ T, shutdown = some T → start + d ≤ T)
      (goes : probed site policy shutdown cluster endpoint earlier target (start + d) = result) :
      TryGoes shutdown endpoint earlier start result

end

variable {site : Site} {policy : Policy} {cluster : String} {T : Moment}
  {endpoint : Endpoint} {earlier : List String} {start : Moment} {shutdown : Option Moment}

theorem fetched_of_le {d : Nat} (hd : (site.fetch endpoint).takes = some d)
    (hin : ∀ T, shutdown = some T → start + d ≤ T) :
    fetched site shutdown endpoint start =
      some (.ok ((site.fetch endpoint).kubeconfig, start + d)) := by
  cases shutdown with
  | none => simp [fetched, hd]
  | some T =>
    have hle : ¬ T < start + d := Nat.not_lt.mpr (hin T rfl)
    simp [fetched, hd, hle]

theorem fetched_of_lt (hlate : ∀ d, (site.fetch endpoint).takes = some d → T < start + d) :
    fetched site (some T) endpoint start = some (.error T) := by
  cases hd : (site.fetch endpoint).takes with
  | none => simp [fetched, hd]
  | some d => simp [fetched, hd, hlate d hd]

theorem tryEndpoint_of_none {d : Nat} (hd : (site.fetch endpoint).takes = some d)
    (ht : site.target? endpoint = none) (hin : ∀ T, shutdown = some T → start + d ≤ T) :
    tryEndpoint site policy shutdown cluster endpoint earlier start =
      some { verdict := .fails, ended := start + d } := by
  rw [Site.target?] at ht
  simp only [tryEndpoint, fetched_of_le hd hin, ht]

theorem tryEndpoint_of_some {d : Nat} {target : Target}
    (hd : (site.fetch endpoint).takes = some d) (ht : site.target? endpoint = some target)
    (hin : ∀ T, shutdown = some T → start + d ≤ T) :
    tryEndpoint site policy shutdown cluster endpoint earlier start =
      probed site policy shutdown cluster endpoint earlier target (start + d) := by
  rw [Site.target?] at ht
  simp only [tryEndpoint, fetched_of_le hd hin, ht]

theorem tryEndpoint_goes {result : Option Try}
    (h : tryEndpoint site policy shutdown cluster endpoint earlier start = result) :
    TryGoes site policy cluster shutdown endpoint earlier start result := by
  subst h
  by_cases hin : ∃ d, (site.fetch endpoint).takes = some d ∧ ∀ T, shutdown = some T → start + d ≤ T
  · obtain ⟨d, hd, hin⟩ := hin
    cases ht : site.target? endpoint with
    | none =>
      rw [tryEndpoint_of_none hd ht hin]
      exact .bare hd ht hin
    | some target => exact .probed hd ht hin (tryEndpoint_of_some hd ht hin).symm
  · cases hshut : shutdown with
    | none =>
      have hd : (site.fetch endpoint).takes = none := by
        refine Option.eq_none_iff_forall_ne_some.mpr fun d hd => hin ⟨d, hd, ?_⟩
        intro T hT
        rw [hshut] at hT
        cases hT
      have hstalled : tryEndpoint site policy none cluster endpoint earlier start = none := by
        simp [tryEndpoint, fetched, hd]
      rw [hstalled]
      exact .stalled hd rfl
    | some T =>
      have hlate (d : Nat) (hd : (site.fetch endpoint).takes = some d) : T < start + d := by
        refine Nat.lt_of_not_le fun hle => hin ⟨d, hd, ?_⟩
        intro T' hT'
        rw [hshut] at hT'
        cases hT'
        exact hle
      have hcut : tryEndpoint site policy (some T) cluster endpoint earlier start =
          some { verdict := .cutShort, ended := T } := by
        simp only [tryEndpoint, fetched_of_lt hlate]
      rw [hcut]
      exact .cut rfl hlate

/-- A try that comes to the probes of a server goes as their run. -/
theorem probed_eq_some {target : Target} {start : Moment} {t : Try}
    (h : probed site policy shutdown cluster endpoint earlier target start = some t) :
    ∃ r, policy.run (site.probe earlier target.server) start shutdown = some r ∧
      t.probes = r.calls.map (fun (_, m) => (m, target.server)) ∧ t.ended = r.ended ∧
        (t.verdict = .cutShort → r.outcome = .error .cancelled) := by
  unfold probed at h
  split at h
  · cases h
  · next r hr =>
    cases h
    refine ⟨r, hr, rfl, rfl, ?_⟩
    intro hverdict
    cases ho : r.outcome with
    | ok n => cases hb : target.buildable <;> simp [ho, hb] at hverdict
    | error why => cases why <;> simp [ho] at hverdict ⊢

/-- No try is over before it begins. -/
theorem start_le_ended_try {t : Try} (hstart : ∀ T, shutdown = some T → start ≤ T)
    (h : tryEndpoint site policy shutdown cluster endpoint earlier start = some t) :
    start ≤ t.ended := by
  cases tryEndpoint_goes h with
  | cut fires late => exact hstart _ fires
  | bare fetched settings inTime => exact Nat.le_add_right start _
  | probed fetched settings inTime goes =>
    obtain ⟨r, hr, -, hended, -⟩ := probed_eq_some goes
    rw [hended]
    exact Nat.le_trans (Nat.le_add_right start _) (Policy.account hr).start_le_ended

/-- The calls of a try are those that come before the shutdown. -/
theorem getElem?_calls_try {t : Try} (hstart : ∀ T, shutdown = some T → start < T)
    (h : tryEndpoint site policy shutdown cluster endpoint earlier start = some t) (i : Nat)
    (x : Moment × Call) :
    (t.calls endpoint start)[i]? = some x ↔
      Asks site policy endpoint earlier start i x ∧ ∀ T, shutdown = some T → x.1 < T := by
  have first : (t.calls endpoint start)[0]? = some x ↔
      Asks site policy endpoint earlier start 0 x ∧ ∀ T, shutdown = some T → x.1 < T := by
    simp only [Try.calls, List.getElem?_cons_zero, Option.some.injEq]
    constructor
    · rintro rfl
      exact ⟨.fetch, hstart⟩
    · rintro ⟨hasks, -⟩
      cases hasks
      rfl
  cases i with
  | zero => exact first
  | succ k =>
    simp only [Try.calls, List.getElem?_cons_succ, List.getElem?_map, Option.map_eq_some_iff,
      Prod.exists]
    cases tryEndpoint_goes h with
    | cut fires late =>
      constructor
      · rintro ⟨m, server, hprobe, -⟩
        cases hprobe
      · rintro ⟨hasks, hbefore⟩
        cases hasks with
        | probe settings fetched begun =>
          have hlt := hbefore _ fires
          have hle := Retry.Policy.start_le_due begun.due
          exact absurd (Nat.lt_of_le_of_lt hle hlt) (Nat.not_lt.mpr (Nat.le_of_lt (late _ fetched)))
    | bare fetched settings inTime =>
      constructor
      · rintro ⟨m, server, hprobe, -⟩
        cases hprobe
      · rintro ⟨hasks, -⟩
        cases hasks with
        | probe settings' _ _ =>
          rw [settings] at settings'
          cases settings'
    | probed fetched settings inTime goes =>
      obtain ⟨r, hr, hprobes, -, -⟩ := probed_eq_some goes
      simp only [hprobes, List.getElem?_map, Option.map_eq_some_iff, Prod.exists, Prod.mk.injEq]
      constructor
      · rintro ⟨m, server, ⟨j, s, hcall, rfl, rfl⟩, rfl⟩
        obtain ⟨-, hbegun, hbefore⟩ := (Policy.getElem?_calls_run hr).mp hcall
        exact ⟨.probe settings fetched hbegun, hbefore⟩
      · rintro ⟨hasks, hbefore⟩
        cases hasks with
        | probe settings' fetched' begun =>
          rw [settings] at settings'
          cases settings'
          rw [fetched] at fetched'
          cases fetched'
          exact ⟨_, _, ⟨k, _, (Policy.getElem?_calls_run hr).mpr ⟨rfl, begun, hbefore⟩, rfl, rfl⟩,
            rfl⟩

/-! ## With a shutdown and without -/

variable (site policy cluster T endpoint earlier start) in
/-- A try is cut short, or it goes as without the shutdown. -/
theorem tryEndpoint_shutdown : (∃ t,
    tryEndpoint site policy (some T) cluster endpoint earlier start = some t ∧
      t.verdict = .cutShort) ∨
    tryEndpoint site policy (some T) cluster endpoint earlier start =
      tryEndpoint site policy none cluster endpoint earlier start := by
  generalize h : tryEndpoint site policy (some T) cluster endpoint earlier start = result
  cases tryEndpoint_goes h with
  | stalled never free => cases free
  | cut fires late => exact Or.inl ⟨_, rfl, rfl⟩
  | bare fetched settings inTime =>
    exact Or.inr (tryEndpoint_of_none fetched settings (by rintro _ ⟨⟩)).symm
  | @probed d target _ fetched settings inTime goes =>
    rw [tryEndpoint_of_some fetched settings (by rintro _ ⟨⟩)]
    rcases policy.run_shutdown (site.probe earlier target.server) (start + d) T with
      ⟨r, hr, hcancelled⟩ | hsame
    · left
      simp only [probed, hr, hcancelled] at goes
      exact ⟨_, goes.symm, rfl⟩
    · right
      rw [← goes]
      simp only [probed, hsame]

theorem tryEndpoint_of_ne_cutShort {t : Try}
    (h : tryEndpoint site policy (some T) cluster endpoint earlier start = some t)
    (hother : t.verdict ≠ .cutShort) :
    tryEndpoint site policy (some T) cluster endpoint earlier start =
      tryEndpoint site policy none cluster endpoint earlier start := by
  rcases tryEndpoint_shutdown site policy cluster T endpoint earlier start with
    ⟨t', ht', hcut⟩ | hsame
  · rw [h] at ht'
    cases ht'
    exact absurd hcut hother
  · exact hsame

/-- A try that is cut short is over with the shutdown, and without it is not over before. -/
theorem ended_of_cutShort {t : Try}
    (h : tryEndpoint site policy (some T) cluster endpoint earlier start = some t)
    (hcut : t.verdict = .cutShort) : t.ended = T ∧ ∀ t₀,
      tryEndpoint site policy none cluster endpoint earlier start = some t₀ → T ≤ t₀.ended := by
  cases tryEndpoint_goes h with
  | cut fires late =>
    cases fires
    refine ⟨rfl, ?_⟩
    intro t₀ h₀
    cases tryEndpoint_goes h₀ with
    | cut fires' late' => cases fires'
    | bare fetched settings inTime => exact Nat.le_of_lt (late _ fetched)
    | probed fetched settings inTime goes =>
      obtain ⟨r, hr, -, hended, -⟩ := probed_eq_some goes
      rw [hended]
      exact Nat.le_trans (Nat.le_of_lt (late _ fetched)) (Policy.account hr).start_le_ended
  | bare fetched settings inTime => cases hcut
  | probed fetched settings inTime goes =>
    obtain ⟨r, hr, -, hended, hcancelled⟩ := probed_eq_some goes
    constructor
    · rw [hended, ((Policy.account hr).ended_of_cancelled (hcancelled hcut)).1]
      exact Nat.max_eq_left (inTime T rfl)
    · intro t₀ h₀
      rw [tryEndpoint_of_some fetched settings (by rintro _ ⟨⟩)] at h₀
      obtain ⟨r₀, hr₀, -, hended₀, -⟩ := probed_eq_some h₀
      rw [hended₀]
      exact Policy.le_ended_of_cancelled hr (hcancelled hcut) hr₀

theorem ended_le_shutdown_try {t : Try}
    (h : tryEndpoint site policy (some T) cluster endpoint earlier start = some t) :
    t.ended ≤ T := by
  cases tryEndpoint_goes h with
  | cut fires late =>
    cases fires
    exact Nat.le_refl T
  | bare fetched settings inTime => exact inTime T rfl
  | probed fetched settings inTime goes =>
    obtain ⟨r, hr, -, hended, -⟩ := probed_eq_some goes
    rw [hended]
    exact (Policy.account hr).ended_le_shutdown (inTime T rfl)

/-- A try whose probes can be counted comes to an end. -/
theorem Counted.exists_try (h : Counted site policy T endpoint earlier start) (cluster : String) :
    ∃ t, tryEndpoint site policy (some T) cluster endpoint earlier start = some t := by
  generalize hresult : tryEndpoint site policy (some T) cluster endpoint earlier start = result
  cases tryEndpoint_goes hresult with
  | stalled never free => cases free
  | cut fires late => exact ⟨_, rfl⟩
  | bare fetched settings inTime => exact ⟨_, rfl⟩
  | @probed d target _ fetched settings inTime goes =>
    obtain ⟨t, why, hfirst, -⟩ := Retry.Limits.exists_first_of_shutdown
      (l := policy.limits (start + d) (some T)) (u := T) rfl
    have hfew : ∃ n < attemptBound, ∀ m,
        policy.due (site.probe earlier target.server) (start + d) n = some m →
          ¬ (policy.limits (start + d) (some T)).Opens m := by
      rcases Nat.lt_or_eq_of_le (inTime T rfl) with hlt | heq
      · obtain ⟨n, hn, hdue⟩ := h target d settings fetched hlt
        refine ⟨n, hn, ?_⟩
        intro m hm hopens
        rw [Policy.opens_limits] at hopens
        rcases hdue m hm with hle | ⟨limit, hlimit, hlate⟩
        · exact Nat.not_lt.mpr hle (hopens.1 T rfl)
        · exact Nat.not_lt.mpr (hopens.2 limit hlimit) hlate
      · refine ⟨0, by decide, ?_⟩
        intro m hm hopens
        cases hm
        exact Nat.lt_irrefl _ (heq ▸ hopens.shutdown T rfl)
    obtain ⟨r, hr⟩ := Policy.run_isSome hfew (Or.inl (by rw [hfirst]; exact nofun))
    simp only [probed, hr] at goes
    exact ⟨_, goes.symm⟩

end Flotilla.Bootstrap
