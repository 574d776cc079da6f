import Flotilla.Proofs.Retry.Account

/-!
# When a run ends

A run is over when the first of three things comes: the shutdown, the end of the
undisturbed run, and the deadline.  Where the undisturbed end and the deadline fall
together the run ends with its own outcome.  Until then it has begun just the
attempts that were due.

`run_timed` says so of every policy and of every sequence of answers, also of those
with an answer that never comes.
-/

namespace Flotilla.Retry

open Time (Moment)

namespace Policy

section

variable (p : Policy) (checks : Checks) (start : Moment) (shutdown : Option Moment)

/-- What is asked of a run: the shutdown falls together with nothing else, and so few attempts fall
due that they can be counted. -/
structure Regular : Prop where
  /-- An answer that falls due with the deadline or the shutdown comes in that moment. -/
  prompt : ∀ k e, p.answered checks start k = some e →
    (shutdown = some e ∨ ∃ limit, p.timeout = some limit ∧ e = start + limit.toNanos) →
      (checks k).prompt = true
  /-- A shutdown after the start meets neither an attempt that falls due nor the deadline. -/
  apart : ∀ t, shutdown = some t → start < t → (∀ k, p.due checks start k ≠ some t) ∧
    ∀ limit, p.timeout = some limit → t ≠ start + limit.toNanos
  /-- Some attempt does not fall due, or not before the shutdown and by the deadline. -/
  few : ∃ n < attemptBound, ∀ s, p.due checks start n = some s →
    (∃ t, shutdown = some t ∧ t ≤ s) ∨ ∃ limit, p.timeout = some limit ∧ start + limit.toNanos < s
  /-- An answer may only be missing where there is a shutdown or a deadline. -/
  answered : ∀ k s, p.due checks start k = some s → (checks k).takes = none →
    shutdown ≠ none ∨ p.timeout ≠ none

/-- The shutdown comes before the start, or before the undisturbed end and the deadline. -/
def ShutFirst (t : Moment) : Prop :=
  t ≤ start ∨ ((∀ o e, p.Ends checks start o e → t < e) ∧
    ∀ limit, p.timeout = some limit → t < start + limit.toNanos)

/-- When and how a run ends, and which attempts it begins. -/
structure Timed (r : Run) : Prop where
  /-- If the shutdown comes first the run ends with it. -/
  shut : ∀ t, shutdown = some t → p.ShutFirst checks start t →
    r.outcome = .error .cancelled ∧ r.ended = max start t ∧ (t ≤ start → r.calls = [])
  /-- Otherwise it ends as the undisturbed run does by the deadline. -/
  finished : (∀ t, shutdown = some t → ¬ p.ShutFirst checks start t) →
    ∀ o e, p.Ends checks start o e →
      (∀ limit, p.timeout = some limit → e ≤ start + limit.toNanos) → r.outcome = o ∧ r.ended = e
  /-- And otherwise it ends at the deadline. -/
  expired : (∀ t, shutdown = some t → ¬ p.ShutFirst checks start t) →
    ∀ limit, p.timeout = some limit →
      (∀ o e, p.Ends checks start o e → start + limit.toNanos < e) →
        r.outcome = .error (.timedOut limit) ∧ r.ended = start + limit.toNanos
  /-- The attempts are begun in order, and none is left out. -/
  numbered : r.calls.map (·.1) = List.range r.calls.length
  /-- Those are begun that fall due by the end. -/
  calls : (∀ t, shutdown = some t → start < t) →
    ∀ k s, (k, s) ∈ r.calls ↔ p.due checks start k = some s ∧ s ≤ r.ended

end

variable {p : Policy} {checks : Checks} {start : Moment} {shutdown : Option Moment}

/-! ## The limits of a run -/

@[simp] theorem shutdown_limits : (p.limits start shutdown).shutdown = shutdown := rfl

theorem deadline_limits {d : Moment} {limit : Time.Span} :
    (p.limits start shutdown).deadline = some (d, limit) ↔
      p.timeout = some limit ∧ d = start + limit.toNanos := by
  simp only [limits, Option.map_eq_some_iff, Prod.mk.injEq]
  constructor
  · rintro ⟨_, ht, rfl, rfl⟩
    exact ⟨ht, rfl⟩
  · rintro ⟨ht, rfl⟩
    exact ⟨limit, ht, rfl, rfl⟩

theorem opens_limits {s : Moment} :
    (p.limits start shutdown).Opens s ↔ (∀ t, shutdown = some t → s < t) ∧
      ∀ limit, p.timeout = some limit → s ≤ start + limit.toNanos := by
  constructor
  · intro h
    exact ⟨h.shutdown, fun limit hl => h.deadline _ limit (deadline_limits.mpr ⟨hl, rfl⟩)⟩
  · rintro ⟨hs, hd⟩
    refine ⟨hs, fun d limit hl => ?_⟩
    obtain ⟨hl', rfl⟩ := deadline_limits.mp hl
    exact hd limit hl'

/-! ## The run -/

theorem Regular.run_isSome (h : p.Regular checks start shutdown) :
    ∃ r, p.run checks start shutdown = some r := by
  obtain ⟨n, hn, hfew⟩ := h.few
  refine Policy.run_isSome ⟨n, hn, fun s hs ho => ?_⟩ ?_
  · obtain ⟨hshut, hdead⟩ := opens_limits.mp ho
    rcases hfew s hs with ⟨t, ht, hle⟩ | ⟨limit, hl, hlt⟩
    · exact Nat.lt_irrefl _ (Nat.lt_of_lt_of_le (hshut t ht) hle)
    · exact Nat.lt_irrefl _ (Nat.lt_of_lt_of_le hlt (hdead limit hl))
  · cases hshut : shutdown with
    | some t =>
      obtain ⟨u, why, hf, -⟩ := Limits.exists_first_of_shutdown
        (l := p.limits start (some t)) rfl
      exact Or.inl (by simp [hf])
    | none =>
      cases hdead : p.timeout with
      | some limit =>
        obtain ⟨u, why, hf, -⟩ := Limits.exists_first_of_deadline
          (l := p.limits start none) (deadline_limits.mpr ⟨hdead, rfl⟩)
        exact Or.inl (by simp [hf])
      | none =>
        refine Or.inr (ends_of_due_eq_none (n := n) ?_ fun k s hs hn => ?_)
        · refine Option.eq_none_iff_forall_ne_some.mpr fun s hs => ?_
          rcases hfew s hs with ⟨t, ht, -⟩ | ⟨limit, hl, -⟩
          · rw [hshut] at ht
            cases ht
          · rw [hdead] at hl
            cases hl
        · rcases h.answered k s hs hn with hn | hn
          · exact hn hshut
          · exact hn hdead

/-- The answers of a regular run are heard as prompt ones are. -/
theorem Regular.hears_iff (h : p.Regular checks start shutdown) {k : Nat} {e : Moment}
    (he : p.answered checks start k = some e) :
    (p.limits start shutdown).Hears e (checks k).prompt ↔
      (p.limits start shutdown).Hears e true := by
  rw [Limits.hears_iff, Limits.hears_iff]
  refine forall_congr' fun t => forall_congr' fun why => imp_congr_right fun hf => ?_
  refine or_congr_right (and_congr_right fun het => iff_of_true (h.prompt k e he ?_) rfl)
  subst het
  rcases Limits.first_cases hf with ⟨hs, -, -⟩ | ⟨limit, hd, -, -⟩
  · exact Or.inl hs
  · exact Or.inr ⟨limit, deadline_limits.mp hd⟩

/-- In a regular run an attempt is begun when it is due and the limits let it begin. -/
theorem Regular.begun_iff (h : p.Regular checks start shutdown) {k : Nat} {s : Moment} :
    p.Begun checks start (p.limits start shutdown) k s ↔
      p.due checks start k = some s ∧ (p.limits start shutdown).Opens s := by
  constructor
  · exact fun hb => ⟨hb.due, hb.opens⟩
  · rintro ⟨hs, ho⟩
    refine ⟨hs, ho, fun i hi e he => (h.hears_iff he).mpr ?_⟩
    obtain ⟨-, e', he', hle⟩ := due_before hs hi
    obtain rfl : e = e' := Option.some.inj (he.symm.trans he')
    exact (Limits.opens_iff.mp (ho.of_le hle)).2

theorem Closes.ends {limits : Limits} {k : Nat} {o : Except RetryFailure Nat} {e : Moment}
    (h : p.Closes checks start limits k o e) : p.Ends checks start o e :=
  ⟨k, h.verdict, h.answered⟩

/-- Where the shutdown does not come first, the undisturbed end comes before it or with it. -/
theorem Ends.le_shutdown {o : Except RetryFailure Nat} {e t : Moment}
    (he : p.Ends checks start o e) (hd : ∀ limit, p.timeout = some limit → e ≤ start + limit.toNanos)
    (ht : ¬ p.ShutFirst checks start t) : e ≤ t := by
  refine Nat.le_of_not_lt fun hlt => ht (Or.inr ⟨?_, ?_⟩)
  · intro o' e' he'
    rw [(he'.unique he).2]
    exact hlt
  · exact fun limit hl => Nat.lt_of_lt_of_le hlt (hd limit hl)

/-- The undisturbed end closes the run when it comes by the deadline and the shutdown does not come
first. -/
theorem Regular.closes (h : p.Regular checks start shutdown) {o : Except RetryFailure Nat}
    {e : Moment} (he : p.Ends checks start o e)
    (hd : ∀ limit, p.timeout = some limit → e ≤ start + limit.toNanos)
    (hs : ∀ t, shutdown = some t → ¬ p.ShutFirst checks start t) :
    ∃ k, p.Closes checks start (p.limits start shutdown) k o e := by
  obtain ⟨k, hv, hans⟩ := id he
  obtain ⟨s, d, hdue, -, rfl⟩ := answered_eq_some.mp hans
  have hopen : (p.limits start shutdown).Opens s := by
    rw [opens_limits]
    refine ⟨fun t ht => ?_, fun limit hl => Nat.le_trans (Nat.le_add_right s d) (hd limit hl)⟩
    have hle := he.le_shutdown hd (hs t ht)
    have hlt : start < t := Nat.lt_of_not_le fun hle => hs t ht (Or.inl hle)
    refine Nat.lt_of_le_of_ne (Nat.le_trans (Nat.le_add_right s d) hle) ?_
    rintro rfl
    exact (h.apart s ht hlt).1 k hdue
  refine ⟨k, ⟨s, h.begun_iff.mpr ⟨hdue, hopen⟩⟩, hv, hans, ?_⟩
  rw [h.hears_iff hans, Limits.hears_prompt]
  intro t why hf
  rcases Limits.first_cases hf with ⟨ht, -, -⟩ | ⟨limit, hl, -, -⟩
  · exact he.le_shutdown hd (hs t ht)
  · obtain ⟨hl', rfl⟩ := deadline_limits.mp hl
    exact hd limit hl'

/-- Where the shutdown does not come first, a limit that cuts a run short comes before the
undisturbed end. -/
theorem Regular.lt_end (h : p.Regular checks start shutdown) {t : Moment} {why : RetryFailure}
    (hf : (p.limits start shutdown).first = some (t, why))
    (never : ∀ k o e, ¬ p.Closes checks start (p.limits start shutdown) k o e)
    (hs : ∀ u, shutdown = some u → ¬ p.ShutFirst checks start u)
    {o : Except RetryFailure Nat} {e : Moment} (he : p.Ends checks start o e) : t < e := by
  refine Nat.lt_of_not_le fun hle => ?_
  have hdead (limit : Time.Span) (hl : p.timeout = some limit) : e ≤ start + limit.toNanos :=
    Nat.le_trans hle ((Limits.first_le hf).2 _ limit (deadline_limits.mpr ⟨hl, rfl⟩))
  obtain ⟨k, hc⟩ := h.closes he hdead hs
  exact never k o e hc

theorem Account.shut {r : Run} (ha : p.Account checks start (p.limits start shutdown) 0 r)
    {t : Moment} (ht : shutdown = some t) (hfirst : p.ShutFirst checks start t) :
    r.outcome = .error .cancelled ∧ r.ended = max start t ∧ (t ≤ start → r.calls = []) := by
  have hcalls : t ≤ start → r.calls = [] := by
    intro hle
    refine List.eq_nil_iff_forall_not_mem.mpr ?_
    rintro ⟨j, s⟩ hm
    obtain ⟨-, hb⟩ := (ha.calls j s).mp hm
    exact Nat.lt_irrefl _ (Nat.lt_of_lt_of_le (hb.opens.shutdown t ht)
      (Nat.le_trans hle (start_le_due hb.due)))
  cases ha.fate with
  | closed k hc =>
    -- then the undisturbed end is not after the shutdown
    obtain ⟨s, hb⟩ := hc.begun
    have hlt : start < t := Nat.lt_of_le_of_lt (start_le_due hb.due) (hb.opens.shutdown t ht)
    obtain ⟨u, why, hf, hle⟩ := Limits.exists_first_of_shutdown (l := p.limits start shutdown) ht
    have hend : r.ended ≤ u := by
      rcases Limits.hears_iff.mp hc.heard u why hf with hlt | ⟨he, -⟩
      · exact Nat.le_of_lt hlt
      · exact Nat.le_of_eq he
    rcases hfirst with hle' | ⟨hends, -⟩
    · exact absurd hlt (Nat.not_lt.mpr hle')
    · exact absurd (hends _ _ hc.ends) (Nat.not_lt.mpr (Nat.le_trans hend hle))
  | cut u why hf never outcome ended =>
    rcases Limits.first_cases hf with ⟨hu, rfl, -⟩ | ⟨limit, hl, -, hlt⟩
    · obtain rfl : u = t := Option.some.inj (hu.symm.trans ht)
      exact ⟨outcome, by rw [ended, Nat.max_comm], hcalls⟩
    · obtain ⟨hl', rfl⟩ := deadline_limits.mp hl
      have hut := hlt t ht
      rcases hfirst with hle | ⟨-, hdead⟩
      · exact absurd hut (Nat.not_lt.mpr (Nat.le_trans hle (Nat.le_add_right start _)))
      · exact absurd (hdead limit hl') (Nat.not_lt.mpr (Nat.le_of_lt hut))

theorem Regular.finished (h : p.Regular checks start shutdown) {r : Run}
    (ha : p.Account checks start (p.limits start shutdown) 0 r)
    (hs : ∀ t, shutdown = some t → ¬ p.ShutFirst checks start t)
    {o : Except RetryFailure Nat} {e : Moment} (he : p.Ends checks start o e)
    (hd : ∀ limit, p.timeout = some limit → e ≤ start + limit.toNanos) :
    r.outcome = o ∧ r.ended = e := by
  cases ha.fate with
  | closed k hc => exact hc.ends.unique he
  | cut t why hf never outcome ended =>
    obtain ⟨k, hc⟩ := h.closes he hd hs
    exact absurd hc (never k o e)

theorem Regular.expired (h : p.Regular checks start shutdown) {r : Run}
    (ha : p.Account checks start (p.limits start shutdown) 0 r)
    (hs : ∀ t, shutdown = some t → ¬ p.ShutFirst checks start t) {limit : Time.Span}
    (hl : p.timeout = some limit)
    (hend : ∀ o e, p.Ends checks start o e → start + limit.toNanos < e) :
    r.outcome = .error (.timedOut limit) ∧ r.ended = start + limit.toNanos := by
  obtain ⟨t, why, hf, hle⟩ := Limits.exists_first_of_deadline
    (l := p.limits start shutdown) (deadline_limits.mpr ⟨hl, rfl⟩)
  cases ha.fate with
  | closed k hc =>
    have hlt := hend _ _ hc.ends
    rcases Limits.hears_iff.mp hc.heard t why hf with hlt' | ⟨he, -⟩
    · exact absurd hlt (Nat.not_lt.mpr (Nat.le_trans (Nat.le_of_lt hlt') hle))
    · exact absurd hlt (Nat.not_lt.mpr (Nat.le_trans (Nat.le_of_eq he) hle))
  | cut u why' hf' never outcome ended =>
    rw [hf] at hf'
    cases hf'
    rcases Limits.first_cases hf with ⟨ht, rfl, -⟩ | ⟨limit', hl', rfl, -⟩
    · -- a shutdown by the deadline that is not first falls together with it
      have hlt : start < t := Nat.lt_of_not_le fun hle' => hs t ht (Or.inl hle')
      have hne := (h.apart t ht hlt).2 limit hl
      refine absurd (Or.inr ⟨fun o e he => h.lt_end hf never hs he, ?_⟩) (hs t ht)
      intro limit' hl'
      obtain rfl : limit = limit' := Option.some.inj (hl.symm.trans hl')
      exact Nat.lt_of_le_of_ne hle hne
    · obtain ⟨hl'', rfl⟩ := deadline_limits.mp hl'
      obtain rfl : limit = limit' := Option.some.inj (hl.symm.trans hl'')
      exact ⟨outcome, by rw [ended, Nat.max_eq_left (Nat.le_add_right _ _)]⟩

/-- The attempts that a run begins are those that fall due by its end. -/
theorem Regular.mem_calls (h : p.Regular checks start shutdown) {r : Run}
    (ha : p.Account checks start (p.limits start shutdown) 0 r)
    (hs : ∀ t, shutdown = some t → start < t) (k : Nat) (s : Moment) :
    (k, s) ∈ r.calls ↔ p.due checks start k = some s ∧ s ≤ r.ended := by
  constructor
  · exact fun hm => ⟨((ha.calls k s).mp hm).2.due, (ha.within hm).2⟩
  · rintro ⟨hdue, hle⟩
    -- no attempt falls due together with the shutdown
    have hne (t : Moment) (ht : shutdown = some t) : s ≠ t := by
      rintro rfl
      exact (h.apart s ht (hs s ht)).1 k hdue
    refine (ha.calls k s).mpr ⟨Nat.zero_le k, h.begun_iff.mpr ⟨hdue, ?_⟩⟩
    refine Limits.opens_iff_ne.mpr ⟨Limits.hears_prompt.mpr fun t why hf => ?_, hne⟩
    refine Nat.le_trans hle ?_
    cases ha.fate with
    | closed j hc =>
      have hheard := hc.heard
      rw [h.hears_iff hc.answered, Limits.hears_prompt] at hheard
      exact hheard t why hf
    | cut u why' hf' never outcome ended =>
      have hstart : start ≤ u := by
        rcases Limits.first_cases hf' with ⟨ht, -, -⟩ | ⟨limit, hl, -, -⟩
        · exact Nat.le_of_lt (hs u ht)
        · obtain ⟨-, rfl⟩ := deadline_limits.mp hl
          exact Nat.le_add_right _ _
      rw [hf] at hf'
      cases hf'
      exact Nat.le_of_eq (ended.trans (Nat.max_eq_left hstart))

/-- Every regular run ends, when and how its undisturbed run and its limits say. -/
theorem run_timed (p : Policy) (checks : Checks) (start : Moment) (shutdown : Option Moment)
    (h : p.Regular checks start shutdown) :
    ∃ r, p.run checks start shutdown = some r ∧ p.Timed checks start shutdown r := by
  obtain ⟨r, hr⟩ := h.run_isSome
  have ha := account hr
  exact ⟨r, hr, {
    shut := fun t ht hfirst => ha.shut ht hfirst
    finished := fun hs o e he hd => h.finished ha hs he hd
    expired := fun hs limit hl hend => h.expired ha hs hl hend
    numbered := by rw [ha.numbered, List.range_eq_range']
    calls := fun hs k s => h.mem_calls ha hs k s }⟩

/-- A policy with both bounds. -/
def trial : Policy :=
  { maxAttempts := some 5, schedule := .linear (.ofSecs 1), timeout := some (.ofSecs 4) }

/-- Checks that say no, the second of which takes a quarter of a second. -/
def trialChecks : Checks := fun k => { takes := some (if k = 1 then 250000000 else 0) }

theorem regular_trial : trial.Regular trialChecks 0 (some 1500000000) where
  prompt _ _ _ _ := rfl
  apart t ht _ := by
    obtain rfl : 1500000000 = t := Option.some.inj ht
    refine ⟨fun k hk => ?_, fun limit hl => ?_⟩
    · have hlast : trial.due trialChecks 0 5 = none := by decide +kernel
      have hfew : ∀ j < 5, trial.due trialChecks 0 j ≠ some 1500000000 := by decide +kernel
      by_cases hlt : k < 5
      · exact hfew k hlt hk
      · rw [due_eq_none_of_le (Nat.le_of_not_lt hlt) hlast] at hk
        cases hk
    · cases hl
      decide +kernel
  few := ⟨5, by decide, fun s hs => by
    have hlast : trial.due trialChecks 0 5 = none := by decide +kernel
    rw [hlast] at hs
    cases hs⟩
  answered _ _ _ _ := Or.inl nofun

/-- A shutdown in the wait after the third attempt. -/
theorem run_timed_trial :
    trial.Regular trialChecks 0 (some 1500000000) ∧
      ∃ r, trial.run trialChecks 0 (some 1500000000) = some r ∧
        trial.Timed trialChecks 0 (some 1500000000) r ∧ r.outcome = .error .cancelled ∧
          r.calls = [(0, 0), (1, 0), (2, 1250000000)] ∧ r.ended = 1500000000 := by
  obtain ⟨r, hr, ht⟩ := run_timed trial trialChecks 0 (some 1500000000) regular_trial
  have he : trial.run trialChecks 0 (some 1500000000) =
      some ⟨.error .cancelled, [(0, 0), (1, 0), (2, 1250000000)], 1500000000⟩ := by rfl
  rw [hr] at he
  cases he
  exact ⟨regular_trial, _, hr, ht, rfl, rfl, rfl⟩

end Policy

end Flotilla.Retry
