import Flotilla.Proofs.Retry.Timing

/-!
# A run and its shutdown

A run with a shutdown is compared with the run of the same policy and checks that
has none.  They are the same run unless the shutdown cuts the first one short
(`run_shutdown`), and then the other is not over before (`run_of_ended_lt`).  The
attempts that are begun are those that the other begins before the shutdown
(`getElem?_calls_run`).
-/

namespace Flotilla.Retry

open Time (Moment)

variable {p : Policy} {checks : Checks} {start T : Moment}

/-! ## The limits -/

namespace Policy

/-- The first limit is the shutdown, or the one there is without it. -/
theorem first_limits_shutdown (p : Policy) (start T : Moment) :
    ((p.limits start (some T)).first = some (T, .cancelled) ∧
        ∀ t why, (p.limits start none).first = some (t, why) → T ≤ t) ∨
      ((p.limits start (some T)).first = (p.limits start none).first ∧
        ∃ t why, (p.limits start none).first = some (t, why) ∧ t < T) := by
  cases hlimit : p.timeout with
  | none =>
    left
    constructor
    · simp [limits, hlimit, Limits.first]
    · intro t why hfirst
      simp [limits, hlimit, Limits.first] at hfirst
  | some limit =>
    by_cases hle : T ≤ start + limit.toNanos
    · left
      constructor
      · simp [limits, hlimit, Limits.first, hle]
      · intro t why hfirst
        simp only [limits, hlimit, Limits.first, Option.map_some, Option.some.injEq,
          Prod.mk.injEq] at hfirst
        rw [← hfirst.1]
        exact hle
    · right
      constructor
      · simp [limits, hlimit, Limits.first, hle]
      · refine ⟨start + limit.toNanos, .timedOut limit, ?_, Nat.lt_of_not_le hle⟩
        simp [limits, hlimit, Limits.first]

/-- The shutdown cuts something short, or it goes as without it. -/
theorem cut_limits_shutdown (p : Policy) (start T : Moment) (finish : Option Moment)
    (prompt : Bool) :
    (p.limits start (some T)).cut finish prompt = some (T, .cancelled) ∨
      (p.limits start (some T)).cut finish prompt = (p.limits start none).cut finish prompt := by
  rcases p.first_limits_shutdown start T with ⟨hfirst, hlater⟩ | ⟨hsame, -⟩
  · cases finish with
    | none =>
      left
      rw [Limits.cut_none_finish, hfirst]
    | some finish =>
      by_cases hcut : T < finish ∨ (T = finish ∧ prompt = false)
      · left
        simp [Limits.cut, hfirst, hcut]
      · right
        have hheard : (p.limits start none).Hears finish prompt := by
          rw [Limits.hears_iff]
          intro t why hnone
          have hle := hlater t why hnone
          cases prompt with
          | true =>
            simp only [and_true, ← Nat.le_iff_lt_or_eq]
            exact Nat.le_trans (Nat.le_of_not_lt fun hlt => hcut (Or.inl hlt)) hle
          | false =>
            left
            simp only [and_true, ← Nat.le_iff_lt_or_eq, Nat.not_le] at hcut
            exact Nat.lt_of_lt_of_le hcut hle
        have hmine : (p.limits start (some T)).cut (some finish) prompt = none := by
          simp [Limits.cut, hfirst, hcut]
        rw [hmine]
        exact hheard.symm
  · right
    simp only [Limits.cut, hsame]

/-- What comes before the shutdown is heard as without it. -/
theorem hears_limits_shutdown {e : Moment} (he : e < T) (prompt : Bool) :
    (p.limits start (some T)).Hears e prompt ↔ (p.limits start none).Hears e prompt := by
  rcases p.first_limits_shutdown start T with ⟨hfirst, hlater⟩ | ⟨hsame, -⟩
  · rw [Limits.hears_iff, Limits.hears_iff]
    constructor
    · intro _ t why hnone
      exact Or.inl (Nat.lt_of_lt_of_le he (hlater t why hnone))
    · intro _ t why ht
      rw [hfirst] at ht
      cases ht
      exact Or.inl he
  · rw [Limits.hears_iff, Limits.hears_iff, hsame]

theorem opens_limits_shutdown {s : Moment} :
    (p.limits start (some T)).Opens s ↔ (p.limits start none).Opens s ∧ s < T := by
  rw [opens_limits, opens_limits]
  constructor
  · rintro ⟨hshut, hdead⟩
    exact ⟨⟨nofun, hdead⟩, hshut T rfl⟩
  · rintro ⟨⟨-, hdead⟩, hlt⟩
    refine ⟨?_, hdead⟩
    intro t ht
    cases ht
    exact hlt

/-- The attempts that are begun are those that are begun without the shutdown and before it. -/
theorem begun_limits_shutdown {k : Nat} {s : Moment} :
    p.Begun checks start (p.limits start (some T)) k s ↔
      p.Begun checks start (p.limits start none) k s ∧ s < T := by
  -- the answers that an attempt waits for come before it does, and so before the shutdown
  have before (hdue : p.due checks start k = some s) (hlt : s < T) {i : Nat} (hi : i < k)
      {e : Moment} (he : p.answered checks start i = some e) : e < T := by
    obtain ⟨-, e', he', hle⟩ := due_before hdue hi
    rw [he] at he'
    cases he'
    exact Nat.lt_of_le_of_lt hle hlt
  constructor
  · intro h
    obtain ⟨hopens, hlt⟩ := opens_limits_shutdown.mp h.opens
    refine ⟨⟨h.due, hopens, ?_⟩, hlt⟩
    intro i hi e he
    exact (hears_limits_shutdown (before h.due hlt hi he) _).mp (h.heard i hi e he)
  · rintro ⟨h, hlt⟩
    refine ⟨h.due, opens_limits_shutdown.mpr ⟨h.opens, hlt⟩, ?_⟩
    intro i hi e he
    exact (hears_limits_shutdown (before h.due hlt hi he) _).mpr (h.heard i hi e he)

/-! ## The runs -/

/-- A run from an attempt on is cut short by the shutdown, or it goes as without it. -/
theorem runFrom_shutdown (fuel k : Nat) (now : Moment) :
    (∃ r, p.runFrom checks (p.limits start (some T)) fuel k now = some r ∧
        r.outcome = .error .cancelled) ∨
      p.runFrom checks (p.limits start (some T)) fuel k now =
        p.runFrom checks (p.limits start none) fuel k now := by
  induction fuel generalizing k now with
  | zero => exact Or.inr rfl
  | succ fuel ih =>
    have hfree : (p.limits start none).shut now = false := rfl
    simp only [runFrom, hfree, Bool.false_eq_true, if_false]
    split
    · exact Or.inl ⟨_, rfl, rfl⟩
    rcases p.cut_limits_shutdown start T ((checks k).takes.map (now + ·)) (checks k).prompt
      with hcut | hsame
    · rw [hcut]
      exact Or.inl ⟨_, rfl, rfl⟩
    rw [hsame]
    split
    · exact Or.inr rfl
    split
    · exact Or.inr rfl
    next finish _ =>
    split
    · exact Or.inr rfl
    split
    · exact Or.inr rfl
    rcases p.cut_limits_shutdown start T (some (finish + (p.schedule.delayAfter k).toNanos)) true
      with hcut | hsame
    · rw [hcut]
      exact Or.inl ⟨_, rfl, rfl⟩
    rw [hsame]
    split
    · exact Or.inr rfl
    · rcases ih (k + 1) (finish + (p.schedule.delayAfter k).toNanos) with ⟨r, hr, hcancelled⟩ | hsame
      · exact Or.inl ⟨r.after (k, now), by rw [hr, Option.map_some], hcancelled⟩
      · exact Or.inr (by rw [hsame])

theorem run_shutdown (p : Policy) (checks : Checks) (start T : Moment) :
    (∃ r, p.run checks start (some T) = some r ∧ r.outcome = .error .cancelled) ∨
      p.run checks start (some T) = p.run checks start none :=
  runFrom_shutdown attemptBound 0 start

/-- A run that is cut short is over at the shutdown. -/
theorem Account.ended_of_cancelled {r : Run}
    (h : p.Account checks start (p.limits start (some T)) 0 r)
    (hcancelled : r.outcome = .error .cancelled) :
    r.ended = max T start ∧ (p.limits start (some T)).first = some (T, .cancelled) ∧
      ∀ k o e, ¬ p.Closes checks start (p.limits start (some T)) k o e := by
  cases h.fate with
  | closed k hc =>
    rw [hcancelled] at hc
    exact absurd hc.verdict verdict_ne_cancelled
  | cut t why hfirst never outcome ended =>
    rw [hcancelled] at outcome
    cases outcome
    rcases Limits.first_cases hfirst with ⟨ht, -, -⟩ | ⟨limit, -, hwhy, -⟩
    · cases ht
      exact ⟨ended, hfirst, never⟩
    · cases hwhy

/-- Every run is over by the shutdown. -/
theorem Account.ended_le_shutdown {r : Run}
    (h : p.Account checks start (p.limits start (some T)) 0 r) (hstart : start ≤ T) :
    r.ended ≤ T := by
  obtain ⟨t, why, hfirst, hle⟩ := Limits.exists_first_of_shutdown
    (l := p.limits start (some T)) (u := T) rfl
  cases h.fate with
  | closed k hc =>
    rcases Limits.hears_iff.mp hc.heard t why hfirst with hlt | ⟨heq, -⟩
    · exact Nat.le_trans (Nat.le_of_lt hlt) hle
    · exact Nat.le_trans (Nat.le_of_eq heq) hle
  | cut u why' hfirst' never outcome ended =>
    rw [hfirst] at hfirst'
    cases hfirst'
    rw [ended]
    exact Nat.max_le.mpr ⟨hle, hstart⟩

/-- No run is over before it begins. -/
theorem Account.start_le_ended {limits : Limits} {r : Run}
    (h : p.Account checks start limits 0 r) : start ≤ r.ended := by
  cases h.fate with
  | closed k hc =>
    obtain ⟨s, d, hdue, -, hended⟩ := answered_eq_some.mp hc.answered
    rw [hended]
    exact Nat.le_trans (start_le_due hdue) (Nat.le_add_right s d)
  | cut t why hfirst never outcome ended =>
    rw [ended]
    exact Nat.le_max_right t start

/-- If a run is cut short the one without the shutdown is not over before. -/
theorem le_ended_of_cancelled {r r₀ : Run} (hr : p.run checks start (some T) = some r)
    (hcancelled : r.outcome = .error .cancelled) (h₀ : p.run checks start none = some r₀) :
    T ≤ r₀.ended := by
  obtain ⟨-, hfirst, hnever⟩ := (account hr).ended_of_cancelled hcancelled
  refine Nat.le_of_not_lt fun hlt => ?_
  cases (account h₀).fate with
  | closed k hc =>
    -- what closes that run is heard before the shutdown, so it closes this one too
    obtain ⟨s, hb⟩ := hc.begun
    have hs : s < T := by
      obtain ⟨s', d, hdue, -, hended⟩ := answered_eq_some.mp hc.answered
      rw [hb.due] at hdue
      cases hdue
      exact Nat.lt_of_le_of_lt (by rw [hended]; exact Nat.le_add_right s d) hlt
    exact hnever k _ _ ⟨⟨s, begun_limits_shutdown.mpr ⟨hb, hs⟩⟩, hc.verdict, hc.answered,
      (hears_limits_shutdown hlt _).mpr hc.heard⟩
  | cut t why hnone never outcome ended =>
    rcases p.first_limits_shutdown start T with ⟨-, hlater⟩ | ⟨hsame, t', why', hnone', hlt'⟩
    · have hle := hlater t why hnone
      rw [ended] at hlt
      exact absurd (Nat.le_trans hle (Nat.le_max_left t start)) (Nat.not_le.mpr hlt)
    · rw [hsame, hnone'] at hfirst
      cases hfirst
      exact Nat.lt_irrefl _ hlt'

/-- A run that is over before the shutdown is not touched by it. -/
theorem run_of_ended_lt {shutdown : Option Moment} {r : Run} (h : p.run checks start none = some r)
    (hlt : ∀ T, shutdown = some T → r.ended < T) : p.run checks start shutdown = some r := by
  cases shutdown with
  | none => exact h
  | some T =>
    rcases p.run_shutdown checks start T with ⟨r', hr', hcancelled⟩ | hsame
    · have hle := le_ended_of_cancelled hr' hcancelled h
      exact absurd (hlt T rfl) (Nat.not_lt.mpr hle)
    · rw [hsame, h]

/-- The attempts of any run, by those that are begun without a shutdown. -/
theorem getElem?_calls_run {shutdown : Option Moment} {r : Run}
    (h : p.run checks start shutdown = some r) {k j : Nat} {s : Moment} :
    r.calls[k]? = some (j, s) ↔ j = k ∧ p.Begun checks start (p.limits start none) k s ∧
      ∀ T, shutdown = some T → s < T := by
  rw [(account h).getElem?_calls]
  cases shutdown with
  | none => simp
  | some T => simp [begun_limits_shutdown]

end Policy

end Flotilla.Retry
