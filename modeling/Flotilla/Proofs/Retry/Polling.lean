import Flotilla.Proofs.Retry.Account

/-!
# Polling up to a deadline

A check is polled when it is made again and again with the same wait between two attempts, until
it says yes or the deadline comes.  When each answer comes at once the attempts are at equal
distances.  The attempt that falls due at the deadline is too late for a check that goes through a
queue.

* `run_polls_ok`: the check says yes before the deadline.
* `run_polls_timedOut`: it does not.
-/

namespace Flotilla.Retry

open Time (Moment Span)

/-- A policy that polls. -/
structure Policy.Polls (p : Policy) (interval limit : Span) : Prop where
  unbounded : p.maxAttempts = none
  schedule : p.schedule = .fixed interval
  timeout : p.timeout = some limit

/-- The first answers come at once and are no. -/
def Checks.Refuse (checks : Checks) (n : Nat) : Prop :=
  ∀ i < n, (checks i).ready = false ∧ (checks i).takes = some 0

namespace Policy

theorem readiness_polls : readiness.Polls (.ofSecs 1) (.ofSecs 30) where
  unbounded := by rw [readiness]
  schedule := by rw [readiness]
  timeout := by rw [readiness]

variable {p : Policy} {interval limit : Span} {checks : Checks} {start : Moment} {n k : Nat}

/-! ## The attempts -/

theorem Polls.verdict_of_no (hp : p.Polls interval limit) (hno : (checks k).ready = false) :
    p.verdict checks k = none := by
  rw [verdict_eq_none]
  exact ⟨hno, by simp [spent, hp.unbounded]⟩

theorem answered_at_once {s : Moment} (hdue : p.due checks start k = some s)
    (hnow : (checks k).takes = some 0) : p.answered checks start k = some s :=
  answered_eq_some.mpr ⟨s, 0, hdue, hnow, (Nat.add_zero s).symm⟩

/-- The attempts are at equal distances. -/
theorem Polls.due_eq (hp : p.Polls interval limit) (hno : checks.Refuse n) (hk : k ≤ n) :
    p.due checks start k = some (start + k * interval.toNanos) := by
  induction k with
  | zero => rw [Nat.zero_mul, Nat.add_zero, due]
  | succ k ih =>
    obtain ⟨hready, htakes⟩ := hno k hk
    have hanswered := answered_at_once (ih (Nat.le_of_succ_le hk)) htakes
    rw [due_succ_of_answered (hp.verdict_of_no hready) hanswered, hp.schedule]
    simp only [Schedule.delayAfter, Nat.add_mul, Nat.one_mul, Nat.add_assoc]

theorem Polls.first_limits (hp : p.Polls interval limit) :
    (p.limits start none).first = some (start + limit.toNanos, .timedOut limit) := by
  simp [limits, hp.timeout, Limits.first]

theorem Polls.hears (hp : p.Polls interval limit) {e : Moment} {prompt : Bool}
    (he : e < start + limit.toNanos) : (p.limits start none).Hears e prompt := by
  rw [Limits.hears_iff, hp.first_limits]
  intro t why h
  cases h
  exact Or.inl he

theorem Polls.opens_iff (hp : p.Polls interval limit) {s : Moment} :
    (p.limits start none).Opens s ↔ s ≤ start + limit.toNanos := by
  rw [Limits.opens_iff, Limits.hears_prompt, hp.first_limits]
  constructor
  · rintro ⟨-, h⟩
    exact h _ _ rfl
  · intro h
    refine ⟨rfl, ?_⟩
    intro t why ht
    cases ht
    exact h

/-- Before the deadline every attempt is begun. -/
theorem Polls.begun (hp : p.Polls interval limit) (hno : checks.Refuse n) (hk : k ≤ n)
    (hlt : k * interval.toNanos < limit.toNanos) :
    p.Begun checks start (p.limits start none) k (start + k * interval.toNanos) := by
  have hdue : p.due checks start k = some (start + k * interval.toNanos) := hp.due_eq hno hk
  have hle : start + k * interval.toNanos < start + limit.toNanos := Nat.add_lt_add_left hlt start
  refine ⟨hdue, hp.opens_iff.mpr (Nat.le_of_lt hle), ?_⟩
  intro i hi e he
  obtain ⟨-, e', he', hbefore⟩ := due_before hdue hi
  rw [he] at he'
  cases he'
  exact hp.hears (Nat.lt_of_le_of_lt hbefore hle)

/-! ## The runs -/

/-- The moments of the first attempts of a run. -/
theorem Polls.take_calls (hp : p.Polls interval limit) (hno : checks.Refuse n) {count : Nat}
    (hcount : ∀ i < count, i ≤ n ∧ i * interval.toNanos < limit.toNanos) {r : Run}
    (h : p.Account checks start (p.limits start none) 0 r) :
    (r.calls.map (·.2)).take count =
      (List.range count).map (fun i => start + i * interval.toNanos) := by
  refine List.ext_getElem? fun i => ?_
  rw [List.getElem?_take, List.getElem?_map, List.getElem?_map]
  split
  · next hi =>
    obtain ⟨hle, hlt⟩ := hcount i hi
    rw [h.getElem?_calls.mpr ⟨rfl, hp.begun hno hle hlt⟩, List.getElem?_range hi]
    rfl
  · next hi =>
    rw [List.getElem?_eq_none (by simpa using hi)]
    rfl

/-- The check says yes at the last of some attempts. -/
theorem run_polls_ok (hp : p.Polls interval limit) (hno : checks.Refuse k)
    (hyes : (checks k).ready = true) (hnow : (checks k).takes = some 0)
    (hlt : k * interval.toNanos < limit.toNanos) (hbound : k + 1 < attemptBound) :
    ∃ r, p.run checks start none = some r ∧ r.outcome = .ok (k + 1) ∧
      r.sent = (List.range (k + 1)).map (fun i => start + i * interval.toNanos) ∧
        r.ended = start + k * interval.toNanos := by
  have hverdict : p.verdict checks k = some (.ok (k + 1)) := by simp [verdict, hyes]
  have hlast : p.due checks start (k + 1) = none := due_succ_of_verdict hverdict
  have hcloses : p.Closes checks start (p.limits start none) k (.ok (k + 1))
      (start + k * interval.toNanos) := by
    refine ⟨⟨_, hp.begun hno (Nat.le_refl k) hlt⟩, hverdict, ?_, ?_⟩
    · exact answered_at_once (hp.due_eq hno (Nat.le_refl k)) hnow
    · exact hp.hears (Nat.add_lt_add_left hlt start)
  obtain ⟨r, hr⟩ : ∃ r, p.run checks start none = some r := by
    refine run_isSome ⟨k + 1, hbound, ?_⟩ (Or.inl (by simp [hp.first_limits]))
    intro s hs
    rw [hlast] at hs
    cases hs
  have ha := account hr
  have hok : r.outcome = .ok (k + 1) := ha.outcome_eq_ok.mpr ⟨k, _, hcloses⟩
  obtain ⟨j, -, hlength, -, -, hj⟩ := ha.last_of_ok hok
  have hended : r.ended = start + k * interval.toNanos :=
    (Ends.unique ⟨j, hj.verdict, hj.answered⟩ ⟨k, hverdict, hcloses.answered⟩).2
  refine ⟨r, hr, hok, ?_, hended⟩
  have hsent : r.sent = r.calls.map (·.2) := by simp only [Run.sent, hok]
  rw [hsent, ← hp.take_calls hno ?_ ha, List.take_of_length_le (by simp [hlength])]
  intro i hi
  refine ⟨Nat.le_of_lt_succ hi, Nat.lt_of_le_of_lt ?_ hlt⟩
  exact Nat.mul_le_mul_right _ (Nat.le_of_lt_succ hi)

/-- Nothing is heard of a check that says no until the deadline. -/
theorem Polls.not_closes (hp : p.Polls interval limit) (hno : checks.Refuse n)
    (hqueue : ∀ i, (checks i).prompt = false) (hlast : limit.toNanos ≤ n * interval.toNanos)
    (o : Except RetryFailure Nat) (e : Moment) :
    ¬ p.Closes checks start (p.limits start none) k o e := by
  intro hc
  by_cases hk : k < n
  · have hverdict := hc.verdict
    rw [hp.verdict_of_no (hno k hk).1] at hverdict
    cases hverdict
  · obtain ⟨s, d, hdue, -, rfl⟩ := answered_eq_some.mp hc.answered
    have hlate : start + n * interval.toNanos ≤ s :=
      due_le_due (Nat.le_of_not_lt hk) (hp.due_eq hno (Nat.le_refl n)) hdue
    rcases Limits.hears_iff.mp hc.heard _ _ hp.first_limits with hlt | ⟨-, hprompt⟩
    · have hle := Nat.le_trans (Nat.add_le_add_left hlast start) (Nat.le_trans hlate
        (Nat.le_add_right s d))
      exact absurd hlt (Nat.not_lt.mpr hle)
    · rw [hqueue] at hprompt
      cases hprompt

/-- What is asked before the deadline of a check that says no until then. -/
theorem Polls.calls_before_deadline (hp : p.Polls interval limit) (hno : checks.Refuse n)
    (hlast : limit.toNanos ≤ n * interval.toNanos)
    (hbefore : ∀ i < n, i * interval.toNanos < limit.toNanos) {r : Run}
    (h : p.Account checks start (p.limits start none) 0 r) :
    (r.calls.map (·.2)).filter (· < start + limit.toNanos) =
      (List.range n).map (fun i => start + i * interval.toNanos) := by
  have hearly : ((r.calls.map (·.2)).take n).filter (· < start + limit.toNanos) =
      (List.range n).map (fun i => start + i * interval.toNanos) := by
    rw [hp.take_calls hno (fun i hi => ⟨Nat.le_of_lt hi, hbefore i hi⟩) h]
    refine List.filter_eq_self.mpr fun s hs => ?_
    obtain ⟨i, hi, rfl⟩ := List.mem_map.mp hs
    rw [decide_eq_true_eq]
    exact Nat.add_lt_add_left (hbefore i (List.mem_range.mp hi)) start
  have hlate : ((r.calls.map (·.2)).drop n).filter (· < start + limit.toNanos) = [] := by
    refine List.filter_eq_nil_iff.mpr fun s hs => ?_
    obtain ⟨i, hi⟩ := List.mem_iff_getElem?.mp hs
    rw [List.getElem?_drop, List.getElem?_map, Option.map_eq_some_iff] at hi
    obtain ⟨⟨j, s'⟩, hcall, rfl⟩ := hi
    obtain ⟨-, hb⟩ := h.getElem?_calls.mp hcall
    have hle := due_le_due (Nat.le_add_right n i) (hp.due_eq hno (Nat.le_refl n)) hb.due
    rw [decide_eq_true_eq]
    exact Nat.not_lt.mpr (Nat.le_trans (Nat.add_le_add_left hlast start) hle)
  rw [← List.take_append_drop n (r.calls.map (·.2)), List.filter_append, hearly, hlate,
    List.append_nil]

/-- The check says no until the deadline. -/
theorem run_polls_timedOut (hp : p.Polls interval limit) (hno : checks.Refuse n)
    (hqueue : ∀ i, (checks i).prompt = false) (hlast : limit.toNanos ≤ n * interval.toNanos)
    (hbefore : ∀ i < n, i * interval.toNanos < limit.toNanos) (hpos : 0 < interval.toNanos)
    (hbound : n + 1 < attemptBound) :
    ∃ r, p.run checks start none = some r ∧ r.outcome = .error (.timedOut limit) ∧
      r.sent = (List.range n).map (fun i => start + i * interval.toNanos) ∧
        r.ended = start + limit.toNanos := by
  have hdue : p.due checks start n = some (start + n * interval.toNanos) :=
    hp.due_eq hno (Nat.le_refl n)
  obtain ⟨r, hr⟩ : ∃ r, p.run checks start none = some r := by
    refine run_isSome ⟨n + 1, hbound, ?_⟩ (Or.inl (by simp [hp.first_limits]))
    intro s hs hopens
    obtain ⟨-, e, he, rfl⟩ := of_due_succ hs
    obtain ⟨s', d, hs', -, rfl⟩ := answered_eq_some.mp he
    rw [hdue] at hs'
    cases hs'
    rw [hp.opens_iff, hp.schedule] at hopens
    -- an interval after the deadline no attempt is begun
    have hle : start + limit.toNanos ≤ start + n * interval.toNanos + d :=
      Nat.le_trans (Nat.add_le_add_left hlast start) (Nat.le_add_right _ d)
    exact Nat.not_lt.mpr hopens (Nat.lt_of_le_of_lt hle (Nat.lt_add_of_pos_right hpos))
  have ha := account hr
  obtain ⟨houtcome, hended⟩ : r.outcome = .error (.timedOut limit) ∧
      r.ended = start + limit.toNanos := by
    cases ha.fate with
    | closed j hj => exact absurd hj (hp.not_closes hno hqueue hlast _ _)
    | cut t why hfirst never outcome ended =>
      rw [hp.first_limits] at hfirst
      cases hfirst
      exact ⟨outcome, by rw [ended, Nat.max_eq_left (Nat.le_add_right _ _)]⟩
  refine ⟨r, hr, houtcome, ?_, hended⟩
  have hsent : r.sent = (r.calls.map (·.2)).filter (· < r.ended) := by
    simp only [Run.sent, houtcome]
  rw [hsent, hended]
  exact hp.calls_before_deadline hno hlast hbefore ha

end Policy

end Flotilla.Retry
