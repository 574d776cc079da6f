import Flotilla.Proofs.Retry.Timing

/-!
# Bounds of a run

A policy bounds a run by the number of its attempts or by a time for the whole.  Then the run comes
to its end and makes few attempts (`Policy.Bounded`).

With a number alone every answer has to come.  With a time none has to, but the waits have to take
up the time, so that attempts do not go on without end at one moment.  The first wait of a linear
schedule is none at all.  The waits up to attempt `k` make `k * (k - 1) / 2` steps, or more than any
time that a policy can allow (`due_of_linear`).  So no more attempts fall due by a deadline than
can be counted, and the run is cut short in the wait after the last of them (`run_by_deadline`).
-/

namespace Flotilla.Retry

open Time (Moment Span)

namespace Policy

/-- What bounds a run. -/
structure Bounded (p : Policy) (checks : Checks) (start : Moment) (shutdown : Option Moment) :
    Prop where
  /-- Where every answer comes, a greatest number of attempts ends the run, and the attempts that
  are made can all be counted. -/
  attempts : ∀ most, p.maxAttempts = some most → most < attemptBound →
    (∀ k, (checks k).takes ≠ none) → ∃ r, p.run checks start shutdown = some r ∧
      r.calls.length ≤ max most 1 ∧ ∀ k s, (k, s) ∈ r.calls → k + 1 < attemptBound
  /-- A deadline ends a run with equal waits, also where some answers never come. -/
  fixed : ∀ interval limit, p.schedule = .fixed interval → p.timeout = some limit →
    0 < interval.toNanos → limit.toNanos / interval.toNanos < attemptBound →
      ∃ r, p.run checks start shutdown = some r ∧ r.ended ≤ start + limit.toNanos ∧
        r.calls.length ≤ limit.toNanos / interval.toNanos + 1
  /-- So it does with waits that grow, and no attempt is made that comes too late for it. -/
  linear : ∀ step limit, p.schedule = .linear step → p.timeout = some limit →
    0 < step.toNanos → limit.toNanos / step.toNanos < attemptBound →
      ∃ r, p.run checks start shutdown = some r ∧ r.ended ≤ start + limit.toNanos ∧
        ∀ k s, (k, s) ∈ r.calls → step.toNanos * (k * (k - 1)) ≤ 2 * limit.toNanos
  /-- Between two attempts there is an answer, and then the wait of the schedule. -/
  waits : ∀ r, p.run checks start shutdown = some r → ∀ k s s', r.calls[k]? = some (k, s) →
    r.calls[k + 1]? = some (k + 1, s') →
      ∃ d, (checks k).takes = some d ∧ s' = s + d + (p.schedule.delayAfter k).toNanos

variable {p : Policy} {checks : Checks} {start : Moment} {shutdown : Option Moment}
  {limit interval step : Span}

/-! ## When attempts fall due -/

theorem due_of_fixed {start s k : Nat} (hschedule : p.schedule = .fixed interval)
    (h : p.due checks start k = some s) : start + k * interval.toNanos ≤ s := by
  induction k generalizing s with
  | zero =>
    cases h
    rw [Nat.zero_mul]
    exact Nat.le_refl start
  | succ k ih =>
    obtain ⟨-, e, he, rfl⟩ := of_due_succ h
    obtain ⟨m, d, hm, -, rfl⟩ := answered_eq_some.mp he
    have hbefore := ih hm
    rw [hschedule, Schedule.delayAfter, Nat.succ_mul]
    omega

/-- So the attempts of equal waits that fall due within a span have small numbers. -/
theorem few_of_fixed {start s k : Nat} (hschedule : p.schedule = .fixed interval)
    (hpos : 0 < interval.toNanos) (h : p.due checks start k = some s)
    (hle : s ≤ start + limit.toNanos) : k ≤ limit.toNanos / interval.toNanos :=
  (Nat.le_div_iff_mul_le hpos).mpr
    (Nat.le_of_add_le_add_left (Nat.le_trans (due_of_fixed hschedule h) hle))

/-- One more wait of a linear schedule.  Of waits that do not fit there is another one before the
first. -/
theorem waits_succ {step longest : Nat} (hpos : 0 < step) (hfits : step ≤ longest) (k : Nat) :
    min (step * ((k + 1) * k)) (2 * (longest + 1)) ≤
      min (step * (k * (k - 1))) (2 * (longest + 1)) + 2 * min (step * k) longest := by
  rcases k with _ | _ | k
  · simp
  · simp only [Nat.zero_add, Nat.mul_one]
    omega
  · have hsum : step * ((k + 3) * (k + 2)) =
        step * ((k + 2) * (k + 1)) + 2 * (step * (k + 2)) := by
      rw [Nat.mul_comm (k + 2) (k + 1), Nat.mul_left_comm 2 step, ← Nat.mul_add, ← Nat.add_mul]
    have hearlier : 2 ≤ step * ((k + 2) * (k + 1)) :=
      Nat.mul_le_mul hpos (Nat.mul_le_mul (Nat.le_add_left 2 k) (Nat.le_add_left 1 k))
    show min (step * ((k + 3) * (k + 2))) _ ≤
      min (step * ((k + 2) * (k + 1))) _ + 2 * min (step * (k + 2)) longest
    omega

/-- The waits of a linear schedule add up.  Where one does not fit they are longer than any span. -/
theorem due_of_linear {start s k : Nat} (hschedule : p.schedule = .linear step)
    (hpos : 0 < step.toNanos) (h : p.due checks start k = some s) :
    2 * start + min (step.toNanos * (k * (k - 1))) (2 * (Span.longest.toNanos + 1)) ≤ 2 * s := by
  induction k generalizing s with
  | zero =>
    cases h
    rw [Nat.zero_mul, Nat.mul_zero, Nat.zero_min]
    exact Nat.le_refl _
  | succ k ih =>
    obtain ⟨-, e, he, rfl⟩ := of_due_succ h
    obtain ⟨m, d, hm, -, rfl⟩ := answered_eq_some.mp he
    have hbefore := ih hm
    have hwait := waits_succ hpos step.toNanos_le k
    rw [hschedule, Schedule.toNanos_delayAfter_linear, Nat.add_sub_cancel]
    omega

/-- So do those of a linear schedule. -/
theorem few_of_linear {start s k : Nat} (hschedule : p.schedule = .linear step)
    (hpos : 0 < step.toNanos) (h : p.due checks start k = some s)
    (hle : s ≤ start + limit.toNanos) : step.toNanos * (k * (k - 1)) ≤ 2 * limit.toNanos := by
  have hdue := due_of_linear hschedule hpos h
  have hlongest : limit.toNanos ≤ Span.longest.toNanos := limit.toNanos_le
  omega

/-! ## What a deadline does -/

/-- A run has ended by its deadline. -/
theorem Account.ended_le_deadline {r : Run}
    (h : p.Account checks start (p.limits start shutdown) 0 r) (hlimit : p.timeout = some limit) :
    r.ended ≤ start + limit.toNanos := by
  obtain ⟨t, why, hf, hle⟩ := Limits.exists_first_of_deadline
    (l := p.limits start shutdown) (deadline_limits.mpr ⟨hlimit, rfl⟩)
  cases h.fate with
  | closed k hc =>
    rcases Limits.hears_iff.mp hc.heard t why hf with hlt | ⟨heq, -⟩
    · exact Nat.le_trans (Nat.le_of_lt hlt) hle
    · exact Nat.le_trans (Nat.le_of_eq heq) hle
  | cut u why' hf' never outcome ended =>
    cases hf.symm.trans hf'
    rw [ended]
    exact Nat.max_le.mpr ⟨hle, Nat.le_add_right _ _⟩

/-- A run ends by its deadline when no more attempts fall due by then than can be counted. -/
theorem run_by_deadline (shutdown : Option Moment) (hlimit : p.timeout = some limit)
    (hlate : ∀ s, p.due checks start attemptBound = some s → ¬ s ≤ start + limit.toNanos) :
    ∃ r, p.run checks start shutdown = some r ∧ r.ended ≤ start + limit.toNanos ∧
      ∀ k s, (k, s) ∈ r.calls → p.due checks start k = some s ∧ s ≤ start + limit.toNanos := by
  obtain ⟨t, why, hf, hle⟩ := Limits.exists_first_of_deadline
    (l := p.limits start shutdown) (deadline_limits.mpr ⟨hlimit, rfl⟩)
  obtain ⟨r, hr⟩ : ∃ r, p.run checks start shutdown = some r := by
    refine Option.ne_none_iff_exists'.mp fun hr => ?_
    obtain ⟨s, hs, hheard, -⟩ :=
      of_runFrom_eq_none (p.stands_start checks start shutdown) (Or.inl (by simp [hf])) hr
    rw [Nat.zero_add] at hs
    -- the attempt after the last one that can be counted would have to be heard
    have hearly := Limits.hears_prompt.mp (hheard (by decide)) t why hf
    exact hlate s hs (Nat.le_trans hearly hle)
  have ha := account hr
  have hended := ha.ended_le_deadline hlimit
  refine ⟨r, hr, hended, fun k s hcall => ?_⟩
  exact ⟨((ha.calls k s).mp hcall).2.due, Nat.le_trans (ha.within hcall).2 hended⟩

/-- Where no attempt has a greater number than some, there is at most one more. -/
theorem Account.length_le_succ {limits : Limits} {r : Run}
    (h : p.Account checks start limits 0 r) {n : Nat} (hn : ∀ k s, (k, s) ∈ r.calls → k ≤ n) :
    r.calls.length ≤ n + 1 := by
  refine Nat.le_of_not_lt fun hlt => ?_
  obtain ⟨⟨k, s⟩, hcall⟩ : ∃ call, r.calls[n + 1]? = some call :=
    ⟨_, List.getElem?_eq_getElem hlt⟩
  obtain ⟨rfl, -⟩ := h.getElem?_calls.mp hcall
  exact Nat.not_succ_le_self n (hn _ s (List.mem_of_getElem? hcall))

/-! ## The bounds -/

theorem bounded_fixed (hschedule : p.schedule = .fixed interval) (hlimit : p.timeout = some limit)
    (hpos : 0 < interval.toNanos)
    (hbound : limit.toNanos / interval.toNanos < attemptBound) :
    ∃ r, p.run checks start shutdown = some r ∧ r.ended ≤ start + limit.toNanos ∧
      r.calls.length ≤ limit.toNanos / interval.toNanos + 1 := by
  obtain ⟨r, hr, hended, hcalls⟩ := run_by_deadline shutdown hlimit fun s hs hle =>
    absurd hbound (Nat.not_lt.mpr (few_of_fixed hschedule hpos hs hle))
  refine ⟨r, hr, hended, (account hr).length_le_succ fun k s hcall => ?_⟩
  obtain ⟨hdue, hle⟩ := hcalls k s hcall
  exact few_of_fixed hschedule hpos hdue hle

theorem bounded_linear (hschedule : p.schedule = .linear step) (hlimit : p.timeout = some limit)
    (hpos : 0 < step.toNanos) (hbound : limit.toNanos / step.toNanos < attemptBound) :
    ∃ r, p.run checks start shutdown = some r ∧ r.ended ≤ start + limit.toNanos ∧
      ∀ k s, (k, s) ∈ r.calls → step.toNanos * (k * (k - 1)) ≤ 2 * limit.toNanos := by
  have hmany : 2 * limit.toNanos < step.toNanos * (attemptBound * (attemptBound - 1)) := by
    calc 2 * limit.toNanos < 2 * (attemptBound * step.toNanos) :=
          Nat.mul_lt_mul_of_pos_left ((Nat.div_lt_iff_lt_mul hpos).mp hbound) (by decide)
      _ = step.toNanos * (attemptBound * 2) := by
          rw [Nat.mul_comm attemptBound, Nat.mul_left_comm, Nat.mul_comm 2]
      _ ≤ step.toNanos * (attemptBound * (attemptBound - 1)) :=
          Nat.mul_le_mul_left _ (Nat.mul_le_mul_left _ (by decide))
  obtain ⟨r, hr, hended, hcalls⟩ := run_by_deadline shutdown hlimit fun s hs hle =>
    absurd hmany (Nat.not_lt.mpr (few_of_linear hschedule hpos hs hle))
  refine ⟨r, hr, hended, fun k s hcall => ?_⟩
  obtain ⟨hdue, hle⟩ := hcalls k s hcall
  exact few_of_linear hschedule hpos hdue hle

/-- A policy bounds its runs. -/
theorem bounded (p : Policy) (checks : Checks) (start : Moment) (shutdown : Option Moment) :
    p.Bounded checks start shutdown where
  attempts most hmost hbound hanswer := by
    obtain ⟨r, hr⟩ : ∃ r, p.run checks start shutdown = some r :=
      run_isSome_of_maxAttempts hmost hbound hanswer shutdown
    have ha := account hr
    have hlength := ha.length_le hmost
    refine ⟨r, hr, hlength, fun k s hcall => ?_⟩
    have hplace := ha.getElem?_calls.mpr ⟨rfl, ((ha.calls k s).mp hcall).2⟩
    have hlt : k + 1 ≤ max most 1 :=
      Nat.le_trans (List.getElem?_eq_some_iff.mp hplace).1 hlength
    exact Nat.lt_of_le_of_lt hlt (Nat.max_lt.mpr ⟨hbound, by decide⟩)
  fixed _ _ hschedule hlimit hpos hbound := bounded_fixed hschedule hlimit hpos hbound
  linear _ _ hschedule hlimit hpos hbound := bounded_linear hschedule hlimit hpos hbound
  waits r hr k s s' hk hnext := by
    have hdue := ((account hr).getElem?_calls.mp hk).2.due
    obtain ⟨-, e, he, rfl⟩ := of_due_succ ((account hr).getElem?_calls.mp hnext).2.due
    obtain ⟨m, d, hm, htakes, rfl⟩ := answered_eq_some.mp he
    cases hdue.symm.trans hm
    exact ⟨d, htakes, rfl⟩

end Policy

/-- No more attempts are sent than are begun. -/
theorem Run.length_sent_le (r : Run) : r.sent.length ≤ r.calls.length := by
  have hfilter (p : Moment → Bool) : ((r.calls.map (·.2)).filter p).length ≤ r.calls.length :=
    Nat.le_trans (List.length_filter_le p _) (Nat.le_of_eq (List.length_map _))
  unfold sent
  split
  · exact hfilter _
  · exact hfilter _
  · exact Nat.le_of_eq (List.length_map _)

end Flotilla.Retry
