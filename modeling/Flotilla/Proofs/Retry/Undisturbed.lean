import Flotilla.Retry.Run

/-!
# The undisturbed run

A retried check that neither the shutdown nor the deadline cuts short begins its
attempts at fixed moments.  The first falls due at the start, and each of the
others when the one before it was answered and the wait after that is over.  The
run ends with the answer of the first attempt that says yes or is the last one
allowed.

* `due`, `answered`: the moments of an attempt.
* `verdict`: what an attempt ends the run with.
* `Ends`: how and when the run ends; it ends once (`Ends.unique`).

The second part has the laws of the limits of a run: which attempts they let begin
(`Limits.Opens`) and which answers they let through (`Limits.Hears`).
-/

namespace Flotilla.Retry

open Time (Moment)

/-! ## The attempts -/

namespace Policy

section

variable (p : Policy) (checks : Checks) (start : Moment)

/-- What an attempt ends the run with, if it ends it. -/
def verdict (k : Nat) : Option (Except RetryFailure Nat) :=
  if (checks k).ready then some (.ok (k + 1))
  else if p.spent (k + 1) then some (.error (.exhausted (k + 1)))
  else none

/-- When an attempt falls due.  None if one before it ends the run or is never answered. -/
def due : Nat → Option Moment
  | 0 => some start
  | k + 1 =>
    match p.verdict checks k with
    | some _ => none
    | none => (due k).bind fun s =>
        (checks k).takes.map fun d => s + d + (p.schedule.delayAfter k).toNanos

/-- When an attempt is answered. -/
def answered (k : Nat) : Option Moment :=
  (p.due checks start k).bind fun s => (checks k).takes.map (s + ·)

/-- The run ends at a moment with an outcome. -/
def Ends (outcome : Except RetryFailure Nat) (finish : Moment) : Prop :=
  ∃ k, p.verdict checks k = some outcome ∧ p.answered checks start k = some finish

end

variable {p : Policy} {checks : Checks} {start : Moment}

theorem verdict_eq_none {k : Nat} :
    p.verdict checks k = none ↔ (checks k).ready = false ∧ p.spent (k + 1) = false := by
  unfold verdict
  cases (checks k).ready <;> cases p.spent (k + 1) <;> simp

theorem verdict_eq_ok {k n : Nat} :
    p.verdict checks k = some (.ok n) ↔ (checks k).ready = true ∧ n = k + 1 := by
  unfold verdict
  cases (checks k).ready <;> cases p.spent (k + 1) <;> simp [eq_comm]

theorem answered_eq_some {k : Nat} {e : Moment} :
    p.answered checks start k = some e ↔
      ∃ s d, p.due checks start k = some s ∧ (checks k).takes = some d ∧ e = s + d := by
  simp only [answered, Option.bind_eq_some_iff, Option.map_eq_some_iff]
  constructor
  · rintro ⟨s, hs, d, hd, rfl⟩
    exact ⟨s, d, hs, hd, rfl⟩
  · rintro ⟨s, d, hs, hd, rfl⟩
    exact ⟨s, hs, d, hd, rfl⟩

theorem answered_eq_none {k : Nat} (h : (checks k).takes = none) :
    p.answered checks start k = none := by
  rw [answered, h]
  cases p.due checks start k <;> rfl

theorem due_succ_of_verdict {k : Nat} {o : Except RetryFailure Nat}
    (h : p.verdict checks k = some o) : p.due checks start (k + 1) = none := by
  rw [due, h]

theorem due_succ_of_answered {k : Nat} {e : Moment} (hv : p.verdict checks k = none)
    (h : p.answered checks start k = some e) :
    p.due checks start (k + 1) = some (e + (p.schedule.delayAfter k).toNanos) := by
  obtain ⟨s, d, hs, hd, rfl⟩ := answered_eq_some.mp h
  simp [due, hv, hs, hd]

/-- After an attempt that is due there is an answer and a wait. -/
theorem of_due_succ {k : Nat} {s : Moment} (h : p.due checks start (k + 1) = some s) :
    p.verdict checks k = none ∧ ∃ e, p.answered checks start k = some e ∧
      s = e + (p.schedule.delayAfter k).toNanos := by
  cases hv : p.verdict checks k with
  | some o =>
    rw [due_succ_of_verdict hv] at h
    cases h
  | none =>
    simp only [due, hv, Option.bind_eq_some_iff, Option.map_eq_some_iff] at h
    obtain ⟨s', hs, d, hd, rfl⟩ := h
    exact ⟨rfl, s' + d, answered_eq_some.mpr ⟨s', d, hs, hd, rfl⟩, rfl⟩

/-- What is due has come after all attempts before it. -/
theorem due_before {i j : Nat} {s : Moment} (h : p.due checks start j = some s) (hij : i < j) :
    p.verdict checks i = none ∧ ∃ e, p.answered checks start i = some e ∧ e ≤ s := by
  induction j generalizing s with
  | zero => exact absurd hij (Nat.not_lt_zero i)
  | succ j ih =>
    obtain ⟨hv, e, he, rfl⟩ := of_due_succ h
    rcases Nat.lt_succ_iff_lt_or_eq.mp hij with hlt | rfl
    · obtain ⟨s', d, hs, -, rfl⟩ := answered_eq_some.mp he
      obtain ⟨hi, e', he', hle⟩ := ih hs hlt
      exact ⟨hi, e', he', Nat.le_trans hle (Nat.le_trans (Nat.le_add_right _ _)
        (Nat.le_add_right _ _))⟩
    · exact ⟨hv, e, he, Nat.le_add_right _ _⟩

/-- Nothing is due after an attempt that ends the run. -/
theorem le_of_verdict {i j : Nat} {o : Except RetryFailure Nat} {s : Moment}
    (hv : p.verdict checks i = some o) (h : p.due checks start j = some s) : j ≤ i := by
  refine Nat.le_of_not_lt fun hlt => ?_
  rw [(due_before h hlt).1] at hv
  cases hv

/-- The attempts fall due in order. -/
theorem due_le_due {i j : Nat} {s s' : Moment} (hij : i ≤ j) (hi : p.due checks start i = some s)
    (hj : p.due checks start j = some s') : s ≤ s' := by
  rcases Nat.lt_or_eq_of_le hij with hlt | rfl
  · obtain ⟨-, e, he, hle⟩ := due_before hj hlt
    obtain ⟨t, d, ht, -, rfl⟩ := answered_eq_some.mp he
    obtain rfl : t = s := Option.some.inj (ht.symm.trans hi)
    exact Nat.le_trans (Nat.le_add_right t d) hle
  · exact Nat.le_of_eq (Option.some.inj (hi.symm.trans hj))

theorem start_le_due {k : Nat} {s : Moment} (h : p.due checks start k = some s) : start ≤ s :=
  due_le_due (Nat.zero_le k) rfl h

theorem due_eq_none_of_le {i j : Nat} (hij : i ≤ j) (h : p.due checks start i = none) :
    p.due checks start j = none := by
  induction hij with
  | refl => exact h
  | step _ ih =>
    rw [due, ih]
    cases p.verdict checks _ <;> rfl

/-- The run ends in one way, at one moment. -/
theorem Ends.unique {o o' : Except RetryFailure Nat} {e e' : Moment}
    (h : p.Ends checks start o e) (h' : p.Ends checks start o' e') : o = o' ∧ e = e' := by
  obtain ⟨i, hi, hie⟩ := h
  obtain ⟨j, hj, hje⟩ := h'
  obtain ⟨s, d, hs, -, -⟩ := answered_eq_some.mp hie
  obtain ⟨s', d', hs', -, -⟩ := answered_eq_some.mp hje
  obtain rfl : i = j := Nat.le_antisymm (le_of_verdict hj hs) (le_of_verdict hi hs')
  exact ⟨Option.some.inj (hi.symm.trans hj), Option.some.inj (hie.symm.trans hje)⟩

/-- After the last attempt that a policy allows none is due. -/
theorem due_eq_none_of_maxAttempts {most : Nat} (h : p.maxAttempts = some most) :
    p.due checks start (max most 1) = none := by
  obtain ⟨k, hk⟩ : ∃ k, max most 1 = k + 1 := ⟨max most 1 - 1, by omega⟩
  rw [hk]
  cases hv : p.verdict checks k with
  | some o => exact due_succ_of_verdict hv
  | none =>
    have hspent := (verdict_eq_none.mp hv).2
    simp only [spent, h, decide_eq_false_iff_not] at hspent
    omega

/-- Where every attempt is answered, the run ends if some attempt is not due. -/
theorem ends_of_due_eq_none {n : Nat} (h : p.due checks start n = none)
    (hanswer : ∀ k s, p.due checks start k = some s → (checks k).takes ≠ none) :
    ∃ o e, p.Ends checks start o e := by
  induction n with
  | zero => cases h
  | succ n ih =>
    cases hs : p.due checks start n with
    | none => exact ih hs
    | some s =>
      obtain ⟨d, hd⟩ := Option.ne_none_iff_exists'.mp (hanswer n s hs)
      have he : p.answered checks start n = some (s + d) :=
        answered_eq_some.mpr ⟨s, d, hs, hd, rfl⟩
      cases hv : p.verdict checks n with
      | some o => exact ⟨o, s + d, n, hv, he⟩
      | none =>
        rw [due_succ_of_answered hv he] at h
        cases h

end Policy

/-! ## The limits -/

namespace Limits

/-- An attempt may begin at a moment: the shutdown has not come, and the deadline is not over. -/
structure Opens (l : Limits) (now : Moment) : Prop where
  shutdown : ∀ t, l.shutdown = some t → now < t
  deadline : ∀ d limit, l.deadline = some (d, limit) → now ≤ d

/-- An answer at a moment is not cut off. -/
def Hears (l : Limits) (finish : Moment) (prompt : Bool) : Prop := l.cut (some finish) prompt = none

variable {l : Limits}

/-- The earlier limit is the shutdown or the deadline. -/
theorem first_cases {t : Moment} {why : RetryFailure} (h : l.first = some (t, why)) :
    (l.shutdown = some t ∧ why = .cancelled ∧
        ∀ d limit, l.deadline = some (d, limit) → t ≤ d) ∨
      ∃ limit, l.deadline = some (t, limit) ∧ why = .timedOut limit ∧
        ∀ u, l.shutdown = some u → t < u := by
  obtain ⟨shutdown, deadline⟩ := l
  cases shutdown with
  | none =>
    cases deadline with
    | none => cases h
    | some x =>
      cases h
      exact Or.inr ⟨x.2, rfl, rfl, nofun⟩
  | some u =>
    cases deadline with
    | none =>
      cases h
      exact Or.inl ⟨rfl, rfl, nofun⟩
    | some x =>
      simp only [first] at h
      split at h
      · next hle =>
        cases h
        exact Or.inl ⟨rfl, rfl, fun d limit hd => by cases hd; exact hle⟩
      · next hle =>
        cases h
        exact Or.inr ⟨x.2, rfl, rfl, fun u' hu => by cases hu; exact Nat.lt_of_not_le hle⟩

theorem exists_first_of_shutdown {u : Moment} (h : l.shutdown = some u) :
    ∃ t why, l.first = some (t, why) ∧ t ≤ u := by
  obtain ⟨shutdown, deadline⟩ := l
  cases h
  cases deadline with
  | none => exact ⟨u, _, rfl, Nat.le_refl u⟩
  | some x =>
    simp only [first]
    split
    · exact ⟨u, _, rfl, Nat.le_refl u⟩
    · next hle => exact ⟨x.1, _, rfl, Nat.le_of_lt (Nat.lt_of_not_le hle)⟩

theorem exists_first_of_deadline {d : Moment} {limit : Time.Span}
    (h : l.deadline = some (d, limit)) : ∃ t why, l.first = some (t, why) ∧ t ≤ d := by
  obtain ⟨shutdown, deadline⟩ := l
  cases h
  cases shutdown with
  | none => exact ⟨d, _, rfl, Nat.le_refl d⟩
  | some u =>
    simp only [first]
    split
    · next hle => exact ⟨u, _, rfl, hle⟩
    · exact ⟨d, _, rfl, Nat.le_refl d⟩

/-- The earlier limit is not later than either. -/
theorem first_le {t : Moment} {why : RetryFailure} (h : l.first = some (t, why)) :
    (∀ u, l.shutdown = some u → t ≤ u) ∧ ∀ d limit, l.deadline = some (d, limit) → t ≤ d := by
  rcases first_cases h with ⟨ht, -, hd⟩ | ⟨limit, hd, -, hu⟩
  · refine ⟨fun u hu => ?_, hd⟩
    rw [ht] at hu
    exact Nat.le_of_eq (Option.some.inj hu)
  · refine ⟨fun u h => Nat.le_of_lt (hu u h), fun d limit' hd' => ?_⟩
    rw [hd] at hd'
    cases hd'
    exact Nat.le_refl t

theorem shut_eq_true {now : Moment} :
    l.shut now = true ↔ ∃ t, l.shutdown = some t ∧ t ≤ now := by
  unfold shut
  split <;> simp_all

theorem shut_eq_false {now : Moment} :
    l.shut now = false ↔ ∀ t, l.shutdown = some t → now < t := by
  unfold shut
  split <;> simp_all

theorem cut_eq_some {finish : Option Moment} {prompt : Bool} {x : Moment × RetryFailure}
    (h : l.cut finish prompt = some x) : l.first = some x := by
  unfold cut at h
  split at h
  · cases h
  · next hf => rw [hf, h]
  · next hf =>
    split at h
    · rw [hf, h]
    · cases h

theorem cut_none_finish (prompt : Bool) : l.cut none prompt = l.first := by
  unfold cut
  split <;> simp_all

theorem hears_iff {finish : Moment} {prompt : Bool} :
    l.Hears finish prompt ↔
      ∀ t why, l.first = some (t, why) → finish < t ∨ (finish = t ∧ prompt = true) := by
  unfold Hears cut
  cases hf : l.first with
  | none => simp
  | some x =>
    obtain ⟨t, why⟩ := x
    simp only [ite_eq_right_iff, reduceCtorEq, imp_false, Option.some.injEq, Prod.mk.injEq,
      not_or, not_and, Nat.not_lt]
    constructor
    · rintro ⟨hle, hp⟩ t' why' ⟨rfl, rfl⟩
      rcases Nat.lt_or_eq_of_le hle with hlt | he
      · exact Or.inl hlt
      · exact Or.inr ⟨he, by simpa using hp he.symm⟩
    · intro h
      rcases h t why ⟨rfl, rfl⟩ with hlt | ⟨rfl, hp⟩
      · exact ⟨Nat.le_of_lt hlt, fun he => absurd he (Nat.ne_of_gt hlt)⟩
      · exact ⟨Nat.le_refl _, fun _ => by simp [hp]⟩

theorem hears_prompt {finish : Moment} :
    l.Hears finish true ↔ ∀ t why, l.first = some (t, why) → finish ≤ t := by
  rw [hears_iff]
  refine forall_congr' fun t => forall_congr' fun why => imp_congr_right fun _ => ?_
  simp only [and_true]
  exact Nat.le_iff_lt_or_eq.symm

/-- An attempt may begin when the shutdown has not come and its moment is heard. -/
theorem opens_iff {now : Moment} : l.Opens now ↔ l.shut now = false ∧ l.Hears now true := by
  rw [shut_eq_false, hears_prompt]
  constructor
  · intro h
    refine ⟨h.shutdown, fun t why hf => ?_⟩
    rcases first_cases hf with ⟨ht, -, -⟩ | ⟨limit, hd, -, -⟩
    · exact Nat.le_of_lt (h.shutdown t ht)
    · exact h.deadline t limit hd
  · rintro ⟨hs, hh⟩
    refine ⟨hs, fun d limit hd => ?_⟩
    obtain ⟨t, why, hf, hle⟩ := exists_first_of_deadline hd
    exact Nat.le_trans (hh t why hf) hle

/-- So an attempt may begin at each moment that is heard but that of the shutdown. -/
theorem opens_iff_ne {now : Moment} :
    l.Opens now ↔ l.Hears now true ∧ ∀ t, l.shutdown = some t → now ≠ t := by
  rw [opens_iff, shut_eq_false]
  constructor
  · rintro ⟨hs, hh⟩
    exact ⟨hh, fun t ht => Nat.ne_of_lt (hs t ht)⟩
  · rintro ⟨hh, hne⟩
    refine ⟨fun t ht => ?_, hh⟩
    obtain ⟨u, why, hf, hut⟩ := exists_first_of_shutdown ht
    exact Nat.lt_of_le_of_ne (Nat.le_trans (hears_prompt.mp hh u why hf) hut) (hne t ht)

/-- If an attempt may begin, so may every one that is due before. -/
theorem Opens.of_le {now s : Moment} (h : l.Opens s) (hle : now ≤ s) : l.Opens now where
  shutdown t ht := Nat.lt_of_le_of_lt hle (h.shutdown t ht)
  deadline d limit hd := Nat.le_trans hle (h.deadline d limit hd)

end Limits

end Flotilla.Retry
