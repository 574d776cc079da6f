import Flotilla.Proofs.Retry.Undisturbed

/-!
# The account of a run

A run goes along the undisturbed one until it ends or a limit cuts it short.
`Account` says this of the attempts it begins, of its outcome and of the moment at
which it is over.  `account` proves it of every run that comes to an end, and
`run_isSome` says that a run does when it makes fewer attempts than can be
counted.

One attempt is taken at a time.  `Goes` has a case for each way in which it can go,
with everything that is known then, and the runs are looked into only there.
-/

namespace Flotilla.Retry

open Time (Moment)

namespace Policy

section

variable (p : Policy) (checks : Checks) (start : Moment) (limits : Limits)

/-- How the attempt that is due now goes: the run is over, or the next attempt is due at a moment,
or nothing ever follows. -/
inductive Goes (k : Nat) (now : Moment) : Option (Run ⊕ Moment) → Prop
  | shut (hs : limits.shut now = true) : Goes k now (some (.inl ⟨.error .cancelled, [], now⟩))
  | silent (hs : limits.shut now = false) (never : (checks k).takes = none)
      (free : limits.first = none) : Goes k now none
  | cut {t : Moment} {why : RetryFailure} (hs : limits.shut now = false)
      (first : limits.first = some (t, why))
      (deaf : ∀ e, p.answered checks start k = some e → ¬ limits.Hears e (checks k).prompt) :
      Goes k now (some (.inl ⟨.error why, [(k, now)], t⟩))
  | ended {o : Except RetryFailure Nat} {e : Moment} (hs : limits.shut now = false)
      (answered : p.answered checks start k = some e) (heard : limits.Hears e (checks k).prompt)
      (verdict : p.verdict checks k = some o) : Goes k now (some (.inl ⟨o, [(k, now)], e⟩))
  | late {t next : Moment} {why : RetryFailure} (hs : limits.shut now = false)
      (verdict : p.verdict checks k = none) (due : p.due checks start (k + 1) = some next)
      (first : limits.first = some (t, why)) (deaf : ¬ limits.Hears next true) :
      Goes k now (some (.inl ⟨.error why, [(k, now)], t⟩))
  | next {e next : Moment} (hs : limits.shut now = false)
      (answered : p.answered checks start k = some e) (heard : limits.Hears e (checks k).prompt)
      (due : p.due checks start (k + 1) = some next) (open' : limits.Hears next true) :
      Goes k now (some (.inr next))

/-- An attempt is begun at a moment: it is due, the limits let it begin, and they cut off no answer
before it. -/
structure Begun (k : Nat) (s : Moment) : Prop where
  due : p.due checks start k = some s
  opens : limits.Opens s
  heard : ∀ i < k, ∀ e, p.answered checks start i = some e → limits.Hears e (checks i).prompt

/-- An attempt is begun, and its answer ends the run. -/
structure Closes (k : Nat) (outcome : Except RetryFailure Nat) (finish : Moment) : Prop where
  begun : ∃ s, p.Begun checks start limits k s
  verdict : p.verdict checks k = some outcome
  answered : p.answered checks start k = some finish
  heard : limits.Hears finish (checks k).prompt

/-- How a run comes to its end. -/
inductive Fate (r : Run) : Prop
  | closed (k : Nat) (closes : p.Closes checks start limits k r.outcome r.ended)
  | cut (t : Moment) (why : RetryFailure) (first : limits.first = some (t, why))
      (never : ∀ k o e, ¬ p.Closes checks start limits k o e) (outcome : r.outcome = .error why)
      (ended : r.ended = max t start)

/-- How a run from attempt `k` on follows from the undisturbed one. -/
structure Account (k : Nat) (r : Run) : Prop where
  numbered : r.calls.map (·.1) = List.range' k r.calls.length
  calls : ∀ j s, (j, s) ∈ r.calls ↔ k ≤ j ∧ p.Begun checks start limits j s
  fate : p.Fate checks start limits r

/-- How things stand when attempt `k` falls due. -/
structure Stands (k : Nat) (now : Moment) : Prop where
  due : p.due checks start k = some now
  heard : ∀ i < k, ∀ e, p.answered checks start i = some e → limits.Hears e (checks i).prompt
  within : ∀ t why, limits.first = some (t, why) → now ≤ max t start
  start_le : ∀ d limit, limits.deadline = some (d, limit) → start ≤ d

end

variable {p : Policy} {checks : Checks} {start : Moment} {limits : Limits}

/-! ## One attempt -/

/-- A run is its first attempt and then the rest. -/
theorem runFrom_goes (limits : Limits) {k : Nat} {now : Moment}
    (h : p.due checks start k = some now) (fuel : Nat) :
    ∃ x, p.Goes checks start limits k now x ∧
      p.runFrom checks limits (fuel + 1) k now = x.bind fun
        | .inl r => some r
        | .inr next => (p.runFrom checks limits fuel (k + 1) next).map (Run.after (k, now)) := by
  simp only [runFrom]
  split
  · next hs => exact ⟨_, .shut hs, rfl⟩
  next hs =>
  have hs : limits.shut now = false := by simpa using hs
  cases hd : (checks k).takes with
  | none =>
    rw [Option.map_none, Limits.cut_none_finish]
    cases hf : limits.first with
    | none => exact ⟨_, .silent hs hd hf, rfl⟩
    | some x =>
      refine ⟨_, .cut hs hf fun e he _ => ?_, rfl⟩
      rw [answered_eq_none hd] at he
      cases he
  | some d =>
    have hans : p.answered checks start k = some (now + d) :=
      answered_eq_some.mpr ⟨now, d, h, hd, rfl⟩
    rw [Option.map_some]
    cases hcut : limits.cut (some (now + d)) (checks k).prompt with
    | some x =>
      refine ⟨_, .cut hs (Limits.cut_eq_some hcut) fun e he hh => ?_, rfl⟩
      obtain rfl : now + d = e := Option.some.inj (hans.symm.trans he)
      rw [Limits.Hears, hcut] at hh
      cases hh
    | none =>
      cases hv : p.verdict checks k with
      | some o =>
        refine ⟨_, .ended hs hans hcut hv, ?_⟩
        simp only [verdict] at hv
        split at hv
        · next hr =>
          cases hv
          simp [hr]
        · next hr =>
          split at hv
          · next hp =>
            cases hv
            simp [hr, hp]
          · cases hv
      | none =>
        have hdue := due_succ_of_answered hv hans
        simp only [verdict_eq_none.mp hv, Bool.false_eq_true, if_false]
        cases hcut' : limits.cut (some (now + d + (p.schedule.delayAfter k).toNanos)) true with
        | some x =>
          refine ⟨_, .late hs hv hdue (Limits.cut_eq_some hcut') fun hh => ?_, rfl⟩
          rw [Limits.Hears, hcut'] at hh
          cases hh
        | none => exact ⟨_, .next hs hans hcut hdue hcut', rfl⟩

namespace Stands

variable {k : Nat} {now : Moment}

theorem begun (h : p.Stands checks start limits k now) (hs : limits.shut now = false) :
    p.Begun checks start limits k now where
  due := h.due
  heard := h.heard
  opens := by
    refine ⟨Limits.shut_eq_false.mp hs, fun d limit hd => ?_⟩
    obtain ⟨t, why, hf, hle⟩ := Limits.exists_first_of_deadline hd
    exact Nat.le_trans (h.within t why hf) (Nat.max_le.mpr ⟨hle, h.start_le d limit hd⟩)

theorem le_of_closes (h : p.Stands checks start limits k now) {j : Nat}
    {o : Except RetryFailure Nat} {e : Moment} (hc : p.Closes checks start limits j o e) :
    k ≤ j :=
  le_of_verdict hc.verdict h.due

theorem shut (h : p.Stands checks start limits k now) (hs : limits.shut now = true) :
    p.Account checks start limits k ⟨.error .cancelled, [], now⟩ := by
  obtain ⟨u, hu, hle⟩ := Limits.shut_eq_true.mp hs
  have hnone (j : Nat) (s : Moment) (hj : k ≤ j) : ¬ p.Begun checks start limits j s := by
    intro hb
    exact Nat.lt_irrefl _ (Nat.lt_of_lt_of_le (hb.opens.shutdown u hu)
      (Nat.le_trans hle (due_le_due hj h.due hb.due)))
  obtain ⟨t, why, hf, htu⟩ := Limits.exists_first_of_shutdown hu
  have hwithin := h.within t why hf
  have hended : now = max t start := Nat.le_antisymm hwithin
    (Nat.max_le.mpr ⟨Nat.le_trans htu hle, start_le_due h.due⟩)
  refine ⟨rfl, ?_, .cut t why hf ?_ ?_ hended⟩
  · intro j s
    exact ⟨nofun, fun hb => absurd hb.2 (hnone j s hb.1)⟩
  · intro j o e hc
    obtain ⟨s, hb⟩ := hc.begun
    exact hnone j s (h.le_of_closes hc) hb
  · rcases Limits.first_cases hf with ⟨-, rfl, -⟩ | ⟨limit, hd, rfl, hlt⟩
    · rfl
    · -- the deadline cannot have come before: this attempt is still due
      rw [Nat.max_eq_left (h.start_le t limit hd)] at hwithin
      exact absurd (Nat.lt_of_lt_of_le (hlt u hu) (Nat.le_trans hle hwithin)) (Nat.lt_irrefl _)

/-- The account of a run that is over with this attempt. -/
theorem last (h : p.Stands checks start limits k now) (hs : limits.shut now = false)
    {o : Except RetryFailure Nat} {e : Moment}
    (hlast : ∀ j s, k < j → ¬ p.Begun checks start limits j s)
    (hfate : p.Fate checks start limits ⟨o, [(k, now)], e⟩) :
    p.Account checks start limits k ⟨o, [(k, now)], e⟩ := by
  refine ⟨rfl, ?_, hfate⟩
  intro j s
  simp only [List.mem_singleton, Prod.mk.injEq]
  constructor
  · rintro ⟨rfl, rfl⟩
    exact ⟨Nat.le_refl _, h.begun hs⟩
  · rintro ⟨hj, hb⟩
    rcases Nat.lt_or_eq_of_le hj with hlt | rfl
    · exact absurd hb (hlast j s hlt)
    · exact ⟨rfl, Option.some.inj (hb.due.symm.trans h.due)⟩

/-- The account of a run that a limit cuts short in this attempt or in the wait after it. -/
theorem cut (h : p.Stands checks start limits k now) (hs : limits.shut now = false) {t : Moment}
    {why : RetryFailure} (hf : limits.first = some (t, why))
    (hlast : ∀ j s, k < j → ¬ p.Begun checks start limits j s)
    (hnever : ∀ o e, ¬ p.Closes checks start limits k o e) :
    p.Account checks start limits k ⟨.error why, [(k, now)], t⟩ := by
  have hstart : start ≤ t := by
    rcases Limits.first_cases hf with ⟨ht, -, -⟩ | ⟨limit, hd, -, -⟩
    · exact Nat.le_of_lt (Nat.lt_of_le_of_lt (start_le_due h.due)
        (Limits.shut_eq_false.mp hs t ht))
    · exact h.start_le t limit hd
  refine h.last hs hlast (.cut t why hf ?_ rfl (Nat.max_eq_left hstart).symm)
  intro j o e hc
  rcases Nat.lt_or_eq_of_le (h.le_of_closes hc) with hlt | rfl
  · obtain ⟨s, hb⟩ := hc.begun
    exact hlast j s hlt hb
  · exact hnever o e hc

/-- If the run is over with this attempt, that is its account. -/
theorem ended (h : p.Stands checks start limits k now) {r : Run}
    (hg : p.Goes checks start limits k now (some (.inl r))) :
    p.Account checks start limits k r := by
  cases hg with
  | shut hs => exact h.shut hs
  | cut hs first deaf =>
    refine h.cut hs first ?_ fun o e hc => deaf e hc.answered hc.heard
    intro j s hj hb
    obtain ⟨-, e, he, -⟩ := due_before hb.due hj
    exact deaf e he (hb.heard k hj e he)
  | ended hs answered heard verdict =>
    refine h.last hs ?_ (.closed k ⟨⟨now, h.begun hs⟩, verdict, answered, heard⟩)
    exact fun j s hj hb => absurd (le_of_verdict verdict hb.due) (Nat.not_le.mpr hj)
  | late hs verdict due first deaf =>
    refine h.cut hs first ?_ ?_
    · intro j s hj hb
      exact deaf (Limits.opens_iff.mp (hb.opens.of_le (due_le_due hj due hb.due))).2
    · intro o e hc
      have hv := hc.verdict
      rw [verdict] at hv
      cases hv

/-- If another attempt follows, things stand well when it is due. -/
theorem next (h : p.Stands checks start limits k now) {next : Moment}
    (hg : p.Goes checks start limits k now (some (.inr next))) :
    limits.shut now = false ∧ p.Stands checks start limits (k + 1) next := by
  cases hg with
  | next hs answered heard due hopen =>
    refine ⟨hs, due, ?_, ?_, h.start_le⟩
    · intro i hi e he
      rcases Nat.lt_succ_iff_lt_or_eq.mp hi with hlt | rfl
      · exact h.heard i hlt e he
      · obtain rfl : _ = e := Option.some.inj (answered.symm.trans he)
        exact heard
    · intro t why hf
      exact Nat.le_trans (Limits.hears_prompt.mp hopen t why hf) (Nat.le_max_left _ _)

/-- An attempt that is never answered keeps the run from ending undisturbed. -/
theorem not_ends (h : p.Stands checks start limits k now) (hn : (checks k).takes = none)
    {o : Except RetryFailure Nat} {e : Moment} : ¬ p.Ends checks start o e := by
  rintro ⟨j, hv, he⟩
  -- the attempt that ends the run comes no earlier, and none comes later
  rcases Nat.lt_or_eq_of_le (le_of_verdict hv h.due) with hlt | rfl
  · obtain ⟨s, d, hs, -, -⟩ := answered_eq_some.mp he
    obtain ⟨-, e', he', -⟩ := due_before hs hlt
    rw [answered_eq_none hn] at he'
    cases he'
  · rw [answered_eq_none hn] at he
    cases he

end Stands

/-! ## All attempts -/

/-- The account of a run from an attempt on. -/
theorem account_of_runFrom {fuel k : Nat} {now : Moment} {r : Run}
    (h : p.Stands checks start limits k now)
    (hr : p.runFrom checks limits fuel k now = some r) : p.Account checks start limits k r := by
  induction fuel generalizing k now r with
  | zero => cases hr
  | succ fuel ih =>
    obtain ⟨x, hg, hx⟩ := runFrom_goes limits h.due fuel
    rw [hx, Option.bind_eq_some_iff] at hr
    obtain ⟨y, rfl, hr⟩ := hr
    cases y with
    | inl r' =>
      cases hr
      exact h.ended hg
    | inr next =>
      obtain ⟨hs, hnext⟩ := h.next hg
      obtain ⟨r', hr', rfl⟩ := Option.map_eq_some_iff.mp hr
      have ha := ih hnext hr'
      refine ⟨by simp [Run.after, ha.numbered, List.range'_succ], ?_, ?_⟩
      · intro j s
        simp only [Run.after, List.mem_cons, Prod.mk.injEq, ha.calls]
        constructor
        · rintro (⟨rfl, rfl⟩ | ⟨hj, hb⟩)
          · exact ⟨Nat.le_refl _, h.begun hs⟩
          · exact ⟨Nat.le_of_succ_le hj, hb⟩
        · rintro ⟨hj, hb⟩
          rcases Nat.lt_or_eq_of_le hj with hlt | rfl
          · exact Or.inr ⟨hlt, hb⟩
          · exact Or.inl ⟨rfl, Option.some.inj (hb.due.symm.trans h.due)⟩
      · cases ha.fate with
        | closed j hc => exact .closed j hc
        | cut t why hf never outcome ended => exact .cut t why hf never outcome ended

/-- If a run from an attempt on does not end though something ends it, more attempts are begun than
can be made. -/
theorem of_runFrom_eq_none {fuel k : Nat} {now : Moment} (h : p.Stands checks start limits k now)
    (hend : limits.first ≠ none ∨ ∃ o e, p.Ends checks start o e)
    (hr : p.runFrom checks limits fuel k now = none) :
    ∃ s, p.due checks start (k + fuel) = some s ∧ (0 < fuel → limits.Hears s true) ∧
      ∀ j < fuel, ∀ m, p.due checks start (k + j) = some m → limits.Opens m := by
  induction fuel generalizing k now with
  | zero => exact ⟨now, h.due, nofun, nofun⟩
  | succ fuel ih =>
    obtain ⟨x, hg, hx⟩ := runFrom_goes limits h.due fuel
    rw [hx] at hr
    cases x with
    | none =>
      cases hg with
      | silent hs never free =>
        rcases hend with hend | ⟨o, e, he⟩
        · exact absurd free hend
        · exact absurd he (h.not_ends never)
    | some y =>
      cases y with
      | inl r => cases hr
      | inr next =>
        obtain ⟨hs, hnext⟩ := h.next hg
        obtain ⟨s, hdue, hheard, hopens⟩ := ih hnext (Option.map_eq_none_iff.mp hr)
        rw [Nat.succ_add_eq_add_succ] at hdue
        refine ⟨s, hdue, fun _ => ?_, fun j hj m hm => ?_⟩
        · cases fuel with
          | zero =>
            cases hg with
            | next hs answered heard due hopen =>
              cases due.symm.trans hdue
              exact hopen
          | succ fuel => exact hheard (Nat.succ_pos fuel)
        · cases j with
          | zero =>
            cases h.due.symm.trans hm
            exact (h.begun hs).opens
          | succ j =>
            refine hopens j (Nat.lt_of_succ_lt_succ hj) m ?_
            rwa [Nat.succ_add_eq_add_succ]

/-- A run from an attempt on ends when some later attempt is not begun, and something ends it. -/
theorem runFrom_isSome {n fuel k : Nat} {now : Moment} (h : p.Stands checks start limits k now)
    (hfuel : n < fuel)
    (hfew : ∀ s, p.due checks start (k + n) = some s → ¬ limits.Opens s)
    (hend : limits.first ≠ none ∨ ∃ o e, p.Ends checks start o e) :
    ∃ r, p.runFrom checks limits fuel k now = some r := by
  refine Option.ne_none_iff_exists'.mp fun hr => ?_
  obtain ⟨s, hs, -, hopens⟩ := of_runFrom_eq_none h hend hr
  cases hn : p.due checks start (k + n) with
  | none =>
    rw [due_eq_none_of_le (Nat.add_le_add_left (Nat.le_of_lt hfuel) k) hn] at hs
    cases hs
  | some m => exact hfew m hn (hopens n hfuel m hn)

theorem stands_start (p : Policy) (checks : Checks) (start : Moment) (shutdown : Option Moment) :
    p.Stands checks start (p.limits start shutdown) 0 start where
  due := rfl
  heard i hi := absurd hi (Nat.not_lt_zero i)
  within _ _ _ := Nat.le_max_right _ _
  start_le d limit hd := by
    obtain ⟨l, -, hl⟩ := Option.map_eq_some_iff.mp hd
    cases hl
    exact Nat.le_add_right _ _

/-- The account of a run. -/
theorem account {shutdown : Option Moment} {r : Run} (h : p.run checks start shutdown = some r) :
    p.Account checks start (p.limits start shutdown) 0 r :=
  account_of_runFrom (p.stands_start checks start shutdown) h

theorem run_isSome {shutdown : Option Moment}
    (hfew : ∃ n < attemptBound, ∀ s, p.due checks start n = some s →
      ¬ (p.limits start shutdown).Opens s)
    (hend : (p.limits start shutdown).first ≠ none ∨ ∃ o e, p.Ends checks start o e) :
    ∃ r, p.run checks start shutdown = some r := by
  obtain ⟨n, hn, hdue⟩ := hfew
  exact runFrom_isSome (p.stands_start checks start shutdown) hn (by rwa [Nat.zero_add]) hend

theorem run_isSome_of_maxAttempts {most : Nat} (hmost : p.maxAttempts = some most)
    (hbound : most < attemptBound) (hanswer : ∀ k, (checks k).takes ≠ none)
    (shutdown : Option Moment) : ∃ r, p.run checks start shutdown = some r := by
  have hlast : p.due checks start (max most 1) = none := due_eq_none_of_maxAttempts hmost
  refine run_isSome ⟨max most 1, ?_, fun s hs => ?_⟩ (Or.inr ?_)
  · exact Nat.max_lt.mpr ⟨hbound, by decide⟩
  · rw [hlast] at hs
    cases hs
  · exact ends_of_due_eq_none hlast fun k _ _ => hanswer k

/-! ## What an account says -/

theorem verdict_ne_cancelled {k : Nat} : p.verdict checks k ≠ some (.error .cancelled) := by
  unfold verdict
  cases (checks k).ready <;> cases p.spent (k + 1) <;> simp

namespace Account

variable {r : Run}

/-- The attempts of a run, each in its place. -/
theorem getElem?_calls (h : p.Account checks start limits 0 r) {k j : Nat} {s : Moment} :
    r.calls[k]? = some (j, s) ↔ j = k ∧ p.Begun checks start limits k s := by
  have place {i j : Nat} {s : Moment} (hi : r.calls[i]? = some (j, s)) : j = i := by
    obtain ⟨hlt, he⟩ := List.getElem?_eq_some_iff.mp hi
    have hnum := congrArg (·[i]?) h.numbered
    simpa [List.getElem?_range', hlt, he] using hnum
  constructor
  · intro hk
    obtain rfl := place hk
    exact ⟨rfl, ((h.calls j s).mp (List.mem_of_getElem? hk)).2⟩
  · rintro ⟨rfl, hb⟩
    obtain ⟨i, hi⟩ := List.mem_iff_getElem?.mp ((h.calls j s).mpr ⟨Nat.zero_le j, hb⟩)
    obtain rfl := place hi
    exact hi

/-- An attempt that is followed by another ends nothing. -/
theorem verdict_of_lt (h : p.Account checks start limits 0 r) {k : Nat}
    (hk : k + 1 < r.calls.length) : p.verdict checks k = none := by
  obtain ⟨-, hb⟩ := h.getElem?_calls.mp (List.getElem?_eq_getElem hk)
  exact (due_before hb.due (Nat.lt_succ_self k)).1

theorem length_le (h : p.Account checks start limits 0 r) {most : Nat}
    (hmost : p.maxAttempts = some most) : r.calls.length ≤ max most 1 := by
  rcases Nat.lt_or_ge 1 r.calls.length with hlt | hle
  · obtain ⟨k, hk⟩ : ∃ k, r.calls.length = k + 2 := ⟨r.calls.length - 2, by omega⟩
    have hv := h.verdict_of_lt (k := k) (by omega)
    have hspent := (verdict_eq_none.mp hv).2
    simp only [spent, hmost, decide_eq_false_iff_not] at hspent
    omega
  · exact Nat.le_trans hle (Nat.le_max_right _ _)

/-- The attempts are begun while the run goes on. -/
theorem within (h : p.Account checks start limits 0 r) {j : Nat} {s : Moment}
    (hm : (j, s) ∈ r.calls) : start ≤ s ∧ s ≤ r.ended := by
  have hb := ((h.calls j s).mp hm).2
  refine ⟨start_le_due hb.due, ?_⟩
  cases h.fate with
  | closed k hc =>
    obtain ⟨s', d, hs, -, hended⟩ := answered_eq_some.mp hc.answered
    rw [hended]
    exact Nat.le_trans (due_le_due (le_of_verdict hc.verdict hb.due) hb.due hs)
      (Nat.le_add_right _ _)
  | cut t why hf never outcome ended =>
    have hle := Limits.hears_prompt.mp (Limits.opens_iff.mp hb.opens).2 t why hf
    rw [ended]
    exact Nat.le_trans hle (Nat.le_max_left _ _)

/-- A run succeeds when the answer of some attempt ends it well. -/
theorem outcome_eq_ok (h : p.Account checks start limits 0 r) {n : Nat} :
    r.outcome = .ok n ↔ ∃ k e, p.Closes checks start limits k (.ok n) e := by
  constructor
  · intro ho
    cases h.fate with
    | closed k hc =>
      rw [ho] at hc
      exact ⟨k, r.ended, hc⟩
    | cut t why hf never outcome ended =>
      rw [ho] at outcome
      cases outcome
  · rintro ⟨k, e, hc⟩
    cases h.fate with
    | closed j hj =>
      exact (Ends.unique ⟨j, hj.verdict, hj.answered⟩ ⟨k, hc.verdict, hc.answered⟩).1
    | cut t why hf never outcome ended => exact absurd hc (never k _ e)

/-- A run that succeeds is over with the answer to its last attempt, and that is its first yes. -/
theorem last_of_ok (h : p.Account checks start limits 0 r) {n : Nat} (ho : r.outcome = .ok n) :
    ∃ k, n = k + 1 ∧ r.calls.length = n ∧ (checks k).ready = true ∧
      (∀ i < k, (checks i).ready = false) ∧
        p.Closes checks start limits k r.outcome r.ended := by
  cases h.fate with
  | closed k hc =>
    have hverdict := hc.verdict
    rw [ho] at hverdict
    obtain ⟨hready, rfl⟩ := verdict_eq_ok.mp hverdict
    obtain ⟨s, hb⟩ := hc.begun
    refine ⟨k, rfl, ?_, hready, ?_, hc⟩
    · have hlong : k < r.calls.length :=
        (List.getElem?_eq_some_iff.mp (h.getElem?_calls.mpr ⟨rfl, hb⟩)).1
      refine Nat.le_antisymm (Nat.le_of_not_lt fun hlonger => ?_) hlong
      obtain ⟨-, hnext⟩ := h.getElem?_calls.mp (List.getElem?_eq_getElem hlonger)
      have hnone := hnext.due
      rw [due_succ_of_verdict hverdict] at hnone
      cases hnone
    · intro i hi
      exact (verdict_eq_none.mp (due_before hb.due hi).1).1
  | cut t why hf never outcome ended =>
    rw [ho] at outcome
    cases outcome

/-- Only the shutdown makes a run say that it was cancelled, and then it has come by the end. -/
theorem shutdown_of_cancelled (h : p.Account checks start limits 0 r)
    (ho : r.outcome = .error .cancelled) : ∃ t, limits.shutdown = some t ∧ t ≤ r.ended := by
  cases h.fate with
  | closed k hc =>
    rw [ho] at hc
    exact absurd hc.verdict verdict_ne_cancelled
  | cut t why hf never outcome ended =>
    rw [ho] at outcome
    cases outcome
    rcases Limits.first_cases hf with ⟨ht, -, -⟩ | ⟨limit, -, hwhy, -⟩
    · rw [ended]
      exact ⟨t, ht, Nat.le_max_left t start⟩
    · cases hwhy

theorem outcome_ne_cancelled (h : p.Account checks start limits 0 r)
    (hs : limits.shutdown = none) : r.outcome ≠ .error .cancelled := by
  intro ho
  obtain ⟨t, ht, -⟩ := h.shutdown_of_cancelled ho
  rw [hs] at ht
  cases ht

end Account

end Policy

end Flotilla.Retry
