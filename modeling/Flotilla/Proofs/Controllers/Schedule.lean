import Flotilla.Proofs.Controllers.Stopping

/-!
# The schedule of the passes

A pass of the service controller takes as long as its lookups, so it can be under way when the next
one is due.  `Service.nth` has the passes of a controller that is not stopped, each with the moments
at which it begins and ends.  The list of the passes of any controller is read off from it
(`Service.getElem?_passes`).

A pass begins when it is due or, if another is under way then, when that one ends.  So it ends a run
of passes that follow one another without a pause, the first of which was on time
(`Service.streak`).

The completed passes are the first ones, and a controller does what they do
(`Service.run_eq_completed`).

The passes of the node controller take no time.
-/

namespace Flotilla.Controllers

open Apiserver (Informers)
open Std (ExtTreeSet)
open Time (Moment)

namespace Activity

/-- What a controller of a name writes to the metrics. -/
def writes (a : Activity) (controller : String) : List Metrics.Write :=
  a.filterMap fun x => x.2.write? controller

variable {a b : Activity}

theorem mem_upTo {t : Moment} {x : Moment × Effect} : x ∈ a.upTo t ↔ x ∈ a ∧ x.1 ≤ t := by
  simp only [upTo, List.mem_filter, decide_eq_true_eq]

theorem upTo_append (t : Moment) : Activity.upTo (a ++ b) t = a.upTo t ++ b.upTo t :=
  List.filter_append _ _

theorem writes_append (controller : String) :
    writes (a ++ b) controller = a.writes controller ++ b.writes controller :=
  List.filterMap_append

/-- Lines in the log write nothing. -/
theorem writes_eq_nil {controller : String} (h : ∀ x ∈ a, ∃ line, x.2 = .log line) :
    a.writes controller = [] := by
  refine List.filterMap_eq_nil_iff.mpr fun x hx => ?_
  obtain ⟨line, hline⟩ := h x hx
  rw [hline]
  rfl

end Activity

theorem Lookups.le_finish (start : Moment) (pieces : List (Moment × Moment)) :
    start ≤ finish start pieces := by
  induction pieces generalizing start with
  | nil => exact Nat.le_refl start
  | cons piece rest ih =>
    exact Nat.le_trans (Nat.le_max_left start piece.2) (ih (max start piece.2))

namespace Term

variable {t : Term}

theorem due_zero (t : Term) (since : Moment) : t.due since 0 = since := by
  rw [due, Nat.zero_mul, Nat.add_zero]

theorem due_succ (t : Term) (since : Moment) (k : Nat) :
    t.due since (k + 1) = t.due since k + t.period := by
  simp only [due, Nat.add_mul, Nat.one_mul, Nat.add_assoc]

theorem le_due (t : Term) (since : Moment) (k : Nat) : since ≤ t.due since k :=
  Nat.le_add_right _ _

/-- The passes that are counted at a moment are those that are due by then. -/
theorem lt_dueBy (hperiod : 0 < t.period) {k : Nat} {since horizon : Moment} :
    k < t.dueBy since horizon ↔ t.due since k ≤ horizon := by
  unfold dueBy due
  split
  · next hle =>
    rw [Nat.lt_succ_iff, Nat.le_div_iff_mul_le hperiod]
    exact Nat.le_sub_iff_add_le' hle
  · next hlt =>
    constructor
    · intro h
      exact absurd h (Nat.not_lt_zero k)
    · intro h
      exact absurd (Nat.le_trans (Nat.le_add_right _ _) h) hlt

theorem start_le_of_mem_leave {wait : Wait} (hwait : t.Timely wait) {line : LogLine}
    {x : Moment × Effect} (hx : x ∈ t.leave wait line) : t.start ≤ x.1 := by
  unfold leave at hx
  split at hx
  · obtain rfl := List.mem_singleton.mp hx
    exact (hwait _ rfl).1
  · obtain rfl := List.mem_singleton.mp hx
    exact Nat.le_max_left _ _
  · cases hx

theorem log_of_mem_leave {wait : Wait} {line : LogLine} {x : Moment × Effect}
    (hx : x ∈ t.leave wait line) : x.2 = .log line := by
  unfold leave at hx
  split at hx
  · rw [List.mem_singleton.mp hx]
  · rw [List.mem_singleton.mp hx]
  · cases hx

end Term

namespace Service

variable {t : Term}

/-- The passes of a controller whose token never fires. -/
def nth (t : Term) : Nat → Pass
  | 0 => passAt t (since t) ∅
  | k + 1 => passAt t (max (t.due (since t) (k + 1)) (nth t k).ended) (nth t k).known

/-- The load balancers that are known when a pass begins. -/
def knownBefore (t : Term) : Nat → ExtTreeSet String
  | 0 => ∅
  | k + 1 => (nth t k).known

theorem nth_eq (t : Term) (k : Nat) : nth t k = passAt t (nth t k).begun (knownBefore t k) := by
  cases k with
  | zero => rfl
  | succ k => rfl

theorem begun_le_ended_passAt (t : Term) (m : Moment) (known : ExtTreeSet String) :
    m ≤ (passAt t m known).ended :=
  Lookups.le_finish m _

theorem begun_le_ended (t : Term) (k : Nat) : (nth t k).begun ≤ (nth t k).ended := by
  cases k with
  | zero => exact begun_le_ended_passAt t _ _
  | succ k => exact begun_le_ended_passAt t _ _

/-! ## When a pass begins -/

theorem start_le_since (t : Term) : t.start ≤ since t :=
  Nat.le_trans (t.start_le_listedAt _) (Nat.le_max_left _ _)

theorem start_le_due (t : Term) (k : Nat) : t.start ≤ t.due (since t) k :=
  Nat.le_trans (start_le_since t) (t.le_due _ k)

@[simp] theorem begun_zero (t : Term) : (nth t 0).begun = since t := rfl

theorem due_le_begun (t : Term) (k : Nat) : t.due (since t) k ≤ (nth t k).begun := by
  cases k with
  | zero =>
    rw [Term.due_zero]
    exact Nat.le_refl _
  | succ k => exact Nat.le_max_left _ _

theorem ended_le_begun_succ (t : Term) (k : Nat) : (nth t k).ended ≤ (nth t (k + 1)).begun :=
  Nat.le_max_right _ _

theorem ended_le_begun (t : Term) {i k : Nat} (h : i < k) : (nth t i).ended ≤ (nth t k).begun := by
  induction k with
  | zero => exact absurd h (Nat.not_lt_zero i)
  | succ k ih =>
    have hk := ended_le_begun_succ t k
    rcases Nat.lt_succ_iff_lt_or_eq.mp h with hlt | rfl
    · exact Nat.le_trans (ih hlt) (Nat.le_trans (begun_le_ended t k) hk)
    · exact hk

theorem ended_mono (t : Term) {i k : Nat} (h : i ≤ k) : (nth t i).ended ≤ (nth t k).ended := by
  rcases Nat.lt_or_eq_of_le h with hlt | rfl
  · exact Nat.le_trans (ended_le_begun t hlt) (begun_le_ended t k)
  · exact Nat.le_refl _

/-- Every pass ends a run of passes without a pause between them that began on time. -/
theorem streak (t : Term) (k : Nat) :
    ∃ i, i ≤ k ∧ (nth t i).begun = t.due (since t) i ∧
      ∀ j, i ≤ j → j < k → (nth t (j + 1)).begun = (nth t j).ended := by
  induction k with
  | zero =>
    refine ⟨0, Nat.le_refl 0, ?_, ?_⟩
    · rw [begun_zero, Term.due_zero]
    · intro j _ hj
      exact absurd hj (Nat.not_lt_zero j)
  | succ k ih =>
    obtain ⟨i, hi, hbegun, hrun⟩ := ih
    rcases Nat.le_total (nth t k).ended (t.due (since t) (k + 1)) with hle | hle
    · -- the pass is on time
      refine ⟨k + 1, Nat.le_refl _, Nat.max_eq_left hle, ?_⟩
      intro j hj hlt
      exact absurd hlt (Nat.not_lt.mpr hj)
    · refine ⟨i, Nat.le_succ_of_le hi, hbegun, ?_⟩
      intro j hj hlt
      rcases Nat.lt_succ_iff_lt_or_eq.mp hlt with hlt | rfl
      · exact hrun j hj hlt
      · exact Nat.max_eq_right hle

/-! ## The passes that are made -/

/-- A pass that is begun is the first, and others follow if it is completed. -/
theorem passesFrom_succ (count : Nat) {k : Nat} {free : Moment} {known : ExtTreeSet String}
    (hk : nth t k = passAt t (max (t.due (since t) k) free) known) :
    passesFrom t (count + 1) k free known =
      if t.stoppedBy (nth t k).begun then []
      else (nth t k, !t.stoppedBy (nth t k).ended) ::
        if t.stoppedBy (nth t k).ended then []
        else passesFrom t count (k + 1) (nth t k).ended (nth t k).known := by
  have hbegun : max (t.due (since t) k) free = (nth t k).begun := by rw [hk]; rfl
  rw [hbegun] at hk
  simp only [passesFrom, hbegun, ← hk]
  cases t.stoppedBy (nth t k).ended with
  | true => rfl
  | false => rfl

/-- The passes from one on, given where they stand then. -/
theorem getElem?_passesFrom (count : Nat) {k : Nat} {free : Moment} {known : ExtTreeSet String}
    (hk : nth t k = passAt t (max (t.due (since t) k) free) known) {i : Nat} {pass : Pass}
    {completed : Bool} :
    (passesFrom t count k free known)[i]? = some (pass, completed) ↔
      i < count ∧ pass = nth t (k + i) ∧ t.stoppedBy pass.begun = false ∧
        completed = !t.stoppedBy pass.ended := by
  induction count generalizing k free known i with
  | zero => simp [passesFrom]
  | succ count ih =>
    -- later passes begin when this one has ended
    have hlater {m : Moment} (hstopped : t.stoppedBy m = true) (hm : m ≤ (nth t (k + i)).begun) :
        t.stoppedBy (nth t (k + i)).begun ≠ false := by
      intro h
      rw [Term.stoppedBy_mono hm h] at hstopped
      cases hstopped
    rw [passesFrom_succ count hk]
    cases hopen : t.stoppedBy (nth t k).begun with
    | true =>
      rw [if_pos rfl]
      constructor
      · intro h
        cases h
      · rintro ⟨-, rfl, h, -⟩
        refine absurd h (hlater hopen ?_)
        rcases Nat.eq_zero_or_pos i with rfl | hi
        · exact Nat.le_refl _
        · exact Nat.le_trans (begun_le_ended t k) (ended_le_begun t (by omega))
    | false =>
      rw [if_neg Bool.false_ne_true]
      cases i with
      | zero =>
        simp only [List.getElem?_cons_zero, Option.some.injEq, Prod.mk.injEq, Nat.zero_lt_succ,
          Nat.add_zero, true_and]
        constructor
        · rintro ⟨rfl, rfl⟩
          exact ⟨rfl, hopen, rfl⟩
        · rintro ⟨rfl, -, rfl⟩
          exact ⟨rfl, rfl⟩
      | succ i =>
        rw [List.getElem?_cons_succ]
        split
        · next hstopped =>
          constructor
          · intro h
            cases h
          · rintro ⟨-, rfl, h, -⟩
            exact absurd h (hlater hstopped (ended_le_begun t (by omega)))
        · rw [ih rfl, Nat.add_lt_add_iff_right, Nat.add_right_comm, Nat.add_assoc]

theorem nth_zero_eq (t : Term) : nth t 0 = passAt t (max (t.due (since t) 0) (since t)) ∅ := by
  rw [Term.due_zero, Nat.max_self]
  rfl

theorem of_getElem?_passes {horizon : Moment} {k : Nat} {x : Pass × Bool}
    (h : (passes t horizon)[k]? = some x) : x.1 = nth t k ∧ x.2 = !t.stoppedBy x.1.ended := by
  unfold passes at h
  split at h
  · obtain ⟨-, hpass, -, hcompleted⟩ := (getElem?_passesFrom _ (nth_zero_eq t)).mp h
    rw [Nat.zero_add] at hpass
    exact ⟨hpass, hcompleted⟩
  · cases h

/-- The passes of a controller that are due by a moment. -/
theorem getElem?_passes (hperiod : 0 < t.period) {horizon : Moment} {k : Nat} {pass : Pass}
    {completed : Bool} :
    (passes t horizon)[k]? = some (pass, completed) ↔
      wait t = .ready ∧ t.due (since t) k ≤ horizon ∧ pass = nth t k ∧ t.stoppedBy pass.begun = false ∧
        completed = !t.stoppedBy pass.ended := by
  unfold passes
  split
  · next hready =>
    rw [getElem?_passesFrom (t.dueBy (since t) horizon) (nth_zero_eq t), Term.lt_dueBy hperiod, Nat.zero_add]
    simp [hready]
  · next hwait =>
    constructor
    · intro h
      cases h
    · rintro ⟨hready, -⟩
      exact absurd hready hwait

/-! ## What the passes do -/

theorem passes_sorted (t : Term) (horizon : Moment) :
    (passes t horizon).Pairwise fun x y => x.1.ended ≤ y.1.ended := by
  rw [List.pairwise_iff_getElem]
  intro i j hi hj hij
  rw [(of_getElem?_passes (List.getElem?_eq_getElem hi)).1,
    (of_getElem?_passes (List.getElem?_eq_getElem hj)).1]
  exact ended_mono t (Nat.le_of_lt hij)

theorem done_sorted (t : Term) (withLookups : Bool) (horizon : Moment) :
    (done t withLookups horizon).Pairwise fun x y => x.1 ≤ y.1 := by
  unfold done
  rw [List.pairwise_flatMap]
  have atEnd {x : Pass × Bool} {e : Moment × Effect}
      (he : e ∈ if x.2 then passEffects t withLookups x.1 else []) : e.1 = x.1.ended := by
    split at he
    · exact (of_mem_passEffects he).1
    · cases he
  constructor
  · intro x _
    refine List.Pairwise.imp_of_mem ?_ (List.pairwise_of_forall fun _ _ => trivial)
    intro a b ha hb _
    exact Nat.le_of_eq ((atEnd ha).trans (atEnd hb).symm)
  · refine (passes_sorted t horizon).imp ?_
    intro x y hle a ha b hb
    rw [atEnd ha, atEnd hb]
    exact hle

theorem start_le_of_mem_done {withLookups : Bool} {horizon : Moment} {x : Moment × Effect}
    (hx : x ∈ done t withLookups horizon) : t.start ≤ x.1 := by
  obtain ⟨⟨pass, completed⟩, hp, hx⟩ := List.mem_flatMap.mp hx
  obtain ⟨k, hk⟩ := List.mem_iff_getElem?.mp hp
  obtain rfl : pass = nth t k := (of_getElem?_passes hk).1
  cases completed with
  | false => cases hx
  | true =>
    rw [(of_mem_passEffects hx).1]
    exact Nat.le_trans (start_le_due t k) (Nat.le_trans (due_le_begun t k) (begun_le_ended t k))

theorem le_of_mem_leave {withLookups : Bool} {horizon : Moment} {line : LogLine}
    {x y : Moment × Effect} (hx : x ∈ done t withLookups horizon)
    (hy : y ∈ t.leave (wait t) line) : x.1 ≤ y.1 := by
  obtain ⟨p, hp, -⟩ := List.mem_flatMap.mp hx
  rw [wait_of_mem_passes hp] at hy
  cases hstop : t.stop with
  | none => simp [Term.leave, hstop] at hy
  | some T =>
    simp only [Term.leave, hstop, List.mem_singleton] at hy
    rw [hy]
    exact Nat.le_trans (Nat.le_of_lt (of_mem_done hstop hx).1) (Nat.le_max_right _ T)

/-- Nothing is done before the start. -/
theorem start_le_of_mem_run {withLookups : Bool} {horizon : Moment} {x : Moment × Effect}
    (hx : x ∈ run t withLookups horizon) : t.start ≤ x.1 := by
  rw [run_eq] at hx
  have hx := (List.mem_filter.mp hx).1
  simp only [List.cons_append, List.mem_cons, List.mem_append] at hx
  rcases hx with rfl | hx | hx
  · exact Nat.le_refl _
  · exact start_le_of_mem_done hx
  · exact Term.start_le_of_mem_leave (timely_wait t) hx

/-- What a controller does it does in order of time. -/
theorem run_sorted (t : Term) (withLookups : Bool) (horizon : Moment) :
    (run t withLookups horizon).Pairwise fun x y => x.1 ≤ y.1 := by
  rw [run_eq]
  refine List.Pairwise.filter _ ?_
  rw [List.cons_append, List.pairwise_cons, List.pairwise_append]
  refine ⟨?_, done_sorted t withLookups horizon, ?_, ?_⟩
  · intro x hx
    rcases List.mem_append.mp hx with hx | hx
    · exact start_le_of_mem_done hx
    · exact Term.start_le_of_mem_leave (timely_wait t) hx
  · unfold Term.leave
    split
    · exact List.pairwise_singleton _ _
    · exact List.pairwise_singleton _ _
    · exact List.Pairwise.nil
  · intro x hx y hy
    exact le_of_mem_leave hx hy

/-! ## The passes that are completed -/

/-- The passes completed by a moment. -/
def completed (t : Term) (horizon : Moment) : List Pass :=
  ((passes t horizon).filter fun x => x.2 && decide (x.1.ended ≤ horizon)).map (·.1)

/-- What is kept of a list is its beginning, if nothing is kept after what is not. -/
theorem filter_eq_take {α : Type} {p : α → Bool} {l : List α}
    (h : l.Pairwise fun x y => p y = true → p x = true) :
    ∃ n, l.filter p = l.take n ∧ ∀ k x, l[k]? = some x → (k < n ↔ p x = true) := by
  induction l with
  | nil => exact ⟨0, rfl, fun k x hx => by cases hx⟩
  | cons a l ih =>
    obtain ⟨ha, hl⟩ := List.pairwise_cons.mp h
    cases hp : p a with
    | true =>
      obtain ⟨n, hn, hlt⟩ := ih hl
      refine ⟨n + 1, by rw [List.filter_cons_of_pos hp, hn, List.take_succ_cons], ?_⟩
      intro k x hx
      cases k with
      | zero =>
        cases hx
        simp [hp]
      | succ k => rw [Nat.succ_lt_succ_iff, hlt k x hx]
    | false =>
      have hnone : ∀ x ∈ a :: l, p x = false := by
        intro x hx
        rcases List.mem_cons.mp hx with rfl | hx
        · exact hp
        · exact Bool.eq_false_iff.mpr fun hpx => by simp [ha x hx hpx] at hp
      refine ⟨0, List.filter_eq_nil_iff.mpr fun x hx => by simp [hnone x hx], ?_⟩
      intro k x hx
      simp [hnone x (List.mem_of_getElem? hx)]

/-- The completed passes are the first ones. -/
theorem getElem?_completed {horizon : Moment} {k : Nat} {pass : Pass} :
    (completed t horizon)[k]? = some pass ↔
      (passes t horizon)[k]? = some (pass, true) ∧ pass.ended ≤ horizon := by
  have hfirst : (passes t horizon).Pairwise fun x y =>
      (y.2 && decide (y.1.ended ≤ horizon)) = true →
        (x.2 && decide (x.1.ended ≤ horizon)) = true := by
    have hflag {x : Pass × Bool} (hx : x ∈ passes t horizon) : x.2 = !t.stoppedBy x.1.ended := by
      obtain ⟨k, hk⟩ := List.mem_iff_getElem?.mp hx
      exact (of_getElem?_passes hk).2
    refine (passes_sorted t horizon).imp_of_mem ?_
    intro x y hx hy hle h
    rw [hflag hy, Bool.and_eq_true, Bool.not_eq_true', decide_eq_true_eq] at h
    rw [hflag hx, Term.stoppedBy_mono hle h.1]
    exact decide_eq_true (Nat.le_trans hle h.2)
  obtain ⟨n, htake, hlt⟩ := filter_eq_take hfirst
  rw [completed, htake, List.getElem?_map, List.getElem?_take]
  constructor
  · intro h
    obtain ⟨⟨pass', flag⟩, hx, rfl⟩ := Option.map_eq_some_iff.mp h
    split at hx
    · next hk =>
      obtain ⟨hflag, hended⟩ := by simpa using (hlt k _ hx).mp hk
      exact ⟨by rw [hx, hflag], hended⟩
    · cases hx
  · rintro ⟨hx, hended⟩
    rw [if_pos ((hlt k _ hx).mpr (by simpa using hended)), hx]
    rfl

theorem completed_eq_map (t : Term) (horizon : Moment) :
    completed t horizon = (List.range (completed t horizon).length).map (nth t) := by
  refine List.ext_getElem? fun k => ?_
  rw [List.getElem?_map]
  rcases Nat.lt_or_ge k (completed t horizon).length with hk | hk
  · have hpass := List.getElem?_eq_getElem hk
    rw [hpass, List.getElem?_range hk]
    exact congrArg some (of_getElem?_passes (getElem?_completed.mp hpass).1).1
  · rw [List.getElem?_eq_none hk, List.getElem?_eq_none (by simpa using hk)]
    rfl

theorem completed_prefix (t : Term) (horizon : Moment) :
    completed t horizon <+: (passes t horizon).map (·.1) := by
  rw [List.prefix_iff_getElem?]
  intro k hk
  rw [List.getElem?_map, (getElem?_completed.mp (List.getElem?_eq_getElem hk)).1]
  rfl

/-- A pass is completed when it has ended, unless the token fires before that. -/
theorem lt_length_completed (hperiod : 0 < t.period) {horizon : Moment} {k : Nat} :
    k < (completed t horizon).length ↔
      wait t = .ready ∧ (nth t k).ended ≤ horizon ∧ t.stoppedBy (nth t k).ended = false := by
  constructor
  · intro hk
    obtain ⟨hpass, hended⟩ := getElem?_completed.mp (List.getElem?_eq_getElem hk)
    obtain ⟨hready, -, hnth, -, hcompleted⟩ := (getElem?_passes hperiod).mp hpass
    rw [hnth] at hended hcompleted
    exact ⟨hready, hended, by simpa using hcompleted⟩
  · rintro ⟨hready, hended, hopen⟩
    have hbegun := begun_le_ended t k
    have hpass := (getElem?_passes hperiod).mpr ⟨hready,
      Nat.le_trans (due_le_begun t k) (Nat.le_trans hbegun hended), rfl,
      Term.stoppedBy_mono hbegun hopen, rfl⟩
    rw [hopen] at hpass
    exact (List.getElem?_eq_some_iff.mp (getElem?_completed.mpr ⟨hpass, hended⟩)).1

theorem length_completed (hready : wait t = .ready) (hperiod : 0 < t.period) {horizon : Moment}
    (hopen : t.stoppedBy horizon = false) {count : Nat}
    (hcount : ∀ k, k < count ↔ (nth t k).ended ≤ horizon) :
    (completed t horizon).length = count := by
  have hlt (k : Nat) : k < (completed t horizon).length ↔ k < count := by
    rw [lt_length_completed hperiod, hcount]
    constructor
    · rintro ⟨-, hended, -⟩
      exact hended
    · intro hended
      exact ⟨hready, hended, Term.stoppedBy_mono hended hopen⟩
  exact Nat.le_antisymm (Nat.le_of_not_lt fun h => Nat.lt_irrefl _ ((hlt _).mp h))
    (Nat.le_of_not_lt fun h => Nat.lt_irrefl _ ((hlt _).mpr h))

/-- A pass does everything at its end. -/
theorem upTo_passEffects (t : Term) (withLookups : Bool) (pass : Pass) (horizon : Moment) :
    (passEffects t withLookups pass).upTo horizon =
      if pass.ended ≤ horizon then passEffects t withLookups pass else [] := by
  split
  · next hle =>
    refine upTo_eq_self fun x hx => ?_
    rw [(of_mem_passEffects hx).1]
    exact hle
  · next hlt =>
    refine List.eq_nil_iff_forall_not_mem.mpr fun x hx => ?_
    obtain ⟨hx, hle⟩ := Activity.mem_upTo.mp hx
    rw [(of_mem_passEffects hx).1] at hle
    exact hlt hle

theorem upTo_done (t : Term) (withLookups : Bool) (horizon : Moment) :
    (done t withLookups horizon).upTo horizon =
      (completed t horizon).flatMap (passEffects t withLookups) := by
  unfold done completed
  induction passes t horizon with
  | nil => rfl
  | cons x l ih =>
    obtain ⟨pass, flag⟩ := x
    rw [List.flatMap_cons, Activity.upTo_append, ih]
    cases flag with
    | false => rfl
    | true =>
      simp only [if_true, upTo_passEffects]
      by_cases hended : pass.ended ≤ horizon <;> simp [hended]

/-- A controller says that it starts, does what its completed passes do, and may say at last that
it stops. -/
theorem run_eq_completed (t : Term) (withLookups : Bool) (horizon : Moment) :
    run t withLookups horizon = Activity.upTo [(t.start, .log (startLine t))] horizon ++
      (completed t horizon).flatMap (passEffects t withLookups) ++
      (t.leave (wait t) (stopLine t)).upTo horizon := by
  rw [run_eq, ← List.singleton_append, Activity.upTo_append, Activity.upTo_append, upTo_done]

/-! ## What is written -/

/-- A pass counts itself and sets the number of its load balancers. -/
theorem writes_passEffects (t : Term) (withLookups : Bool) (pass : Pass) :
    (passEffects t withLookups pass).writes name =
      [.sync name, .objects name pass.summary.loadBalancers] := by
  rw [passEffects, Activity.writes_append, Activity.writes_eq_nil, List.nil_append]
  · rfl
  · intro x hx
    obtain ⟨line, -, rfl⟩ := List.mem_map.mp hx
    exact ⟨line, rfl⟩

/-- What a controller writes its completed passes write. -/
theorem writes_run_eq (t : Term) (withLookups : Bool) (horizon : Moment) :
    (run t withLookups horizon).writes name = (completed t horizon).flatMap fun pass =>
      [.sync name, .objects name pass.summary.loadBalancers] := by
  have hfirst : Activity.writes (Activity.upTo [(t.start, .log (startLine t))] horizon) name = [] :=
    Activity.writes_eq_nil fun x hx =>
      ⟨startLine t, by rw [List.mem_singleton.mp (Activity.mem_upTo.mp hx).1]⟩
  have hlast : Activity.writes (Activity.upTo (t.leave (wait t) (stopLine t)) horizon) name = [] :=
    Activity.writes_eq_nil fun x hx =>
      ⟨stopLine t, Term.log_of_mem_leave (Activity.mem_upTo.mp hx).1⟩
  rw [run_eq_completed, Activity.writes_append, Activity.writes_append, hfirst, hlast,
    List.nil_append, List.append_nil, Activity.writes, List.filterMap_flatMap]
  exact congrArg (List.flatMap · _) (funext (writes_passEffects t withLookups))

/-- By a moment a controller has written what its passes wrote that have ended by then. -/
theorem writes_run (hready : wait t = .ready) (hperiod : 0 < t.period) {horizon : Moment}
    (hopen : t.stoppedBy horizon = false) {count : Nat}
    (hcount : ∀ k, k < count ↔ (nth t k).ended ≤ horizon) (withLookups : Bool) :
    (run t withLookups horizon).writes name = (List.range count).flatMap fun k =>
      [.sync name, .objects name (nth t k).summary.loadBalancers] := by
  rw [writes_run_eq, completed_eq_map, length_completed hready hperiod hopen hcount,
    List.flatMap_map]

theorem writes_run_of_no_pass {horizon : Moment} (hnone : passes t horizon = [])
    (withLookups : Bool) : (run t withLookups horizon).writes name = [] := by
  rw [writes_run_eq, completed, hnone]
  rfl

end Service

namespace Node

variable {t : Term}

theorem due_le_of_mem_passesFrom {count k : Nat} {previous : Readiness} {x : Moment × Effect}
    (hx : x ∈ passesFrom t count k previous) : t.due (since t) k ≤ x.1 := by
  induction count generalizing k previous with
  | zero => cases hx
  | succ count ih =>
    simp only [passesFrom] at hx
    split at hx
    · cases hx
    · rcases List.mem_append.mp hx with hx | hx
      · exact Nat.le_of_eq (of_mem_passEffects hx).1.symm
      · refine Nat.le_trans ?_ (ih hx)
        rw [Term.due_succ]
        exact Nat.le_add_right _ _

theorem start_le_of_mem_run {horizon : Moment} {x : Moment × Effect} (hx : x ∈ run t horizon) :
    t.start ≤ x.1 := by
  rw [run_eq] at hx
  have hx := (List.mem_filter.mp hx).1
  simp only [List.cons_append, List.mem_cons, List.mem_append] at hx
  rcases hx with rfl | hx | hx
  · exact Nat.le_refl _
  · unfold done at hx
    split at hx
    · have hstart : t.start ≤ t.due (since t) 0 :=
        Nat.le_trans (t.start_le_listedAt _) (t.le_due _ 0)
      exact Nat.le_trans hstart (due_le_of_mem_passesFrom hx)
    · cases hx
  · exact Term.start_le_of_mem_leave (t.timely_waitFor _) hx

/-! ## The passes that are counted -/

/-- A pass counts itself once. -/
theorem syncs_passEffects (m : Moment) (previous current : Readiness) :
    (passEffects t m previous current).filter (fun x => x.2 = .sync) = [(m, .sync)] := by
  have hlines : ((transitions previous current).map fun change =>
      (m, Effect.log (change.line t.cluster))).filter (fun x => x.2 = .sync) = [] := by
    refine List.filter_eq_nil_iff.mpr fun x hx => ?_
    obtain ⟨change, -, rfl⟩ := List.mem_map.mp hx
    simp
  rw [passEffects, List.filter_append, hlines, List.nil_append]
  rfl

theorem syncs_passesFrom {count k : Nat} {previous : Readiness}
    (hopen : ∀ i < count, t.stoppedBy (t.due (since t) (k + i)) = false) :
    (passesFrom t count k previous).filter (fun x => x.2 = .sync) =
      (List.range' k count).map fun i => (t.due (since t) i, .sync) := by
  induction count generalizing k previous with
  | zero => rfl
  | succ count ih =>
    have hfirst : t.stoppedBy (t.due (since t) k) = false := hopen 0 (Nat.zero_lt_succ count)
    have hrest : ∀ i < count, t.stoppedBy (t.due (since t) (k + 1 + i)) = false := by
      intro i hi
      have h := hopen (i + 1) (Nat.succ_lt_succ hi)
      rwa [Nat.add_right_comm, Nat.add_assoc]
    simp only [passesFrom, hfirst, Bool.false_eq_true, if_false, List.filter_append,
      syncs_passEffects, ih hrest, List.range'_succ, List.map_cons, List.singleton_append]

/-- By a moment all passes are counted that are due by then. -/
theorem syncs_run (hready : wait t = .ready) (hperiod : 0 < t.period) {horizon : Moment}
    (hopen : t.stoppedBy horizon = false) :
    (run t horizon).filter (fun x => x.2 = .sync) =
      (List.range (t.dueBy (since t) horizon)).map fun k => (t.due (since t) k, .sync) := by
  have hdue {k : Nat} (hk : k < t.dueBy (since t) horizon) : t.due (since t) k ≤ horizon :=
    (Term.lt_dueBy hperiod).mp hk
  have hdone : (done t horizon).filter (fun x => x.2 = .sync) =
      (List.range (t.dueBy (since t) horizon)).map fun k => (t.due (since t) k, .sync) := by
    simp only [done, hready]
    rw [syncs_passesFrom, List.range_eq_range']
    intro i hi
    rw [Nat.zero_add]
    exact Term.stoppedBy_mono (hdue hi) hopen
  have hlast : (t.leave (wait t) (stopLine t)).filter (fun x => x.2 = .sync) = [] :=
    List.filter_eq_nil_iff.mpr fun x hx => by simp [Term.log_of_mem_leave hx]
  have hcomm (a : Activity) : (a.upTo horizon).filter (fun x => x.2 = .sync) =
      Activity.upTo (a.filter fun x => x.2 = .sync) horizon := by
    simp only [Activity.upTo, List.filter_filter, Bool.and_comm]
  rw [run_eq, hcomm, List.filter_append, List.filter_cons, if_neg (by simp), hdone, hlast,
    List.append_nil]
  refine upTo_eq_self fun x hx => ?_
  obtain ⟨k, hk, rfl⟩ := List.mem_map.mp hx
  exact hdue (List.mem_range.mp hk)

end Node

end Flotilla.Controllers
