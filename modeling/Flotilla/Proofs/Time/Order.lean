import Flotilla.Time.Span

/-!
# In order of time

Things with moments are put in order of time by a sort that is stable.  So of what lies in one
moment the order is kept, and a list in order is what lies before a moment, what lies in it and what
lies after it.

Of things that are done, each of a kind, the first of a kind is found by its moment (`first`).
-/

namespace Flotilla.Time

section Sorted

variable {β : Type} (key : β → Nat)

/-- A list in order of time is what lies before a moment, what lies in it and what lies after it. -/
theorem split_of_sorted {l : List β} (h : l.Pairwise fun a b => key a ≤ key b) (F : Nat) :
    l = l.filter (fun x => key x < F) ++
      (l.filter (fun x => key x = F) ++ l.filter (fun x => F < key x)) := by
  induction l with
  | nil => rfl
  | cons x rest ih =>
    obtain ⟨hx, hrest⟩ := List.pairwise_cons.mp h
    have ih := ih hrest
    -- what `x` does not lie before, none of `rest` lies before
    have hbefore (hle : F ≤ key x) : rest.filter (fun y => key y < F) = [] := by
      refine List.filter_eq_nil_iff.mpr fun y hy => ?_
      have := hx y hy
      simp only [decide_eq_true_eq]
      omega
    have hin (hlt : F < key x) : rest.filter (fun y => key y = F) = [] := by
      refine List.filter_eq_nil_iff.mpr fun y hy => ?_
      have := hx y hy
      simp only [decide_eq_true_eq]
      omega
    simp only [List.filter_cons, decide_eq_true_eq]
    rcases Nat.lt_trichotomy (key x) F with hlt | heq | hgt
    · rw [if_pos hlt, if_neg (Nat.ne_of_lt hlt), if_neg (Nat.lt_asymm hlt), List.cons_append, ← ih]
    · have hle : F ≤ key x := Nat.le_of_eq heq.symm
      rw [hbefore hle, List.nil_append] at ih
      rw [if_neg (Nat.not_lt.mpr hle), if_pos heq, if_neg (Nat.not_lt.mpr (Nat.le_of_eq heq)),
        hbefore hle, List.nil_append, List.cons_append, ← ih]
    · have hle : F ≤ key x := Nat.le_of_lt hgt
      rw [hbefore hle, hin hgt, List.nil_append, List.nil_append] at ih
      rw [if_neg (Nat.not_lt.mpr hle), if_neg (Nat.ne_of_gt hgt), if_pos hgt, hbefore hle, hin hgt,
        List.nil_append, List.nil_append, ← ih]

/-- It is also what lies up to a moment and what lies after it. -/
theorem split_of_sorted_le {l : List β} (h : l.Pairwise fun a b => key a ≤ key b) (F : Nat) :
    l = l.filter (fun x => key x ≤ F) ++ l.filter (fun x => F < key x) := by
  induction l with
  | nil => rfl
  | cons x rest ih =>
    obtain ⟨hx, hrest⟩ := List.pairwise_cons.mp h
    have ih := ih hrest
    simp only [List.filter_cons, decide_eq_true_eq]
    rcases Nat.lt_or_ge F (key x) with hlt | hle
    · have hnone : rest.filter (fun y => key y ≤ F) = [] := by
        refine List.filter_eq_nil_iff.mpr fun y hy => ?_
        have := hx y hy
        simp only [decide_eq_true_eq]
        omega
      rw [hnone, List.nil_append] at ih
      rw [if_neg (Nat.not_le.mpr hlt), if_pos hlt, hnone, List.nil_append, ← ih]
    · rw [if_pos hle, if_neg (Nat.not_lt.mpr hle), List.cons_append, ← ih]

theorem le_trans_key (a b c : β) (hab : decide (key a ≤ key b) = true)
    (hbc : decide (key b ≤ key c) = true) : decide (key a ≤ key c) = true :=
  decide_eq_true (Nat.le_trans (of_decide_eq_true hab) (of_decide_eq_true hbc))

theorem le_total_key (a b : β) : (decide (key a ≤ key b) || decide (key b ≤ key a)) = true := by
  simp only [Bool.or_eq_true, decide_eq_true_eq]
  exact Nat.le_total (key a) (key b)

theorem sorted_mergeSort (l : List β) :
    (l.mergeSort fun a b => key a ≤ key b).Pairwise fun a b => key a ≤ key b :=
  (List.pairwise_mergeSort (le_trans_key key) (le_total_key key) l).imp fun h => of_decide_eq_true h

/-- To put a list in order of time keeps the order of what is in order already. -/
theorem filter_mergeSort_of_sorted (l : List β) (p : β → Bool)
    (hsorted : (l.filter p).Pairwise fun a b => key a ≤ key b) :
    (l.mergeSort fun a b => key a ≤ key b).filter p = l.filter p := by
  have hsub := (List.sublist_mergeSort (le_trans_key key) (le_total_key key)
    (hsorted.imp fun h => decide_eq_true h) List.filter_sublist).filter p
  rw [List.filter_filter] at hsub
  simp only [Bool.and_self] at hsub
  exact (hsub.eq_of_length ((List.mergeSort_perm l _).filter _).length_eq.symm).symm

/-- So it is with what lies in one moment. -/
theorem filter_mergeSort (l : List β) (F : Nat) :
    (l.mergeSort fun a b => key a ≤ key b).filter (fun x => key x = F) =
      l.filter (fun x => key x = F) := by
  refine filter_mergeSort_of_sorted key l _ ?_
  refine List.Pairwise.imp_of_mem ?_ (List.pairwise_of_forall fun _ _ => trivial)
  intro a b ha hb _
  rw [List.mem_filter, decide_eq_true_eq] at ha hb
  exact Nat.le_of_eq (ha.2.trans hb.2.symm)

end Sorted

/-! ## The first of a kind -/

section First

variable {D : Type} [DecidableEq D]

/-- The moment of the first thing of a kind. -/
def first (kind : D) (things : List (Moment × D)) : Option Moment :=
  (things.find? fun x => x.2 == kind).map (·.1)

variable {kind : D} {things : List (Moment × D)}

@[simp] theorem first_nil (kind : D) : first kind [] = none := rfl

theorem first_cons (kind : D) (m : Moment) (other : D) (more : List (Moment × D)) :
    first kind ((m, other) :: more) = if other = kind then some m else first kind more := by
  by_cases h : other = kind <;> simp [first, h]

theorem first_append (kind : D) (things more : List (Moment × D)) :
    first kind (things ++ more) = (first kind things).or (first kind more) := by
  rw [first, List.find?_append, Option.map_or, first, first]

theorem mem_of_first {m : Moment} (h : first kind things = some m) : (m, kind) ∈ things := by
  obtain ⟨⟨m', kind'⟩, hfind, rfl⟩ := Option.map_eq_some_iff.mp h
  obtain rfl : kind' = kind := by simpa using List.find?_some hfind
  exact List.mem_of_find?_eq_some hfind

theorem exists_first (h : kind ∈ things.map (·.2)) : ∃ m, first kind things = some m := by
  obtain ⟨x, hx, rfl⟩ := List.mem_map.mp h
  have hsome : (things.find? fun y => y.2 == x.2).isSome :=
    List.find?_isSome.mpr ⟨x, hx, beq_self_eq_true x.2⟩
  obtain ⟨y, hy⟩ := Option.isSome_iff_exists.mp hsome
  exact ⟨y.1, by rw [first, hy, Option.map_some]⟩

theorem first_eq_none : first kind things = none ↔ kind ∉ things.map (·.2) := by
  constructor
  · intro h hm
    obtain ⟨m, hfirst⟩ := exists_first hm
    rw [h] at hfirst
    cases hfirst
  · intro h
    refine Option.eq_none_iff_forall_ne_some.mpr fun m hfirst => h ?_
    exact List.mem_map.mpr ⟨_, mem_of_first hfirst, rfl⟩

end First

end Flotilla.Time
