import Std.Data.ExtTreeMap
import Std.Data.ExtTreeSet

/-!
# Laws of tables

What a table gives for a key after an entry was put in or taken out, with the keys
compared by equality, and the lists of what tables and sets hold.
-/

namespace Flotilla

open Std (ExtTreeMap ExtTreeSet)

variable {K V : Type} [Ord K] [Std.TransOrd K] [Std.LawfulEqOrd K] [DecidableEq K]

theorem lookup_insert (m : ExtTreeMap K V) (a k : K) (v : V) :
    (m.insert a v)[k]? = if a = k then some v else m[k]? := by
  simp [ExtTreeMap.getElem?_insert]

theorem lookup_erase (m : ExtTreeMap K V) (a k : K) :
    (m.erase a)[k]? = if a = k then none else m[k]? := by
  simp [ExtTreeMap.getElem?_erase]

theorem getD_insert (m : ExtTreeMap K V) (a k : K) (v w : V) :
    (m.insert a v).getD k w = if a = k then v else m.getD k w := by
  simp [ExtTreeMap.getD_insert]

theorem getD_erase (m : ExtTreeMap K V) (a k : K) (w : V) :
    (m.erase a).getD k w = if a = k then w else m.getD k w := by
  simp [ExtTreeMap.getD_erase]

omit [DecidableEq K] in
/-- What was taken out cannot be taken out again. -/
theorem erase_erase (m : ExtTreeMap K V) (a : K) : (m.erase a).erase a = m.erase a := by
  classical
  refine ExtTreeMap.ext_getElem? fun k => ?_
  rw [lookup_erase]
  split
  · next h => rw [lookup_erase, if_pos h]
  · rfl

omit [Std.LawfulEqOrd K] [DecidableEq K] in
/-- The values are listed in the order of their keys. -/
theorem values_eq_map_toList (m : ExtTreeMap K V) : m.values = m.toList.map (·.2) := by
  obtain ⟨m⟩ := m
  induction m using Std.ExtDTreeMap.inductionOn with
  | mk m =>
    show Std.DTreeMap.Internal.Impl.values m.inner =
      (Std.DTreeMap.Internal.Impl.Const.toList m.inner).map (·.2)
    rw [Std.DTreeMap.Internal.Impl.values_eq_map_snd,
      Std.DTreeMap.Internal.Impl.Const.toList_eq_toListModel_map, List.map_map]
    rfl

omit [DecidableEq K] in
theorem mem_values {m : ExtTreeMap K V} {v : V} : v ∈ m.values ↔ ∃ k : K, m[k]? = some v := by
  rw [values_eq_map_toList, List.mem_map]
  constructor
  · rintro ⟨⟨k, v⟩, h, rfl⟩
    exact ⟨k, ExtTreeMap.mem_toList_iff_getElem?_eq_some.mp h⟩
  · rintro ⟨k, h⟩
    exact ⟨(k, v), ExtTreeMap.mem_toList_iff_getElem?_eq_some.mpr h, rfl⟩

/-- A table is made of what it lists. -/
theorem insertMany_toList (m : ExtTreeMap K V) : (∅ : ExtTreeMap K V).insertMany m.toList = m := by
  rw [← ExtTreeMap.ofList_eq_insertMany_empty]
  refine ExtTreeMap.ext_getElem? fun k => ?_
  cases hk : m[k]? with
  | some v =>
    exact ExtTreeMap.getElem?_ofList_of_mem Std.ReflCmp.compare_self
      ExtTreeMap.distinct_keys_toList (ExtTreeMap.mem_toList_iff_getElem?_eq_some.mpr hk)
  | none =>
    refine ExtTreeMap.getElem?_ofList_of_contains_eq_false ?_
    rw [ExtTreeMap.map_fst_toList_eq_keys, ← Bool.not_eq_true, List.contains_iff_mem,
      ExtTreeMap.mem_keys, ExtTreeMap.mem_iff_isSome_getElem?, hk]
    exact Bool.false_ne_true

/-! ## Names in order -/

/-- The order of the tables is that of the names. -/
theorem compare_eq_lt_iff {a b : String} : compare a b = .lt ↔ a < b :=
  compareOfLessAndEq_eq_lt

/-- A list in ascending order names nothing twice. -/
theorem nodup_of_ascending {l : List String} (h : l.Pairwise (· < ·)) : l.Nodup := by
  refine h.imp ?_
  rintro a _ hab rfl
  exact String.lt_irrefl a hab

theorem toList_ascending (names : ExtTreeSet String) : names.toList.Pairwise (· < ·) :=
  names.ordered_toList.imp fun h => compare_eq_lt_iff.mp h

/-- Every name is listed once, however often and wherever it was given. -/
theorem mem_listed {names : List String} {c : String} :
    c ∈ ExtTreeSet.ofList names ↔ c ∈ names := by
  rw [ExtTreeSet.mem_ofList, List.contains_iff_mem]

theorem size_ofList {names : List String} (h : names.Nodup) :
    (ExtTreeSet.ofList names).size = names.length := by
  refine ExtTreeSet.size_ofList (h.imp ?_)
  intro a b hne he
  exact hne (Std.LawfulEqOrd.eq_of_compare he)

end Flotilla
