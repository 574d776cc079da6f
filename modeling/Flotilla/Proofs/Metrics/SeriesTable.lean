import Flotilla.Metrics.Store
import Flotilla.Proofs.Tables

/-!
# Series that are found by a text

A write is about the series that has the text of its labels, whatever labels this
series was made with (`SeriesTable.slot`).  So a write is seen at the labels of the
slot and nowhere else (`value?_update`).

Labels of one cluster never share a text (`SeriesKey.eq_of_text`).  A cluster is
`Clear` among some labels if no label of another cluster shares a text with one of
its own.  A slot among such labels is that of the write (`slot_of_clear`).
-/

namespace Flotilla.Metrics

open Std (ExtTreeMap)

namespace SeriesKey

/-- Within a cluster the text tells the controller. -/
theorem eq_of_text {a b : SeriesKey} (hcluster : a.cluster = b.cluster) (htext : a.text = b.text) :
    a = b := by
  obtain ⟨c, k⟩ := a
  obtain ⟨c', k'⟩ := b
  obtain rfl : c = c' := hcluster
  have hk : k.toList = k'.toList := by simpa [text] using congrArg String.toList htext
  rw [String.toList_inj.mp hk]

/-- No label of another cluster has the text of one of this cluster. -/
def Clear (P : SeriesKey → Prop) (cluster : String) : Prop :=
  ∀ a b, P a → P b → a.text = b.text → a.cluster = cluster → b.cluster = cluster

theorem Clear.eq {P : SeriesKey → Prop} {cluster : String} (h : Clear P cluster) {a b : SeriesKey}
    (ha : P a) (hb : P b) (htext : a.text = b.text) (hcluster : a.cluster = cluster) : a = b :=
  eq_of_text (hcluster.trans (h a b ha hb htext hcluster).symm) htext

end SeriesKey

namespace SeriesTable

variable (t : SeriesTable) (key k : SeriesKey)

theorem value?_eq_some {n : Nat} : t.value? k = some n ↔ t.entries[k.text]? = some (k, n) := by
  unfold value?
  split
  · next labels v h =>
    rw [h, Option.some.injEq, Prod.mk.injEq]
    split
    · next hl => simp [hl]
    · next hl => simp [hl]
  · next h => simp [h]

theorem mem_def : k ∈ t ↔ (t.value? k).isSome = true := Iff.rfl

theorem mem_iff : k ∈ t ↔ ∃ n, t.entries[k.text]? = some (k, n) := by
  rw [mem_def, Option.isSome_iff_exists]
  exact exists_congr fun n => t.value?_eq_some k

theorem lookup_empty (text : String) : (∅ : SeriesTable).entries[text]? = none :=
  ExtTreeMap.getElem?_empty

theorem value?_empty : (∅ : SeriesTable).value? k = none := by
  rw [value?, lookup_empty]

theorem not_mem_empty : k ∉ (∅ : SeriesTable) := by
  rw [mem_def, value?_empty]
  exact Bool.false_ne_true

/-! ## The slot of a write -/

/-- A slot has the labels of the write, or there is a series with its labels. -/
theorem slot_labels : (t.slot key).1 = key ∨ (t.slot key).1 ∈ t := by
  rw [slot, ExtTreeMap.getD_eq_getD_getElem?]
  cases h : t.entries[key.text]? with
  | none => exact Or.inl rfl
  | some e =>
    refine Or.inr ((t.mem_iff e.1).mpr ⟨e.2, ?_⟩)
    rw [t.keyed _ _ _ h]
    exact h

/-- A slot goes on from the value that its labels have. -/
theorem slot_value : (t.slot key).2 = (t.value? (t.slot key).1).getD 0 := by
  rw [slot, ExtTreeMap.getD_eq_getD_getElem?]
  cases h : t.entries[key.text]? with
  | none => simp [value?, h]
  | some e =>
    have hvalue : t.value? e.1 = some e.2 := by
      rw [value?_eq_some, t.keyed _ _ _ h]
      exact h
    rw [Option.getD_some, hvalue, Option.getD_some]

/-- Where the cluster of a write is told apart, the slot has the labels of the write. -/
theorem slot_of_clear {P : SeriesKey → Prop} {cluster : String} (hc : SeriesKey.Clear P cluster)
    (ht : ∀ k ∈ t, P k) (hkey : P key) (hcluster : key.cluster = cluster) :
    (t.slot key).1 = key := by
  rcases t.slot_labels key with h | h
  · exact h
  · exact (hc.eq hkey (ht _ h) (t.text_slot key).symm hcluster).symm

/-- A write of another cluster is not about the series of a cluster that is told apart. -/
theorem cluster_slot_of_clear {P : SeriesKey → Prop} {cluster : String}
    (hc : SeriesKey.Clear P cluster) (ht : ∀ k ∈ t, P k) (hkey : P key)
    (hcluster : key.cluster ≠ cluster) : (t.slot key).1.cluster ≠ cluster := by
  rcases t.slot_labels key with h | h
  · rwa [h]
  · exact fun he => hcluster (hc _ _ (ht _ h) hkey (t.text_slot key) he)

/-! ## Changes -/

theorem lookup_update (f : Nat → Nat) (text : String) : (t.update key f).entries[text]? =
    if key.text = text then some ((t.slot key).1, f (t.slot key).2) else t.entries[text]? :=
  lookup_insert t.entries key.text text _

theorem lookup_drop (text : String) : (t.drop key).entries[text]? =
    if key.text = text then none else t.entries[text]? :=
  lookup_erase t.entries key.text text

/-- A write is seen at the labels of its slot, and nowhere else. -/
theorem value?_update (f : Nat → Nat) : (t.update key f).value? k =
    if (t.slot key).1 = k then some (f ((t.value? k).getD 0)) else t.value? k := by
  split
  · next h =>
    rw [value?_eq_some, lookup_update, if_pos (by rw [← t.text_slot key, h]), h, t.slot_value key,
      h]
  · next h =>
    simp only [value?, lookup_update]
    by_cases htext : key.text = k.text
    · -- what was found under the text has the labels of the slot, before and after
      have hslot : t.entries[k.text]? = none ∨
          ∃ n, t.entries[k.text]? = some ((t.slot key).1, n) := by
        rw [slot, ExtTreeMap.getD_eq_getD_getElem?, htext]
        cases t.entries[k.text]? with
        | none => exact Or.inl rfl
        | some e => exact Or.inr ⟨e.2, rfl⟩
      rw [if_pos htext]
      rcases hslot with hn | ⟨n, hn⟩ <;> simp [hn, h]
    · rw [if_neg htext]

theorem mem_update (f : Nat → Nat) : k ∈ t.update key f ↔ (t.slot key).1 = k ∨ k ∈ t := by
  rw [mem_def, mem_def, value?_update]
  split <;> simp [*]

/-- What is said of a text decides what is said of all labels with it. -/
theorem value?_congr {t t' : SeriesTable} {k : SeriesKey}
    (h : t.entries[k.text]? = t'.entries[k.text]?) : t.value? k = t'.value? k := by
  simp only [value?, h]

theorem value?_of_lookup_none {t : SeriesTable} {k : SeriesKey} (h : t.entries[k.text]? = none) :
    t.value? k = none := by
  simp only [value?, h]

/-! ## The series by their labels -/

/-- Sorting the series by their labels changes nothing. -/
theorem lookup_byLabels : t.byLabels[k]? = t.value? k := by
  have hdistinct : t.entries.values.Pairwise fun a b => ¬ compare a.1 b.1 = .eq := by
    rw [values_eq_map_toList]
    refine List.pairwise_map.mpr
      (t.entries.distinct_keys_toList.imp_of_mem fun {a b} ha hb hne he => hne ?_)
    rw [ExtTreeMap.mem_toList_iff_getElem?_eq_some] at ha hb
    rw [← t.keyed _ _ _ ha, ← t.keyed _ _ _ hb, Std.LawfulEqOrd.eq_of_compare he]
    exact Std.ReflCmp.compare_self
  cases h : t.value? k with
  | some n =>
    rw [value?_eq_some] at h
    exact ExtTreeMap.getElem?_ofList_of_mem Std.ReflCmp.compare_self hdistinct
      (mem_values.mpr ⟨_, h⟩)
  | none =>
    refine ExtTreeMap.getElem?_ofList_of_contains_eq_false ?_
    rw [← Bool.not_eq_true, List.contains_iff_mem, List.mem_map]
    rintro ⟨⟨labels, n⟩, hmem, rfl⟩
    obtain ⟨text, htext⟩ := mem_values.mp hmem
    obtain rfl := t.keyed _ _ _ htext
    rw [(t.value?_eq_some labels).mpr htext] at h
    cases h

end SeriesTable

end Flotilla.Metrics
