import Flotilla.Metrics.Exposition
import Flotilla.Proofs.Metrics.SeriesTable

/-!
# The index of the metrics

A cluster is forgotten by going through the controllers that `written` lists for
it, and never by going through the series.  So no series may be missing there
(`Store.Indexed`).  Every write keeps that, and with it forgetting a cluster drops
all series that have its label.

A listed controller need not have a series of its own, and what is dropped with a
cluster may have the label of another, if labels share a text (`Metrics.Store`).

* `labels_forget`: which clusters may label a sample after one was forgotten.
* `labels_write`: and after a write.
-/

namespace Flotilla.Metrics

open Std (ExtTreeMap ExtTreeSet)

namespace Store

/-- Whether the index has a controller of a cluster. -/
def Listed (m : Store) (key : SeriesKey) : Prop := key.controller ∈ m.written.getD key.cluster ∅

/-! ## Forgetting -/

/-- The series that are left when those of some controllers of a cluster are dropped. -/
theorem lookup_dropSeries (m : Store) (cluster : String) (controllers : List String)
    (text : String) :
    (controllers.foldl (fun m k => m.dropSeries ⟨cluster, k⟩) m).syncs.entries[text]? =
        (if ∃ k ∈ controllers, SeriesKey.text ⟨cluster, k⟩ = text then none
          else m.syncs.entries[text]?) ∧
      (controllers.foldl (fun m k => m.dropSeries ⟨cluster, k⟩) m).objects.entries[text]? =
        (if ∃ k ∈ controllers, SeriesKey.text ⟨cluster, k⟩ = text then none
          else m.objects.entries[text]?) := by
  induction controllers generalizing m with
  | nil => simp
  | cons k rest ih =>
    obtain ⟨hs, ho⟩ := ih (m.dropSeries ⟨cluster, k⟩)
    rw [List.foldl_cons, hs, ho]
    simp only [dropSeries, SeriesTable.lookup_drop, List.mem_cons, exists_eq_or_imp]
    constructor <;> by_cases hk : SeriesKey.text ⟨cluster, k⟩ = text <;> simp [hk]

theorem dropSeries_rest (m : Store) (cluster : String) (controllers : List String) :
    ∃ syncs objects, controllers.foldl (fun m k => m.dropSeries ⟨cluster, k⟩) m =
      { m with syncs, objects } := by
  induction controllers generalizing m with
  | nil => exact ⟨m.syncs, m.objects, rfl⟩
  | cons k rest ih =>
    obtain ⟨syncs, objects, h⟩ := ih (m.dropSeries ⟨cluster, k⟩)
    exact ⟨syncs, objects, h⟩

theorem written_forget (m : Store) (cluster : String) :
    (m.forget cluster).written = m.written.erase cluster := by
  obtain ⟨syncs, objects, h⟩ := m.dropSeries_rest cluster (m.written.getD cluster ∅).toList
  rw [forget, h]

theorem launchFailures_forget (m : Store) (cluster : String) :
    (m.forget cluster).launchFailures = m.launchFailures.erase cluster := by
  obtain ⟨syncs, objects, h⟩ := m.dropSeries_rest cluster (m.written.getD cluster ∅).toList
  rw [forget, h]

theorem lookup_launchFailures_forget (m : Store) (c k : String) :
    (m.forget c).launchFailures[k]? = if c = k then none else m.launchFailures[k]? := by
  rw [launchFailures_forget, lookup_erase]

/-- To forget a cluster leaves the samples of the fleet as they are, but for its launch failures. -/
theorem forget_rest (m : Store) (cluster : String) :
    (m.forget cluster).cycles = m.cycles ∧ (m.forget cluster).listingErrors = m.listingErrors ∧
      (m.forget cluster).managed = m.managed := by
  obtain ⟨syncs, objects, h⟩ := m.dropSeries_rest cluster (m.written.getD cluster ∅).toList
  rw [forget, h]
  exact ⟨rfl, rfl, rfl⟩

/-- Whether the series of a text goes when a cluster is forgotten. -/
def Drops (m : Store) (cluster text : String) : Prop :=
  ∃ k, m.Listed ⟨cluster, k⟩ ∧ SeriesKey.text ⟨cluster, k⟩ = text

/-- Forgetting a cluster drops the series with the text of a listed controller, and no others. -/
theorem lookup_forget (m : Store) (cluster text : String) [Decidable (m.Drops cluster text)] :
    (m.forget cluster).syncs.entries[text]? =
        (if m.Drops cluster text then none else m.syncs.entries[text]?) ∧
      (m.forget cluster).objects.entries[text]? =
        (if m.Drops cluster text then none else m.objects.entries[text]?) := by
  obtain ⟨hs, ho⟩ := m.lookup_dropSeries cluster (m.written.getD cluster ∅).toList text
  have hlisted : (∃ k ∈ (m.written.getD cluster ∅).toList,
      SeriesKey.text ⟨cluster, k⟩ = text) ↔ m.Drops cluster text :=
    exists_congr fun _ => and_congr_left' ExtTreeSet.mem_toList
  simp only [hlisted] at hs ho
  exact ⟨hs, ho⟩

/-- The values of what stays are the same. -/
theorem value?_forget (m : Store) (cluster : String) (key : SeriesKey)
    [Decidable (m.Drops cluster key.text)] :
    (m.forget cluster).syncs.value? key =
        (if m.Drops cluster key.text then none else m.syncs.value? key) ∧
      (m.forget cluster).objects.value? key =
        (if m.Drops cluster key.text then none else m.objects.value? key) := by
  obtain ⟨hs, ho⟩ := m.lookup_forget cluster key.text
  by_cases hdrop : m.Drops cluster key.text
  · simp only [if_pos hdrop] at hs ho ⊢
    exact ⟨SeriesTable.value?_of_lookup_none hs, SeriesTable.value?_of_lookup_none ho⟩
  · simp only [if_neg hdrop] at hs ho ⊢
    exact ⟨SeriesTable.value?_congr hs, SeriesTable.value?_congr ho⟩

theorem mem_forget (m : Store) (cluster : String) (key : SeriesKey) :
    (key ∈ (m.forget cluster).syncs ↔ ¬ m.Drops cluster key.text ∧ key ∈ m.syncs) ∧
      (key ∈ (m.forget cluster).objects ↔ ¬ m.Drops cluster key.text ∧ key ∈ m.objects) := by
  classical
  obtain ⟨hs, ho⟩ := m.value?_forget cluster key
  simp only [SeriesTable.mem_def, hs, ho]
  constructor <;> split <;> simp [*]

/-- Every series is listed among those of its cluster. -/
def Indexed (m : Store) : Prop := ∀ key : SeriesKey, key ∈ m.syncs ∨ key ∈ m.objects → m.Listed key

theorem Indexed.start : Indexed {} := by
  intro key hkey
  simp [SeriesTable.mem_def, SeriesTable.value?_empty] at hkey

/-- No series of a forgotten cluster is left. -/
theorem Indexed.cluster_ne {m : Store} (h : m.Indexed) {cluster : String} {key : SeriesKey}
    (hkey : key ∈ m.syncs ∨ key ∈ m.objects) (hkept : ¬ m.Drops cluster key.text) :
    key.cluster ≠ cluster := by
  rintro rfl
  exact hkept ⟨key.controller, h key hkey, rfl⟩

theorem Indexed.forget {m : Store} (h : m.Indexed) (cluster : String) :
    (m.forget cluster).Indexed := by
  intro key hkey
  obtain ⟨hs, ho⟩ := m.mem_forget cluster key
  rw [hs, ho, ← and_or_left] at hkey
  rw [Listed, written_forget, getD_erase, if_neg (Ne.symm (h.cluster_ne hkey.2 hkey.1))]
  exact h key hkey.2

/-! ## Writing -/

theorem listed_mark (m : Store) (c k : String) (key : SeriesKey) :
    (m.markWritten c k).Listed key ↔ ⟨c, k⟩ = key ∨ m.Listed key := by
  obtain ⟨c', k'⟩ := key
  rw [Listed, markWritten, getD_insert, SeriesKey.mk.injEq]
  by_cases hc : c = c'
  · subst hc
    simp [Listed]
  · simp [hc, Listed]

theorem mem_syncs_recordSync (m : Store) (c k : String) (key : SeriesKey) :
    key ∈ (m.recordSync c k).syncs ↔ (m.syncs.slot ⟨c, k⟩).1 = key ∨ key ∈ m.syncs :=
  m.syncs.mem_update ⟨c, k⟩ key _

theorem mem_objects_setObjects (m : Store) (c k : String) (n : Nat) (key : SeriesKey) :
    key ∈ (m.setObjects c k n).objects ↔ (m.objects.slot ⟨c, k⟩).1 = key ∨ key ∈ m.objects :=
  m.objects.mem_update ⟨c, k⟩ key _

theorem Indexed.recordSync {m : Store} (h : m.Indexed) (c k : String) :
    (m.recordSync c k).Indexed := by
  intro key hkey
  rw [mem_syncs_recordSync] at hkey
  refine (listed_mark m c k key).mpr ?_
  rcases hkey with (rfl | hs) | ho
  · rcases m.syncs.slot_labels ⟨c, k⟩ with hslot | hslot
    · exact Or.inl hslot.symm
    · exact Or.inr (h _ (Or.inl hslot))
  · exact Or.inr (h key (Or.inl hs))
  · exact Or.inr (h key (Or.inr ho))

theorem Indexed.setObjects {m : Store} (h : m.Indexed) (c k : String) (n : Nat) :
    (m.setObjects c k n).Indexed := by
  intro key hkey
  rw [mem_objects_setObjects] at hkey
  refine (listed_mark m c k key).mpr ?_
  rcases hkey with hs | rfl | ho
  · exact Or.inr (h key (Or.inl hs))
  · rcases m.objects.slot_labels ⟨c, k⟩ with hslot | hslot
    · exact Or.inl hslot.symm
    · exact Or.inr (h _ (Or.inr hslot))
  · exact Or.inr (h key (Or.inr ho))

/-- What is written through a sink is listed. -/
theorem Indexed.write {m : Store} (h : m.Indexed) (sink : Sink) (k : Cancellation) (w : Write) :
    (sink.write k m w).Indexed := by
  cases w with
  | sync controller =>
    simp only [Sink.write, Sink.recordSync]
    split
    · exact h.recordSync _ _
    · exact h
  | objects controller n =>
    simp only [Sink.write, Sink.setObjects]
    split
    · exact h.setObjects _ _ _
    · exact h

/-! ## Labels -/

/-- Whether a cluster labels a sample. -/
def Labels (m : Store) (cluster : String) : Prop :=
  ∃ f ∈ m.families, ∃ s ∈ f.samples, ("cluster", cluster) ∈ s.labels

theorem labels_iff (m : Store) (c : String) :
    m.Labels c ↔ c ∈ m.launchFailures ∨
      ∃ k, (⟨c, k⟩ : SeriesKey) ∈ m.syncs ∨ (⟨c, k⟩ : SeriesKey) ∈ m.objects := by
  simp only [ExtTreeMap.mem_iff_isSome_getElem?, SeriesTable.mem_def,
    ← SeriesTable.lookup_byLabels, Option.isSome_iff_exists]
  constructor
  · rintro ⟨f, hf, s, hs, hl⟩
    simp only [families, List.mem_cons, List.not_mem_nil, or_false] at hf
    rcases hf with rfl | rfl | rfl | rfl | rfl | rfl
    · obtain ⟨⟨key, n⟩, hkey, rfl⟩ := List.mem_map.mp hs
      obtain rfl : c = key.cluster := by simpa [Sample.of, keyLabels] using hl
      exact Or.inr ⟨key.controller, Or.inr ⟨n, ExtTreeMap.mem_toList_iff_getElem?_eq_some.mp hkey⟩⟩
    · obtain ⟨⟨key, n⟩, hkey, rfl⟩ := List.mem_map.mp hs
      obtain rfl : c = key.cluster := by simpa [Sample.of, keyLabels] using hl
      exact Or.inr ⟨key.controller, Or.inl ⟨n, ExtTreeMap.mem_toList_iff_getElem?_eq_some.mp hkey⟩⟩
    · obtain ⟨⟨k, n⟩, hk, rfl⟩ := List.mem_map.mp hs
      obtain rfl : c = k := by simpa [Sample.of] using hl
      exact Or.inl ⟨n, ExtTreeMap.mem_toList_iff_getElem?_eq_some.mp hk⟩
    all_goals
      obtain rfl := List.mem_singleton.mp hs
      cases hl
  · rintro (⟨n, hn⟩ | ⟨k, ⟨n, hn⟩ | ⟨n, hn⟩⟩)
    · refine ⟨_, List.mem_cons_of_mem _ (List.mem_cons_of_mem _ List.mem_cons_self), _,
        List.mem_map_of_mem (ExtTreeMap.mem_toList_iff_getElem?_eq_some.mpr hn), ?_⟩
      simp [Sample.of]
    · refine ⟨_, List.mem_cons_of_mem _ List.mem_cons_self, _,
        List.mem_map_of_mem (ExtTreeMap.mem_toList_iff_getElem?_eq_some.mpr hn), ?_⟩
      simp [Sample.of, keyLabels]
    · refine ⟨_, List.mem_cons_self, _,
        List.mem_map_of_mem (ExtTreeMap.mem_toList_iff_getElem?_eq_some.mpr hn), ?_⟩
      simp [Sample.of, keyLabels]

/-- A forgotten cluster labels nothing, and no cluster is new. -/
theorem labels_forget {m : Store} (h : m.Indexed) {c k : String} (hk : (m.forget c).Labels k) :
    k ≠ c ∧ m.Labels k := by
  rw [labels_iff, launchFailures_forget, ExtTreeMap.mem_erase, ne_eq,
    Std.LawfulEqOrd.compare_eq_iff_eq] at hk
  rw [labels_iff]
  rcases hk with ⟨hne, hk⟩ | ⟨controller, hk⟩
  · exact ⟨Ne.symm hne, Or.inl hk⟩
  · obtain ⟨hs, ho⟩ := m.mem_forget c ⟨k, controller⟩
    rw [hs, ho, ← and_or_left] at hk
    exact ⟨h.cluster_ne hk.2 hk.1, Or.inr ⟨controller, hk.2⟩⟩

theorem labels_countLaunchFailure (m : Store) (c k : String) :
    (m.countLaunchFailure c).Labels k ↔ c = k ∨ m.Labels k := by
  rw [labels_iff, labels_iff, countLaunchFailure, ExtTreeMap.mem_insert,
    Std.LawfulEqOrd.compare_eq_iff_eq, or_assoc]

/-- The slot of a write labels nothing but the cluster of the write, unless it did so before. -/
theorem labels_slot {m : Store} {t : SeriesTable} {key : SeriesKey} {c k : String}
    (ht : ∀ key ∈ t, m.Labels key.cluster) (h : (t.slot key).1 = ⟨c, k⟩) :
    key.cluster = c ∨ m.Labels c := by
  rcases t.slot_labels key with hslot | hslot
  · exact Or.inl (congrArg SeriesKey.cluster (hslot.symm.trans h))
  · rw [h] at hslot
    exact Or.inr (ht ⟨c, k⟩ hslot)

/-- A write through a sink labels nothing but the cluster of the sink, if the sink is live. -/
theorem labels_write {m : Store} {sink : Sink} {k : Cancellation} {w : Write} {c : String}
    (hc : (sink.write k m w).Labels c) :
    (sink.isLive k = true ∧ sink.cluster = c) ∨ m.Labels c := by
  have hsyncs : ∀ key ∈ m.syncs, m.Labels key.cluster := fun key hkey =>
    (m.labels_iff _).mpr (Or.inr ⟨key.controller, Or.inl hkey⟩)
  have hobjects : ∀ key ∈ m.objects, m.Labels key.cluster := fun key hkey =>
    (m.labels_iff _).mpr (Or.inr ⟨key.controller, Or.inr hkey⟩)
  cases hlive : sink.isLive k with
  | false => cases w <;> simpa [Sink.write, Sink.recordSync, Sink.setObjects, hlive] using hc
  | true =>
    simp only [true_and]
    cases w with
    | sync controller =>
      simp only [Sink.write, Sink.recordSync, hlive, if_true, labels_iff,
        mem_syncs_recordSync] at hc
      rcases hc with hf | ⟨writer, (hslot | hs) | ho⟩
      · exact Or.inr ((m.labels_iff c).mpr (Or.inl hf))
      · exact labels_slot hsyncs hslot
      · exact Or.inr (hsyncs _ hs)
      · exact Or.inr (hobjects ⟨c, writer⟩ ho)
    | objects controller n =>
      simp only [Sink.write, Sink.setObjects, hlive, if_true, labels_iff,
        mem_objects_setObjects] at hc
      rcases hc with hf | ⟨writer, hs | hslot | ho⟩
      · exact Or.inr ((m.labels_iff c).mpr (Or.inl hf))
      · exact Or.inr (hsyncs ⟨c, writer⟩ hs)
      · exact labels_slot hobjects hslot
      · exact Or.inr (hobjects _ ho)

end Store

end Flotilla.Metrics
