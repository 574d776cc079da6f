import Flotilla.Apiserver.Informers
import Flotilla.Proofs.Tables

/-!
# What a store holds

A store has an object under its namespace and name.  A later object takes the place of an earlier
one, so no two objects of a store have the same namespace and name (`Feed.keeps_storeAt`).

The service controller knows services by one text, with a slash between namespace and name.  That
tells two services of a store apart if namespaces are without slashes and none is the empty text,
as with Kubernetes (`nodup_keys`).
-/

namespace Flotilla.Apiserver

open Time (Moment)

variable {α : Type} [Identified α]

namespace Feed

/-- The apiserver tells of an object, in its list or in an event. -/
def Tells (f : Feed α) (a : α) : Prop := a ∈ f.base ∨ ∃ e ∈ f.events, e.object = a

/-- Objects of a feed, each under its own key. -/
def Keeps (f : Feed α) (objects : Objects α) : Prop :=
  ∀ key a, objects[key]? = some a → keyOf a = key ∧ f.Tells a

namespace Keeps

variable {f : Feed α} {objects : Objects α}

theorem empty : f.Keeps ∅ := by
  intro key a h
  simp at h

theorem put (h : f.Keeps objects) {a : α} (ha : f.Tells a) : f.Keeps (objects.put a) := by
  intro key b hb
  rw [Objects.put, lookup_insert] at hb
  split at hb
  · next hkey =>
    cases hb
    exact ⟨hkey, ha⟩
  · exact h key b hb

theorem erase (h : f.Keeps objects) (key : ObjectKey) : f.Keeps (objects.erase key) := by
  intro key' a ha
  rw [lookup_erase] at ha
  split at ha
  · cases ha
  · exact h key' a ha

theorem apply (h : f.Keeps objects) {e : Event α} (he : e ∈ f.events) :
    f.Keeps (objects.apply e) := by
  unfold Objects.apply
  split
  · exact h.erase _
  · exact h.put (.inr ⟨e, he, rfl⟩)

theorem applyAll (h : f.Keeps objects) {events : List (Event α)} (hevents : events ⊆ f.events) :
    f.Keeps (objects.applyAll events) := by
  induction events generalizing objects with
  | nil => exact h
  | cons e events ih =>
    obtain ⟨he, hevents⟩ := List.cons_subset.mp hevents
    exact ih (h.apply he) hevents

theorem foldl_put (h : f.Keeps objects) {base : List α} (hbase : base ⊆ f.base) :
    f.Keeps (base.foldl Objects.put objects) := by
  induction base generalizing objects with
  | nil => exact h
  | cons a base ih =>
    obtain ⟨ha, hbase⟩ := List.cons_subset.mp hbase
    exact ih (h.put (.inl ha)) hbase

end Keeps

theorem keeps_objectsAt (f : Feed α) (m : Moment) : f.Keeps (f.objectsAt m) :=
  (Keeps.empty.foldl_put (List.Subset.refl _)).applyAll fun _ he => (List.mem_filter.mp he).1

theorem keeps_storeAt (f : Feed α) (listed : Moment) (stop : Option Moment) (m : Moment) :
    f.Keeps (f.storeAt listed stop m) := by
  simp only [storeAt]
  split
  · refine (f.keeps_objectsAt listed).applyAll ?_
    intro e he
    have hfollowed := List.takeWhile_subset _ (List.mem_filter.mp he).1
    exact (List.mem_filter.mp hfollowed).1
  · exact Keeps.empty

end Feed

theorem Informers.keeps_storeAt (i : Informers) (feed : Feed α) (m : Moment) :
    feed.Keeps (i.storeAt feed m) := by
  unfold storeAt
  split
  · exact Feed.Keeps.empty
  · exact feed.keeps_storeAt _ _ m

/-! ## Keys of services -/

/-- A text is told from another by what comes before and after its first slash. -/
theorem append_slash_inj {a b a' b' : List Char} (ha : '/' ∉ a) (ha' : '/' ∉ a')
    (h : a ++ '/' :: b = a' ++ '/' :: b') : a = a' ∧ b = b' := by
  induction a generalizing a' with
  | nil =>
    cases a' with
    | nil => exact ⟨rfl, (List.cons.inj h).2⟩
    | cons c a' => exact absurd (List.cons.inj h).1 fun he => ha' (he ▸ List.mem_cons_self)
  | cons c a ih =>
    cases a' with
    | nil => exact absurd (List.cons.inj h).1 fun he => ha (he ▸ List.mem_cons_self)
    | cons c' a' =>
      obtain ⟨rfl, hrest⟩ := List.cons.inj h
      obtain ⟨rfl, rfl⟩ := ih (fun hc => ha (List.mem_cons_of_mem _ hc))
        (fun hc => ha' (List.mem_cons_of_mem _ hc)) hrest
      exact ⟨rfl, rfl⟩

/-- The namespace of a service, if it says one, is not empty and without slashes. -/
def NamespaceFits (s : Kube.Service) : Prop :=
  ∀ n ∈ s.identity.namespaceName, n ≠ "" ∧ '/' ∉ n.toList

instance : DecidablePred NamespaceFits := fun s =>
  inferInstanceAs (Decidable (∀ n ∈ s.identity.namespaceName, n ≠ "" ∧ '/' ∉ n.toList))

theorem NamespaceFits.slash_notMem {s : Kube.Service} (h : NamespaceFits s) :
    '/' ∉ s.identity.namespaceText.toList := by
  unfold Kube.Identity.namespaceText
  cases hn : s.identity.namespaceName with
  | none => simp
  | some n => exact (h n hn).2

/-- A namespace that is said is told from none by its text. -/
theorem NamespaceFits.namespaceName_eq {a b : Kube.Service} (ha : NamespaceFits a)
    (hb : NamespaceFits b) (h : a.identity.namespaceText = b.identity.namespaceText) :
    a.identity.namespaceName = b.identity.namespaceName := by
  unfold Kube.Identity.namespaceText at h
  cases hna : a.identity.namespaceName with
  | none =>
    cases hnb : b.identity.namespaceName with
    | none => rfl
    | some n =>
      rw [hna, hnb] at h
      exact absurd h.symm (hb n hnb).1
  | some m =>
    cases hnb : b.identity.namespaceName with
    | none =>
      rw [hna, hnb] at h
      exact absurd h (ha m hna).1
    | some n =>
      rw [hna, hnb] at h
      exact congrArg some h

theorem keyOf_eq_of_key_eq {a b : Kube.Service} (ha : NamespaceFits a) (hb : NamespaceFits b)
    (h : a.key = b.key) : keyOf a = keyOf b := by
  have h := congrArg String.toList h
  have hslash : "/".toList = ['/'] := rfl
  simp only [Kube.Service.key, String.toList_append, hslash, List.append_assoc,
    List.singleton_append] at h
  obtain ⟨hnamespace, hname⟩ := append_slash_inj ha.slash_notMem hb.slash_notMem h
  show ObjectKey.mk a.identity.namespaceName a.identity.anyName = ObjectKey.mk _ _
  rw [ha.namespaceName_eq hb (String.toList_inj.mp hnamespace), String.toList_inj.mp hname]
  rfl

/-- No two services of a store have the same text for a key. -/
theorem Feed.Keeps.nodup_keys {f : Feed Kube.Service} {objects : Objects Kube.Service}
    (h : f.Keeps objects) (hfits : ∀ s, f.Tells s → NamespaceFits s) :
    (objects.values.map Kube.Service.key).Nodup := by
  rw [values_eq_map_toList, List.map_map, List.Nodup, List.pairwise_map]
  refine objects.distinct_keys_toList.imp_of_mem ?_
  intro x y hx hy hne he
  obtain ⟨hkx, hx⟩ := h _ _ (Std.ExtTreeMap.mem_toList_iff_getElem?_eq_some.mp hx)
  obtain ⟨hky, hy⟩ := h _ _ (Std.ExtTreeMap.mem_toList_iff_getElem?_eq_some.mp hy)
  have hkeys := keyOf_eq_of_key_eq (hfits _ hx) (hfits _ hy) he
  rw [hkx, hky] at hkeys
  rw [hkeys] at hne
  exact hne Std.ReflCmp.compare_self

end Flotilla.Apiserver
