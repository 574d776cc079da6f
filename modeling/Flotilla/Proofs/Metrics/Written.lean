import Flotilla.Proofs.Metrics.Series

/-!
# What the index lists

No series is missing in the index.  A cluster has an entry exactly if a controller
wrote for it since it was last forgotten, and the entry lists these controllers
(`Store.Covers`).  A dead write neither marks nor makes anything, and a forgotten
cluster loses its entry together with its series (`Store.Forgotten`).

As long as the labels of the writes are told apart by their texts, the entries list
exactly the controllers that have a series (`Store.Exact`), and what goes with a
cluster is what has its label.  Where two clusters share a series, both list it and
one of them labels it, and it goes with either (`written_exact`).
-/

namespace Flotilla.Metrics

open Std (ExtTreeMap ExtTreeSet)

/-- Whether a sample is one of a cluster. -/
def Sample.isOf (cluster : String) (s : Sample) : Bool := s.labels.contains ("cluster", cluster)

/-- A family without the samples of a cluster. -/
def Family.without (cluster : String) (f : Family) : Family :=
  { f with samples := f.samples.filter fun s => !s.isOf cluster }

namespace Store

/-! ## The series that are exported -/

/-- Whether passes or objects of a controller are exported. -/
def Shows (m : Store) (cluster controller : String) : Prop :=
  ∃ value, (⟨[("cluster", cluster), ("controller", controller)], value⟩ : Sample) ∈
    m.samplesOf "fleet_controller_syncs_total" ++ m.samplesOf "fleet_controller_objects"

/-- A series is exported if a table has it. -/
theorem mem_samples_key (t : SeriesTable) (key : SeriesKey) :
    (∃ value, (⟨keyLabels key, value⟩ : Sample) ∈
      t.byLabels.toList.map fun x => Sample.of (keyLabels x.1) x.2) ↔ key ∈ t := by
  simp only [mem_samples, SeriesTable.lookup_byLabels, SeriesTable.mem_def,
    Option.isSome_iff_exists]
  constructor
  · rintro ⟨value, other, n, hn, he⟩
    rw [keyLabels_injective key other (congrArg Sample.labels he)]
    exact ⟨n, hn⟩
  · rintro ⟨n, hn⟩
    exact ⟨_, key, n, hn, rfl⟩

theorem shows_iff (m : Store) (c k : String) :
    m.Shows c k ↔ (⟨c, k⟩ : SeriesKey) ∈ m.syncs ∨ (⟨c, k⟩ : SeriesKey) ∈ m.objects := by
  rw [← mem_samples_key m.syncs, ← mem_samples_key m.objects, ← exists_or, ← samplesOf_syncs,
    ← samplesOf_objects]
  exact exists_congr fun _ => List.mem_append

/-! ## The index -/

/-- The index has an entry for each cluster that was written to since it was last forgotten, and
the entry has the controllers that wrote.  No series is missing. -/
structure Covers (m : Store) (h : History) : Prop where
  entry : ∀ (c : String) (ks : ExtTreeSet String), m.written[c]? = some ks →
    (∀ k, k ∈ ks ↔ ∃ w ∈ h.writes c, w.controller = k) ∧ ∃ k, k ∈ ks
  none : ∀ c : String, m.written[c]? = none → h.writes c = []
  shown : ∀ c k, m.Shows c k → m.Listed ⟨c, k⟩

/-- The index has an entry for each cluster with a series, and the entry has the controllers. -/
structure Exact (m : Store) : Prop where
  entry : ∀ (c : String) (ks : ExtTreeSet String), m.written[c]? = some ks →
    (∀ k, k ∈ ks ↔ m.Shows c k) ∧ ∃ k, m.Shows c k
  none : ∀ c : String, m.written[c]? = none → ∀ k, ¬ m.Shows c k

/-- What is left when a cluster is forgotten. -/
structure Forgotten (m : Store) (cluster : String) (m' : Store) : Prop where
  /-- The samples of the cluster are gone, and so are series with the text of a listed controller.
  All others are exported as before. -/
  samples : ∀ (name : String) (s : Sample), s ∈ m'.samplesOf name ↔
    s ∈ m.samplesOf name ∧ s.isOf cluster = false ∧
      ∀ key, s.labels = keyLabels key → ¬ m.Drops cluster key.text
  /-- So is its entry in the index, and the other entries stay. -/
  written : ∀ c : String, m'.written[c]? = if cluster = c then none else m.written[c]?
  /-- To forget it once more changes nothing. -/
  again : m'.forget cluster = m'

namespace Tells

variable {m : Store} {h : History}

theorem listed_lookup (ht : m.Tells h) {c : String} {ks : ExtTreeSet String}
    (hks : m.written[c]? = some ks) (k : String) :
    k ∈ ks ↔ ∃ w ∈ h.writes c, w.controller = k := by
  rw [← ht.listed, Listed, ExtTreeMap.getD_eq_getD_getElem?, hks, Option.getD_some]

theorem covers (ht : m.Tells h) : m.Covers h where
  entry c ks hks := by
    refine ⟨ht.listed_lookup hks, ?_⟩
    have hmem : c ∈ m.written := by
      rw [ExtTreeMap.mem_iff_isSome_getElem?, hks, Option.isSome_some]
    obtain ⟨w, hw⟩ := List.exists_mem_of_ne_nil _ ((ht.written c).mp hmem)
    exact ⟨w.controller, (ht.listed_lookup hks _).mpr ⟨w, hw, rfl⟩⟩
  none c hnone := by
    by_contra hwrites
    have hmem := (ht.written c).mpr hwrites
    rw [ExtTreeMap.mem_iff_isSome_getElem?, hnone] at hmem
    cases hmem
  shown c k hk := ht.indexed _ ((m.shows_iff c k).mp hk)

/-! ## Labels that are told apart -/

/-- Every cluster is told apart by the labels that were written. -/
theorem parted (ht : m.Tells h) (hapart : h.Apart) (cluster : String) :
    m.Parted (· ∈ h.labels) cluster where
  indexed := ht.indexed
  clear a b ha hb htext hcluster := by rwa [← hapart a ha b hb htext]
  within key hkey := by
    obtain ⟨c, k⟩ := key
    obtain ⟨w, hw, rfl⟩ := (ht.listed c k).mp hkey
    exact History.mem_labels_of_mem_writes hw

/-- A live write of a controller has left a series. -/
theorem shows_iff_writes (ht : m.Tells h) (hapart : h.Apart) (c k : String) :
    m.Shows c k ↔ ∃ w ∈ h.writes c, w.controller = k := by
  constructor
  · exact fun hk => (ht.listed c k).mp (ht.covers.shown c k hk)
  · rintro ⟨w, hw, rfl⟩
    have halone := hapart.alone (History.mem_labels_of_mem_writes hw)
    rw [shows_iff, m.syncs.mem_iff, m.objects.mem_iff]
    simp only [ht.syncs, ht.objects, History.passed?, History.counted?]
    cases w with
    | sync k =>
      left
      have hpasses : h.passes (SeriesKey.text ⟨c, k⟩) =
          List.replicate ((h.writes c).count (.sync k)) ⟨c, k⟩ := History.passes_of_alone halone
      refine ⟨(h.passes (SeriesKey.text ⟨c, k⟩)).length, ?_⟩
      rw [show (Write.sync k).controller = k from rfl, hpasses, List.getLast?_replicate,
        if_neg (Nat.ne_of_gt (List.count_pos_iff.mpr hw)), Option.map_some]
    | objects k n =>
      right
      have hcounts : h.counts (SeriesKey.text ⟨c, k⟩) =
          ((h.writes c).filterMap (Write.objects? k)).map (⟨c, k⟩, ·) :=
        History.counts_of_alone halone
      have hmem : n ∈ (h.writes c).filterMap (Write.objects? k) :=
        List.mem_filterMap.mpr ⟨_, hw, if_pos rfl⟩
      rw [show (Write.objects k n).controller = k from rfl, hcounts]
      cases hfound : (h.writes c).filterMap (Write.objects? k) with
      | nil =>
        rw [hfound] at hmem
        cases hmem
      | cons newest rest =>
        rw [List.getLast?_map, List.getLast?_cons]
        exact ⟨_, rfl⟩

theorem exact (ht : m.Tells h) (hapart : h.Apart) : m.Exact where
  entry c ks hks := by
    simp only [ht.shows_iff_writes hapart, ← ht.listed_lookup hks]
    exact ⟨fun _ => trivial, (ht.covers.entry c ks hks).2⟩
  none c hnone k hk := by
    obtain ⟨w, hw, -⟩ := (ht.shows_iff_writes hapart c k).mp hk
    rw [ht.covers.none c hnone] at hw
    cases hw

end Tells

/-! ## What is left of a forgotten cluster -/

theorem forget_forget (m : Store) (cluster : String) :
    (m.forget cluster).forget cluster = m.forget cluster := by
  have hwritten := m.written_forget cluster
  have hfailures := m.launchFailures_forget cluster
  generalize m.forget cluster = m' at hwritten hfailures
  -- no controller is listed any more
  have hnone : (m'.written.getD cluster ∅).toList = [] := by
    rw [hwritten, getD_erase, if_pos rfl]
    rfl
  rw [forget, hnone, List.foldl_nil, hwritten, hfailures, erase_erase, erase_erase, ← hwritten,
    ← hfailures]

/-- The samples of a family of series after some texts were dropped. -/
theorem mem_samples_dropped {t t' : SeriesTable} {cluster : String} {drops : String → Prop}
    [DecidablePred drops]
    (hlookup : ∀ key, t'.value? key = if drops key.text then none else t.value? key)
    (hown : ∀ key ∈ t, ¬ drops key.text → key.cluster ≠ cluster) (s : Sample) :
    s ∈ t'.byLabels.toList.map (fun x => Sample.of (keyLabels x.1) x.2) ↔
      s ∈ t.byLabels.toList.map (fun x => Sample.of (keyLabels x.1) x.2) ∧
        s.isOf cluster = false ∧ ∀ key, s.labels = keyLabels key → ¬ drops key.text := by
  simp only [mem_samples, SeriesTable.lookup_byLabels, hlookup]
  constructor
  · rintro ⟨key, n, hn, rfl⟩
    split at hn
    · cases hn
    · next hkept =>
      refine ⟨⟨key, n, hn, rfl⟩, ?_, ?_⟩
      · have hne := hown key (by rw [SeriesTable.mem_def, hn, Option.isSome_some]) hkept
        simp [Sample.isOf, Sample.of, keyLabels, Ne.symm hne]
      · intro other hlabels
        rwa [← keyLabels_injective key other hlabels]
  · rintro ⟨⟨key, n, hn, rfl⟩, -, hkept⟩
    exact ⟨key, n, by rw [if_neg (hkept key rfl), hn], rfl⟩

/-- A family is one of the six, so its samples tell what is asked of all. -/
theorem forall_samplesOf_iff {m m' : Store} {P : Sample → Prop}
    (hobjects : ∀ s, s ∈ m'.samplesOf "fleet_controller_objects" ↔
      s ∈ m.samplesOf "fleet_controller_objects" ∧ P s)
    (hsyncs : ∀ s, s ∈ m'.samplesOf "fleet_controller_syncs_total" ↔
      s ∈ m.samplesOf "fleet_controller_syncs_total" ∧ P s)
    (hfailures : ∀ s, s ∈ m'.samplesOf "fleet_launch_failures_total" ↔
      s ∈ m.samplesOf "fleet_launch_failures_total" ∧ P s)
    (hplain : ∀ n, P (.of [] n)) (hcycles : m'.cycles = m.cycles)
    (hlistingErrors : m'.listingErrors = m.listingErrors) (hmanaged : m'.managed = m.managed)
    (name : String) (s : Sample) : s ∈ m'.samplesOf name ↔ s ∈ m.samplesOf name ∧ P s := by
  rw [samplesOf_objects, samplesOf_objects] at hobjects
  rw [samplesOf_syncs, samplesOf_syncs] at hsyncs
  rw [samplesOf_launchFailures, samplesOf_launchFailures] at hfailures
  have hone (n : Nat) : s ∈ [Sample.of [] n] ↔ s ∈ [Sample.of [] n] ∧ P s :=
    ⟨fun hs => ⟨hs, List.mem_singleton.mp hs ▸ hplain n⟩, And.left⟩
  have hcons (f f' : Family) (rest rest' : List Family) (hname : f'.name = f.name)
      (hf : s ∈ f'.samples ↔ s ∈ f.samples ∧ P s)
      (hrest : (∃ g ∈ rest', g.name = name ∧ s ∈ g.samples) ↔
        (∃ g ∈ rest, g.name = name ∧ s ∈ g.samples) ∧ P s) :
      (∃ g ∈ f' :: rest', g.name = name ∧ s ∈ g.samples) ↔
        (∃ g ∈ f :: rest, g.name = name ∧ s ∈ g.samples) ∧ P s := by
    simp only [List.exists_mem_cons_iff, hname, hf, hrest]
    tauto
  have hnil : (∃ g ∈ ([] : List Family), g.name = name ∧ s ∈ g.samples) ↔
      (∃ g ∈ ([] : List Family), g.name = name ∧ s ∈ g.samples) ∧ P s := by simp
  rw [mem_samplesOf, mem_samplesOf, families, families, hcycles, hlistingErrors, hmanaged]
  exact hcons _ _ _ _ rfl (hobjects s) <| hcons _ _ _ _ rfl (hsyncs s) <|
    hcons _ _ _ _ rfl (hfailures s) <| hcons _ _ _ _ rfl (hone _) <|
    hcons _ _ _ _ rfl (hone _) <| hcons _ _ _ _ rfl (hone _) hnil

theorem Indexed.forgotten {m : Store} (h : m.Indexed) (cluster : String) :
    Forgotten m cluster (m.forget cluster) := by
  classical
  obtain ⟨hcycles, hlistingErrors, hmanaged⟩ := m.forget_rest cluster
  refine ⟨forall_samplesOf_iff ?_ ?_ ?_ ?_ hcycles hlistingErrors hmanaged, ?_,
    m.forget_forget cluster⟩
  · rw [samplesOf_objects, samplesOf_objects]
    exact mem_samples_dropped (fun key => (m.value?_forget cluster key).2)
      fun key hkey => h.cluster_ne (Or.inr hkey)
  · rw [samplesOf_syncs, samplesOf_syncs]
    exact mem_samples_dropped (fun key => (m.value?_forget cluster key).1)
      fun key hkey => h.cluster_ne (Or.inl hkey)
  · intro s
    have hlookup (c : String) := lookup_erase m.launchFailures cluster c
    simp only [samplesOf_launchFailures, mem_samples _ fun c => [("cluster", c)],
      launchFailures_forget, hlookup]
    constructor
    · rintro ⟨c, n, hn, rfl⟩
      split at hn
      · cases hn
      · next hne =>
        refine ⟨⟨c, n, hn, rfl⟩, by simp [Sample.isOf, Sample.of, hne], fun key hkey => ?_⟩
        cases (List.cons.inj hkey).2
    · rintro ⟨⟨c, n, hn, rfl⟩, hother, -⟩
      refine ⟨c, n, ?_, rfl⟩
      rw [if_neg, hn]
      rintro rfl
      simp [Sample.isOf, Sample.of] at hother
  · refine fun n => ⟨rfl, fun key hkey => ?_⟩
    cases hkey
  · exact fun c => by rw [written_forget, lookup_erase]

section Table

variable {K : Type} [Ord K] [Std.TransOrd K] [Std.LawfulEqOrd K]

/-- A table from which the keys of a cluster were taken has the other samples. -/
theorem samples_without {t t' : ExtTreeMap K Nat} {cluster : String} (clusterOf : K → String)
    (labels : K → List (String × String))
    (hlabels : ∀ k, ("cluster", cluster) ∈ labels k ↔ clusterOf k = cluster)
    (ht : ∀ k, t'[k]? = if clusterOf k = cluster then none else t[k]?) :
    t'.toList.map (fun x => Sample.of (labels x.1) x.2) =
      (t.toList.map fun x => Sample.of (labels x.1) x.2).filter fun s => !s.isOf cluster := by
  have hfilter : t' = t.filter fun k _ => clusterOf k != cluster := by
    refine ExtTreeMap.ext_getElem? fun k => ?_
    rw [ht, ExtTreeMap.getElem?_filter']
    cases t[k]? with
    | none => exact ite_self none
    | some v => by_cases hk : clusterOf k = cluster <;> simp [Option.filter, hk]
  rw [hfilter, ExtTreeMap.toList_filter, List.filter_map]
  refine congrArg _ (List.filter_congr fun x _ => ?_)
  rw [Bool.eq_iff_iff, bne_iff_ne, ne_eq, ← hlabels, Function.comp, Sample.isOf, Bool.not_eq_true',
    ← Bool.not_eq_true, List.contains_iff_mem, Sample.of]

end Table

/-- Where labels are told apart, a cluster takes what has its label and nothing else. -/
theorem Tells.value?_forget {m : Store} {h : History} (ht : m.Tells h) (hapart : h.Apart)
    (cluster : String) (key : SeriesKey) :
    (m.forget cluster).syncs.value? key =
        (if key.cluster = cluster then none else m.syncs.value? key) ∧
      (m.forget cluster).objects.value? key =
        (if key.cluster = cluster then none else m.objects.value? key) := by
  classical
  obtain ⟨c, k⟩ := key
  have hparted := ht.parted hapart c
  obtain ⟨hs, ho⟩ := m.value?_forget cluster ⟨c, k⟩
  rw [hs, ho]
  by_cases hdrops : m.Drops cluster (SeriesKey.text ⟨c, k⟩)
  · rw [if_pos hdrops, if_pos hdrops]
    by_cases hc : c = cluster
    · exact ⟨(if_pos hc).symm, (if_pos hc).symm⟩
    · obtain ⟨hsyncs, hobjects⟩ := hparted.value?_of_drops hdrops (Ne.symm hc)
      rw [hsyncs, hobjects, ite_self]
      exact ⟨rfl, rfl⟩
  · rw [if_neg hdrops, if_neg hdrops]
    by_cases hc : c = cluster
    · subst hc
      obtain ⟨hsyncs, hobjects⟩ := hparted.value?_of_not_drops hdrops
      rw [hsyncs, hobjects, ite_self]
      exact ⟨rfl, rfl⟩
    · exact ⟨(if_neg hc).symm, (if_neg hc).symm⟩

/-- Then to forget a cluster drops the samples of the cluster from every family, and no others. -/
theorem Tells.families_forget {m : Store} {h : History} (ht : m.Tells h) (hapart : h.Apart)
    (cluster : String) :
    (m.forget cluster).families = m.families.map (Family.without cluster) := by
  have hkey (key : SeriesKey) : ("cluster", cluster) ∈ keyLabels key ↔ key.cluster = cluster := by
    simp [keyLabels, eq_comm]
  have hname (c : String) : ("cluster", cluster) ∈ [("cluster", c)] ↔ id c = cluster := by
    simp [eq_comm]
  have hlookup (c : String) : (m.forget cluster).launchFailures[c]? =
      if id c = cluster then none else m.launchFailures[c]? := by
    rw [lookup_launchFailures_forget]
    simp only [id, eq_comm]
  have hvalue := ht.value?_forget hapart cluster
  simp only [← SeriesTable.lookup_byLabels] at hvalue
  have hobjects := samples_without _ keyLabels hkey fun key => (hvalue key).2
  have hsyncs := samples_without _ keyLabels hkey fun key => (hvalue key).1
  have hfailures := samples_without id (fun c => [("cluster", c)]) hname hlookup
  -- a sample without labels is of no cluster
  have hplain (n : Nat) : [Sample.of [] n].filter (fun s => !s.isOf cluster) = [.of [] n] := rfl
  obtain ⟨hcycles, hlistingErrors, hmanaged⟩ := m.forget_rest cluster
  simp only [families, List.map_cons, List.map_nil, Family.without, hplain, hcycles, hlistingErrors,
    hmanaged]
  rw [← hobjects, ← hsyncs, ← hfailures]

end Store

/-- After any steps the index lists the controllers that wrote, and no series is missing.  A cluster
that is forgotten then leaves nothing behind.  If labels are told apart, the index lists exactly the
series there are, and no other cluster is touched. -/
theorem written_exact (steps : List Step) :
    (Session.run {} steps).store.Covers steps.reverse ∧
      (History.Apart steps.reverse → (Session.run {} steps).store.Exact) ∧
      ∀ cluster, (Session.run {} steps).store.Forgotten cluster
          (Session.run {} (steps ++ [.forget cluster])).store ∧
        (History.Apart steps.reverse →
          (Session.run {} (steps ++ [.forget cluster])).store.families =
            (Session.run {} steps).store.families.map (Family.without cluster)) := by
  obtain ⟨book, -, ht⟩ := Session.run_tells steps
  refine ⟨ht.covers, ht.exact, fun cluster => ?_⟩
  have hstep : Session.run {} (steps ++ [.forget cluster]) =
      (Session.run {} steps).step (.forget cluster) := List.foldl_append
  rw [hstep]
  exact ⟨ht.indexed.forgotten cluster, fun hapart => ht.families_forget hapart cluster⟩

end Flotilla.Metrics
