import Flotilla.Proofs.Metrics.Apart
import Flotilla.Proofs.Metrics.Index
import Flotilla.Proofs.Metrics.Tokens
import Flotilla.Proofs.Text.Shortest

/-!
# The meaning of the metrics

The samples that are exported are a function of the history.  A counter has the
number of live writes to its series since that was last dropped, a gauge has the
last value that was set, there is a series where there was such a write, and it
has the labels of the first one (`Store.Tells`).

As long as the labels of the writes are told apart by their texts, a series is
that of one controller of one cluster.  Then a counter has the number of live
passes of the controller since its cluster was forgotten, and a gauge its last
number of objects (`exports_of_history`).
-/

namespace Flotilla.Metrics

open Std (ExtTreeMap ExtTreeSet)

/-- What a counter shows after so many counts: there is nothing before the first. -/
def total? (n : Nat) : Option Nat := if n = 0 then none else some n

/-- A counter goes up by one. -/
theorem total?_succ {o : Option Nat} {n : Nat} (h : o = total? n) :
    some (o.getD 0 + 1) = total? (n + 1) := by
  subst h
  cases n with
  | zero => rfl
  | succ n => rfl

theorem total?_eq_some {n v : Nat} : total? n = some v ↔ n ≠ 0 ∧ n = v := by
  cases n with
  | zero => simp [total?]
  | succ n => simp [total?]

namespace History

/-- The passes that a series has counted, with the labels of the first. -/
def passed? (h : History) (text : String) : Option (SeriesKey × Nat) :=
  (h.passes text).getLast?.map fun first => (first, (h.passes text).length)

/-- The newest number of objects of a series, with the labels of the oldest. -/
def counted? (h : History) (text : String) : Option (SeriesKey × Nat) :=
  (h.counts text).getLast?.bind fun first =>
    (h.counts text).head?.map fun newest => (first.1, min newest.2 gaugeBound)

end History

namespace Store

/-! ## The entries -/

/-- The entries of a store are what a history says. -/
structure Tells (m : Store) (h : History) : Prop where
  written : ∀ c, c ∈ m.written ↔ h.writes c ≠ []
  listed : ∀ c k, m.Listed ⟨c, k⟩ ↔ ∃ w ∈ h.writes c, w.controller = k
  syncs : ∀ text : String, m.syncs.entries[text]? = h.passed? text
  objects : ∀ text : String, m.objects.entries[text]? = h.counted? text
  failures : ∀ c : String, m.launchFailures[c]? = total? (h.failures c)
  managed : m.managed = min h.managed gaugeBound
  cycles : m.cycles = h.cycles
  listingErrors : m.listingErrors = h.listingErrors

namespace Tells

variable {m : Store} {h : History}

theorem start : Tells {} [] where
  written c := by simp [History.writes]
  listed c k := by simp [Listed, History.writes]
  syncs text := SeriesTable.lookup_empty text
  objects text := SeriesTable.lookup_empty text
  failures c := by simp [History.failures, total?]
  managed := rfl
  cycles := rfl
  listingErrors := rfl

theorem setManaged (ht : Tells m h) (n : Nat) : Tells (m.setManaged n) (.managed n :: h) :=
  { ht with managed := rfl }

theorem countCycle (ht : Tells m h) : Tells m.countCycle (.cycle :: h) :=
  { ht with
    cycles := by
      rw [History.cycles, List.count_cons_self]
      exact congrArg (· + 1) ht.cycles }

theorem countListingError (ht : Tells m h) : Tells m.countListingError (.listingError :: h) :=
  { ht with
    listingErrors := by
      rw [History.listingErrors, List.count_cons_self]
      exact congrArg (· + 1) ht.listingErrors }

theorem launchFailure (ht : Tells m h) (cluster : String) :
    Tells (m.countLaunchFailure cluster) (.launchFailure cluster :: h) :=
  { ht with
    failures := by
      intro c
      show (m.launchFailures.insert cluster (m.launchFailures.getD cluster 0 + 1))[c]? =
        total? (h.failures c + if cluster = c then 1 else 0)
      rw [lookup_insert]
      split
      · next he =>
        subst he
        rw [ExtTreeMap.getD_eq_getD_getElem?]
        exact total?_succ (ht.failures cluster)
      · exact ht.failures c }

/-- The series that are dropped with a cluster are those that it wrote to. -/
theorem drops_iff (ht : Tells m h) (cluster text : String) :
    m.Drops cluster text ↔ ∃ w ∈ h.writes cluster, (w.key cluster).text = text := by
  constructor
  · rintro ⟨k, hk, htext⟩
    obtain ⟨w, hw, rfl⟩ := (ht.listed cluster k).mp hk
    exact ⟨w, hw, htext⟩
  · rintro ⟨w, hw, htext⟩
    exact ⟨w.controller, (ht.listed cluster _).mpr ⟨w, hw, rfl⟩, htext⟩

/-- What has a series was written since its cluster was forgotten, so it is listed. -/
theorem indexed (ht : Tells m h) : m.Indexed := by
  have hlisted {key : SeriesKey} {c : String} {w : Write} {text : String}
      (hw : (c, w) ∈ h.shared text) (hkey : w.key c = key) : m.Listed key := by
    subst hkey
    exact (ht.listed c w.controller).mpr ⟨w, History.mem_writes_of_mem_shared hw, rfl⟩
  rintro key (hkey | hkey)
  · obtain ⟨n, hn⟩ := (m.syncs.mem_iff key).mp hkey
    rw [ht.syncs, History.passed?, Option.map_eq_some_iff] at hn
    obtain ⟨first, hlast, he⟩ := hn
    obtain ⟨⟨c, w⟩, hw, hpass⟩ := List.mem_filterMap.mp (List.mem_of_getLast? hlast)
    cases w with
    | sync k =>
      refine hlisted hw ?_
      rw [← (Prod.mk.inj he).1]
      exact Option.some.inj hpass
    | objects k n => cases hpass
  · obtain ⟨n, hn⟩ := (m.objects.mem_iff key).mp hkey
    rw [ht.objects, History.counted?, Option.bind_eq_some_iff] at hn
    obtain ⟨first, hlast, hn⟩ := hn
    obtain ⟨newest, -, he⟩ := Option.map_eq_some_iff.mp hn
    obtain ⟨⟨c, w⟩, hw, hcount⟩ := List.mem_filterMap.mp (List.mem_of_getLast? hlast)
    cases w with
    | sync k => cases hcount
    | objects k n =>
      refine hlisted hw ?_
      rw [← (Prod.mk.inj he).1, ← Option.some.inj hcount]
      rfl

theorem forget (ht : Tells m h) (cluster : String) :
    Tells (m.forget cluster) (.forget cluster :: h) := by
  obtain ⟨hcycles, hlistingErrors, hmanaged⟩ := m.forget_rest cluster
  have hshared (text : String) : History.shared text (.forget cluster :: h) =
      if ∃ w ∈ h.writes cluster, (w.key cluster).text = text then [] else h.shared text := rfl
  classical
  have hlookup (text : String) := m.lookup_forget cluster text
  simp only [ht.drops_iff] at hlookup
  have hwrites (c : String) : History.writes c (.forget cluster :: h) =
      if cluster = c then [] else h.writes c := rfl
  exact {
    written := by
      intro c
      rw [written_forget, ExtTreeMap.mem_erase, ne_eq, Std.LawfulEqOrd.compare_eq_iff_eq,
        ht.written, hwrites]
      by_cases hc : cluster = c <;> simp [hc]
    listed := by
      intro c k
      rw [Listed, written_forget, getD_erase]
      show _ ↔ ∃ w ∈ if cluster = c then [] else h.writes c, w.controller = k
      split
      · simp
      · exact ht.listed c k
    syncs := by
      intro text
      rw [(hlookup text).1, History.passed?, History.passes, hshared]
      split
      · rfl
      · exact ht.syncs text
    objects := by
      intro text
      rw [(hlookup text).2, History.counted?, History.counts, hshared]
      split
      · rfl
      · exact ht.objects text
    failures := by
      intro c
      rw [lookup_launchFailures_forget]
      show _ = total? (if cluster = c then 0 else h.failures c)
      split
      · rfl
      · exact ht.failures c
    managed := hmanaged.trans ht.managed
    cycles := hcycles.trans ht.cycles
    listingErrors := hlistingErrors.trans ht.listingErrors }

/-- A live write makes an entry for its cluster. -/
theorem written_write (ht : Tells m h) {sink cluster : String} (w : Write)
    (htarget : h.target? sink = some cluster) (c : String) :
    c ∈ (m.markWritten cluster w.controller).written ↔ History.writes c (w.step sink :: h) ≠ [] := by
  rw [markWritten, ExtTreeMap.mem_insert, Std.LawfulEqOrd.compare_eq_iff_eq, h.writes_step, htarget,
    ht.written]
  by_cases hc : cluster = c <;> simp [hc]

/-- A live write is listed. -/
theorem listed_write (ht : Tells m h) {sink cluster : String} (w : Write)
    (htarget : h.target? sink = some cluster) (c k : String) :
    (m.markWritten cluster w.controller).Listed ⟨c, k⟩ ↔
      ∃ w' ∈ History.writes c (w.step sink :: h), w'.controller = k := by
  rw [listed_mark, SeriesKey.mk.injEq, h.writes_step, htarget, ht.listed]
  by_cases hc : cluster = c <;> simp [hc]

/-- A live pass is counted. -/
theorem recordSync (ht : Tells m h) {sink cluster : String} (k : String)
    (htarget : h.target? sink = some cluster) :
    Tells (m.recordSync cluster k) (.sync sink k :: h) :=
  { ht with
    written := ht.written_write (.sync k) htarget
    listed := ht.listed_write (.sync k) htarget
    syncs := by
      intro text
      have hpasses := History.passes_step (.sync k) text htarget
      show (m.syncs.update ⟨cluster, k⟩ (· + 1)).entries[text]? = _
      rw [SeriesTable.lookup_update, History.passed?]
      by_cases htext : SeriesKey.text ⟨cluster, k⟩ = text
      · have hcons : History.passes (.sync sink k :: h) text = ⟨cluster, k⟩ :: h.passes text :=
          hpasses.trans (if_pos htext)
        rw [if_pos htext, hcons, List.getLast?_cons, List.length_cons, SeriesTable.slot, htext,
          ExtTreeMap.getD_eq_getD_getElem?, ht.syncs, History.passed?]
        cases hlast : (h.passes text).getLast? with
        | none =>
          rw [List.getLast?_eq_none_iff.mp hlast]
          rfl
        | some first => rfl
      · have hsame : History.passes (.sync sink k :: h) text = h.passes text :=
          hpasses.trans (if_neg htext)
        rw [if_neg htext, hsame]
        exact ht.syncs text
    objects := by
      intro text
      have hsame : History.counts (.sync sink k :: h) text = h.counts text :=
        (History.counts_step (.sync k) text htarget).trans (ite_self _)
      rw [History.counted?, hsame]
      exact ht.objects text }

/-- A live number of objects is kept. -/
theorem setObjects (ht : Tells m h) {sink cluster : String} (k : String) (n : Nat)
    (htarget : h.target? sink = some cluster) :
    Tells (m.setObjects cluster k n) (.objects sink k n :: h) :=
  { ht with
    written := ht.written_write (.objects k n) htarget
    listed := ht.listed_write (.objects k n) htarget
    syncs := by
      intro text
      have hsame : History.passes (.objects sink k n :: h) text = h.passes text :=
        (History.passes_step (.objects k n) text htarget).trans (ite_self _)
      rw [History.passed?, hsame]
      exact ht.syncs text
    objects := by
      intro text
      have hcounts := History.counts_step (.objects k n) text htarget
      show (m.objects.update ⟨cluster, k⟩ fun _ => min n gaugeBound).entries[text]? = _
      rw [SeriesTable.lookup_update, History.counted?]
      by_cases htext : SeriesKey.text ⟨cluster, k⟩ = text
      · have hcons : History.counts (.objects sink k n :: h) text =
            (⟨cluster, k⟩, n) :: h.counts text := hcounts.trans (if_pos htext)
        rw [if_pos htext, hcons, List.getLast?_cons, List.head?_cons, SeriesTable.slot, htext,
          ExtTreeMap.getD_eq_getD_getElem?, ht.objects, History.counted?]
        cases h.counts text with
        | nil => rfl
        | cons newest rest =>
          rw [List.getLast?_cons]
          rfl
      · have hsame : History.counts (.objects sink k n :: h) text = h.counts text :=
          hcounts.trans (if_neg htext)
        rw [if_neg htext, hsame]
        exact ht.objects text }

/-- A dead write says nothing. -/
theorem dead (ht : Tells m h) {sink : String} (w : Write) (htarget : h.target? sink = none) :
    Tells m (w.step sink :: h) := by
  have hwrites (c : String) : History.writes c (w.step sink :: h) = h.writes c := by
    rw [h.writes_step, htarget]
    exact if_neg nofun
  have hw := ht.written
  have hl := ht.listed
  have hs := ht.syncs
  have ho := ht.objects
  simp only [← hwrites] at hw hl
  simp only [History.passed?, History.passes, History.counted?, History.counts,
    ← History.shared_dead w _ htarget] at hs ho
  cases w with
  | sync k => exact { ht with written := hw, listed := hl, syncs := hs, objects := ho }
  | objects k n => exact { ht with written := hw, listed := hl, syncs := hs, objects := ho }

end Tells

end Store

/-! ## Sessions -/

namespace Session

theorem step_write (s : Session) (name : String) (w : Write) :
    s.step (w.step name) = s.write name fun sink k m => sink.write k m w := by
  cases w <;> rfl

theorem store_token (s : Session) (name : String) : (s.token name).2.store = s.store := by
  unfold token
  split <;> rfl

/-- A write that is dead changes nothing at all. -/
theorem step_dead {s : Session} {h : History} {book : List Origin} (hf : Follows s h book)
    {name : String} (w : Write) (htarget : h.target? name = none) : s.step (w.step name) = s := by
  rw [step_write, Session.write, ExtTreeMap.get?_eq_getElem?]
  rcases hf.target name with ⟨hs, -⟩ | ⟨sink, hs, ht⟩
  · rw [hs]
  · rw [htarget] at ht
    have hl : sink.isLive s.cancellation = false := by
      cases hl : sink.isLive s.cancellation with
      | false => rfl
      | true =>
        rw [hl] at ht
        cases ht
    rw [hs]
    cases w <;> simp [Sink.write, Sink.recordSync, Sink.setObjects, hl]

/-- The store of a session goes on as the history does. -/
theorem tells_step {s : Session} {h : History} {book : List Origin} (hf : Follows s h book)
    (ht : s.store.Tells h) (step : Step) : (s.step step).store.Tells (step :: h) := by
  have hwrite (name : String) (w : Write) :
      (s.step (w.step name)).store.Tells (w.step name :: h) := by
    rcases hf.target name with ⟨-, htarget⟩ | ⟨sink, hs, htarget⟩
    · rw [step_dead hf w htarget]
      exact ht.dead w htarget
    · cases hl : sink.isLive s.cancellation with
      | false =>
        rw [hl] at htarget
        rw [step_dead hf w htarget]
        exact ht.dead w htarget
      | true =>
        rw [hl] at htarget
        rw [step_write, Session.write, ExtTreeMap.get?_eq_getElem?, hs]
        cases w with
        | sync k =>
          simp only [Sink.write, Sink.recordSync, hl, if_true]
          exact ht.recordSync k htarget
        | objects k n =>
          simp only [Sink.write, Sink.setObjects, hl, if_true]
          exact ht.setObjects k n htarget
  cases step with
  | managed n => exact ht.setManaged n
  | cycle => exact ht.countCycle
  | listingError => exact ht.countListingError
  | launchFailure cluster => exact ht.launchFailure cluster
  | forget cluster => exact ht.forget cluster
  | sync name k => exact hwrite name (.sync k)
  | objects name k n => exact hwrite name (.objects k n)
  | sink name cluster bound =>
    cases bound with
    | none => exact { ht with }
    | some t =>
      show Store.Tells (s.token t).2.store _
      rw [store_token]
      exact { ht with }
  | child name parent =>
    show Store.Tells (s.token parent).2.store _
    rw [store_token]
    exact { ht with }
  | cancel name =>
    show Store.Tells (s.token name).2.store _
    rw [store_token]
    exact { ht with }

/-- A session tells its history. -/
theorem run_tells (steps : List Step) :
    ∃ book, Follows (run {} steps) steps.reverse book ∧
      (run {} steps).store.Tells steps.reverse := by
  have general (s : Session) (h : History) (book : List Origin) (hf : Follows s h book)
      (ht : s.store.Tells h) : ∃ book, Follows (run s steps) (steps.reverse ++ h) book ∧
        (run s steps).store.Tells (steps.reverse ++ h) := by
    induction steps generalizing s h book with
    | nil => exact ⟨book, hf, ht⟩
    | cons step rest ih =>
      obtain ⟨more, hf'⟩ := hf.step step
      rw [List.reverse_cons, List.append_assoc]
      exact ih _ _ _ hf' (tells_step hf ht step)
  have hrun := general {} [] [] Follows.start Store.Tells.start
  rwa [List.append_nil] at hrun

end Session

/-! ## Samples -/

/-- The samples of a name. -/
def Store.samplesOf (m : Store) (name : String) : List Sample :=
  (m.families.filter fun f => f.name == name).flatMap (·.samples)

namespace Store

theorem samplesOf_syncs (m : Store) : m.samplesOf "fleet_controller_syncs_total" =
    m.syncs.byLabels.toList.map fun x => Sample.of (keyLabels x.1) x.2 := by
  simp [samplesOf, families]

theorem samplesOf_objects (m : Store) : m.samplesOf "fleet_controller_objects" =
    m.objects.byLabels.toList.map fun x => Sample.of (keyLabels x.1) x.2 := by
  simp [samplesOf, families]

theorem samplesOf_launchFailures (m : Store) : m.samplesOf "fleet_launch_failures_total" =
    m.launchFailures.toList.map fun x => Sample.of [("cluster", x.1)] x.2 := by
  simp [samplesOf, families]

end Store

/-- The labels of a controller's sample. -/
def SeriesKey.sample (key : SeriesKey) (n : Nat) : Sample :=
  .of [("cluster", key.cluster), ("controller", key.controller)] n

/-- The samples of a store are what a history says, and there are no others. -/
structure Exports (m : Store) (h : History) : Prop where
  families : m.families.map (·.name) =
    ["fleet_controller_objects", "fleet_controller_syncs_total", "fleet_launch_failures_total",
      "fleet_listing_errors_total", "fleet_managed_clusters", "fleet_reconcile_cycles_total"]
  /-- A series is there once. -/
  once : ∀ f ∈ m.families, (f.samples.map (·.labels)).Nodup
  /-- The sample of a number has the floating point number that stands for it. -/
  values : ∀ labels n, Text.Shortest.Rounds n (Sample.of labels n).value
  /-- The live passes of a text are counted together, under the labels of the first. -/
  sharedSyncs : ∀ s, s ∈ m.samplesOf "fleet_controller_syncs_total" ↔
    ∃ text first, (h.passes text).getLast? = some first ∧
      s = first.sample (h.passes text).length
  /-- The newest number of objects of a text stands under the labels of the oldest. -/
  sharedObjects : ∀ s, s ∈ m.samplesOf "fleet_controller_objects" ↔
    ∃ text first newest, (h.counts text).getLast? = some first ∧
      (h.counts text).head? = some newest ∧ s = first.1.sample (min newest.2 gaugeBound)
  /-- The passes of a controller are counted since its cluster was forgotten. -/
  syncs : h.Apart → ∀ s, s ∈ m.samplesOf "fleet_controller_syncs_total" ↔
    ∃ c k, .sync k ∈ h.writes c ∧ s = SeriesKey.sample ⟨c, k⟩ ((h.writes c).count (.sync k))
  /-- The last number of objects since then is kept, as far as a gauge can hold it. -/
  objects : h.Apart → ∀ s, s ∈ m.samplesOf "fleet_controller_objects" ↔
    ∃ c k n, (h.writes c).findSome? (Write.objects? k) = some n ∧
      s = SeriesKey.sample ⟨c, k⟩ (min n gaugeBound)
  /-- The failed launches of a cluster are counted since it was forgotten. -/
  failures : ∀ s, s ∈ m.samplesOf "fleet_launch_failures_total" ↔
    ∃ c, h.failures c ≠ 0 ∧ s = .of [("cluster", c)] (h.failures c)
  managed : m.samplesOf "fleet_managed_clusters" = [.of [] (min h.managed gaugeBound)]
  cycles : m.samplesOf "fleet_reconcile_cycles_total" = [.of [] h.cycles]
  listingErrors : m.samplesOf "fleet_listing_errors_total" = [.of [] h.listingErrors]

section Table

variable {K : Type} [Ord K] [Std.TransOrd K] [Std.LawfulEqOrd K]

theorem mem_samples (t : ExtTreeMap K Nat) (labels : K → List (String × String)) (s : Sample) :
    s ∈ t.toList.map (fun x => Sample.of (labels x.1) x.2) ↔
      ∃ k v, t[k]? = some v ∧ s = .of (labels k) v := by
  rw [List.mem_map]
  constructor
  · rintro ⟨⟨k, v⟩, hk, rfl⟩
    exact ⟨k, v, ExtTreeMap.mem_toList_iff_getElem?_eq_some.mp hk, rfl⟩
  · rintro ⟨k, v, hk, rfl⟩
    exact ⟨(k, v), ExtTreeMap.mem_toList_iff_getElem?_eq_some.mpr hk, rfl⟩

theorem nodup_samples (t : ExtTreeMap K Nat) (labels : K → List (String × String))
    (hinj : ∀ a b, labels a = labels b → a = b) :
    ((t.toList.map fun x => Sample.of (labels x.1) x.2).map (·.labels)).Nodup := by
  rw [List.map_map]
  refine List.pairwise_map.mpr (t.ordered_keys_toList.imp ?_)
  intro a b hlt he
  rw [hinj _ _ he, Std.ReflOrd.compare_self] at hlt
  cases hlt

end Table

theorem keyLabels_injective (a b : SeriesKey) (h : Store.keyLabels a = Store.keyLabels b) :
    a = b := by
  cases a
  cases b
  simpa [Store.keyLabels] using h

/-- The samples of a family of series, by the texts of their labels. -/
theorem mem_samples_series (t : SeriesTable) (s : Sample) :
    s ∈ t.byLabels.toList.map (fun x => Sample.of (Store.keyLabels x.1) x.2) ↔
      ∃ (text : String) (key : SeriesKey) (n : Nat),
        t.entries[text]? = some (key, n) ∧ s = key.sample n := by
  rw [mem_samples]
  simp only [SeriesTable.lookup_byLabels, SeriesTable.value?_eq_some]
  constructor
  · rintro ⟨key, n, hn, rfl⟩
    exact ⟨key.text, key, n, hn, rfl⟩
  · rintro ⟨text, key, n, hn, rfl⟩
    obtain rfl := t.keyed text key n hn
    exact ⟨key, n, hn, rfl⟩

namespace Store.Tells

variable {m : Store} {h : History}

theorem sharedSyncs (ht : m.Tells h) (s : Sample) :
    s ∈ m.samplesOf "fleet_controller_syncs_total" ↔
      ∃ text first, (h.passes text).getLast? = some first ∧
        s = first.sample (h.passes text).length := by
  rw [samplesOf_syncs, mem_samples_series]
  refine exists_congr fun text => exists_congr fun first => ?_
  rw [ht.syncs, History.passed?]
  simp only [Option.map_eq_some_iff, Prod.mk.injEq]
  constructor
  · rintro ⟨n, ⟨_, hlast, rfl, rfl⟩, rfl⟩
    exact ⟨hlast, rfl⟩
  · rintro ⟨hlast, rfl⟩
    exact ⟨_, ⟨first, hlast, rfl, rfl⟩, rfl⟩

theorem sharedObjects (ht : m.Tells h) (s : Sample) :
    s ∈ m.samplesOf "fleet_controller_objects" ↔
      ∃ text first newest, (h.counts text).getLast? = some first ∧
        (h.counts text).head? = some newest ∧ s = first.1.sample (min newest.2 gaugeBound) := by
  rw [samplesOf_objects, mem_samples_series]
  refine exists_congr fun text => ?_
  simp only [ht.objects, History.counted?, Option.bind_eq_some_iff, Option.map_eq_some_iff,
    Prod.mk.injEq]
  constructor
  · rintro ⟨_, _, ⟨first, hfirst, newest, hnewest, rfl, rfl⟩, rfl⟩
    exact ⟨first, newest, hfirst, hnewest, rfl⟩
  · rintro ⟨first, newest, hfirst, hnewest, rfl⟩
    exact ⟨_, _, ⟨first, hfirst, newest, hnewest, rfl, rfl⟩, rfl⟩

/-- Where labels are told apart, a counter has the passes of its own controller. -/
theorem syncs_of_apart (ht : m.Tells h) (hapart : h.Apart) (s : Sample) :
    s ∈ m.samplesOf "fleet_controller_syncs_total" ↔
      ∃ c k, .sync k ∈ h.writes c ∧
        s = SeriesKey.sample ⟨c, k⟩ ((h.writes c).count (.sync k)) := by
  rw [ht.sharedSyncs]
  constructor
  · rintro ⟨text, first, hlast, rfl⟩
    obtain ⟨rfl, hlabels⟩ := History.mem_passes (List.mem_of_getLast? hlast)
    rw [History.passes_of_alone (hapart.alone hlabels), List.getLast?_replicate] at hlast
    rw [History.passes_of_alone (hapart.alone hlabels), List.length_replicate]
    refine ⟨first.cluster, first.controller, ?_, rfl⟩
    by_contra hnone
    rw [List.count_eq_zero.mpr hnone] at hlast
    cases hlast
  · rintro ⟨c, k, hmem, rfl⟩
    have hpasses : h.passes (SeriesKey.text ⟨c, k⟩) =
        List.replicate ((h.writes c).count (.sync k)) ⟨c, k⟩ :=
      History.passes_of_alone (hapart.alone (History.mem_labels_of_mem_writes hmem))
    refine ⟨SeriesKey.text ⟨c, k⟩, ⟨c, k⟩, ?_, ?_⟩
    · rw [hpasses, List.getLast?_replicate]
      exact if_neg (Nat.ne_of_gt (List.count_pos_iff.mpr hmem))
    · rw [hpasses, List.length_replicate]

/-- And a gauge has its last number of objects. -/
theorem objects_of_apart (ht : m.Tells h) (hapart : h.Apart) (s : Sample) :
    s ∈ m.samplesOf "fleet_controller_objects" ↔
      ∃ c k n, (h.writes c).findSome? (Write.objects? k) = some n ∧
        s = SeriesKey.sample ⟨c, k⟩ (min n gaugeBound) := by
  rw [ht.sharedObjects]
  constructor
  · rintro ⟨text, first, newest, hlast, hhead, rfl⟩
    obtain ⟨rfl, hlabels⟩ := History.mem_counts (List.mem_of_getLast? hlast)
    rw [History.counts_of_alone (hapart.alone hlabels), List.head?_map, List.head?_filterMap,
      Option.map_eq_some_iff] at hhead
    obtain ⟨n, hn, rfl⟩ := hhead
    exact ⟨first.1.cluster, first.1.controller, n, hn, rfl⟩
  · rintro ⟨c, k, n, hn, rfl⟩
    obtain ⟨w, hw, hobjects⟩ := List.exists_of_findSome?_eq_some hn
    have hkey : w.key c = ⟨c, k⟩ := by
      cases w with
      | sync writer => cases hobjects
      | objects writer n =>
        rw [Write.objects?, Option.ite_none_right_eq_some] at hobjects
        rw [Write.key, Write.controller, hobjects.1]
    have hlabels := History.mem_labels_of_mem_writes hw
    rw [hkey] at hlabels
    have hcounts := History.counts_of_alone (hapart.alone hlabels)
    rw [← List.head?_filterMap] at hn
    obtain ⟨rest, hrest⟩ := List.head?_eq_some_iff.mp hn
    have hhead : (h.counts (SeriesKey.text ⟨c, k⟩)).head? = some (⟨c, k⟩, n) := by
      rw [hcounts, hrest]
      rfl
    have hlast : ∃ first, (h.counts (SeriesKey.text ⟨c, k⟩)).getLast? = some first ∧
        first.1 = ⟨c, k⟩ := by
      rw [hcounts, List.getLast?_map, hrest, List.getLast?_cons]
      exact ⟨_, rfl, rfl⟩
    obtain ⟨first, hfirst, hlabel⟩ := hlast
    exact ⟨_, first, _, hfirst, hhead, by rw [hlabel]⟩

/-- What the entries are, the samples are. -/
theorem exports (ht : m.Tells h) : Exports m h where
  families := rfl
  once f hf := by
    simp only [families, List.mem_cons, List.not_mem_nil, or_false] at hf
    rcases hf with rfl | rfl | rfl | rfl | rfl | rfl
    · exact nodup_samples m.objects.byLabels keyLabels keyLabels_injective
    · exact nodup_samples m.syncs.byLabels keyLabels keyLabels_injective
    · refine nodup_samples m.launchFailures (fun c => [("cluster", c)]) ?_
      intro a b he
      simpa using he
    all_goals exact List.nodup_singleton _
  values _ n := Text.Shortest.rounds_nearest n
  sharedSyncs := ht.sharedSyncs
  sharedObjects := ht.sharedObjects
  syncs := ht.syncs_of_apart
  objects := ht.objects_of_apart
  failures s := by
    rw [samplesOf_launchFailures, mem_samples m.launchFailures fun c => [("cluster", c)]]
    constructor
    · rintro ⟨c, v, hc, rfl⟩
      rw [ht.failures c, total?_eq_some] at hc
      obtain ⟨hne, rfl⟩ := hc
      exact ⟨c, hne, rfl⟩
    · rintro ⟨c, hne, rfl⟩
      exact ⟨c, _, by rw [ht.failures c, total?_eq_some]; exact ⟨hne, rfl⟩, rfl⟩
  managed := by
    rw [← ht.managed]
    simp [samplesOf, families]
  cycles := by
    rw [← ht.cycles]
    simp [samplesOf, families]
  listingErrors := by
    rw [← ht.listingErrors]
    simp [samplesOf, families]

end Store.Tells

/-- The samples after any steps are what the history of these steps says, and a write that is dead
by then would change nothing. -/
theorem exports_of_history (steps : List Step) :
    Exports (Session.run {} steps).store steps.reverse ∧
      ∀ (sink : String) (w : Write), History.target? steps.reverse sink = none →
        Session.run {} (steps ++ [w.step sink]) = Session.run {} steps := by
  obtain ⟨book, hf, ht⟩ := Session.run_tells steps
  refine ⟨ht.exports, ?_⟩
  intro sink w htarget
  rw [Session.run, List.foldl_append]
  exact Session.step_dead hf w htarget

/-- A pass of `bc` in `a` is counted for `c` in `ab`, where there has been one. -/
example :
    (Session.run {} [.sink "s" "ab" none, .sink "t" "a" none, .sync "s" "c",
      .sync "t" "bc"]).store.samplesOf "fleet_controller_syncs_total" =
        [SeriesKey.sample ⟨"ab", "c"⟩ 2] := by
  decide +kernel

end Flotilla.Metrics
