import Flotilla.Controllers.Activity
import Flotilla.Proofs.Metrics.Meaning

/-!
# The metrics of one cluster

A cluster labels samples in three families.  `Series` is what they say of it, and
`Store.seriesOf` reads this off the metrics.

Among labels that tell a cluster apart (`Store.Parted`), what is written for the
cluster and to forget it changes its series, and what is done for others does not.
Two stores that say the same of a cluster export the same samples for it
(`mem_samplesOf_congr`).  Effects of the controllers of a cluster change its series
as what they write does (`seriesOf_foldl_record`).
-/

namespace Flotilla.Metrics

open Std (ExtTreeMap ExtTreeSet)

/-- What the metrics say of one cluster. -/
@[ext] structure Series where
  /-- Its failed launches. -/
  failures : Option Nat := none
  /-- The completed passes of each controller. -/
  syncs : String → Option Nat := fun _ => none
  /-- The objects of each controller. -/
  objects : String → Option Nat := fun _ => none

namespace Series

/-- The series after a failed launch. -/
def fail (s : Series) : Series := { s with failures := some (s.failures.getD 0 + 1) }

/-- The series after a write. -/
def write (s : Series) : Write → Series
  | .sync controller =>
    { s with
      syncs := fun k =>
        if controller = k then some ((s.syncs controller).getD 0 + 1) else s.syncs k }
  | .objects controller n =>
    { s with
      objects := fun k => if controller = k then some (min n gaugeBound) else s.objects k }

/-- What a controller wrote and what others wrote are kept apart. -/
theorem write_congr {controller : String} {s s' : Series} (w : Write)
    (hsyncs : s.syncs controller = s'.syncs controller)
    (hobjects : s.objects controller = s'.objects controller) :
    (s.write w).syncs controller = (s'.write w).syncs controller ∧
      (s.write w).objects controller = (s'.write w).objects controller := by
  cases w with
  | sync writer =>
    refine ⟨?_, hobjects⟩
    simp only [write]
    split
    · next h => rw [h, hsyncs]
    · exact hsyncs
  | objects writer n =>
    refine ⟨hsyncs, ?_⟩
    simp only [write]
    split
    · rfl
    · exact hobjects

theorem write_of_ne {controller : String} (s : Series) {w : Write} (h : w.controller ≠ controller) :
    (s.write w).syncs controller = s.syncs controller ∧
      (s.write w).objects controller = s.objects controller := by
  cases w with
  | sync writer => exact ⟨if_neg h, rfl⟩
  | objects writer n => exact ⟨rfl, if_neg h⟩

/-- What a controller wrote is told by its own writes, in their order. -/
theorem foldl_write_filter (controller : String) (writes : List Write) {s s' : Series}
    (hsyncs : s.syncs controller = s'.syncs controller)
    (hobjects : s.objects controller = s'.objects controller) :
    (writes.foldl write s).syncs controller =
        ((writes.filter fun w => w.controller == controller).foldl write s').syncs controller ∧
      (writes.foldl write s).objects controller =
        ((writes.filter fun w => w.controller == controller).foldl write s').objects controller := by
  induction writes generalizing s s' with
  | nil => exact ⟨hsyncs, hobjects⟩
  | cons w rest ih =>
    rw [List.foldl_cons]
    by_cases hw : w.controller = controller
    · rw [List.filter_cons, if_pos (beq_iff_eq.mpr hw), List.foldl_cons]
      obtain ⟨hsyncs', hobjects'⟩ := write_congr w hsyncs hobjects
      exact ih hsyncs' hobjects'
    · rw [List.filter_cons, if_neg (fun h => hw (beq_iff_eq.mp h))]
      obtain ⟨hsyncs', hobjects'⟩ := s.write_of_ne hw
      exact ih (hsyncs'.trans hsyncs) (hobjects'.trans hobjects)

/-- What a controller writes in so many passes: each is completed and has found something. -/
def passWrites (controller : String) (found : Nat → Nat) (count : Nat) : List Write :=
  (List.range count).flatMap fun k => [.sync controller, .objects controller (found k)]

/-- Passes are counted, and what the last one has found stays. -/
theorem foldl_passWrites (s : Series) (controller : String) (found : Nat → Nat) (count : Nat) :
    ((passWrites controller found count).foldl write s).syncs controller =
        (if count = 0 then s.syncs controller
        else some ((s.syncs controller).getD 0 + count)) ∧
      ((passWrites controller found count).foldl write s).objects controller =
        (if count = 0 then s.objects controller
        else some (min (found (count - 1)) gaugeBound)) := by
  induction count with
  | zero => exact ⟨rfl, rfl⟩
  | succ count ih =>
    obtain ⟨hsyncs, -⟩ := ih
    rw [passWrites, List.range_succ, List.flatMap_append, List.flatMap_singleton,
      List.foldl_append, ← passWrites]
    generalize (passWrites controller found count).foldl write s = s' at hsyncs
    simp only [List.foldl_cons, List.foldl_nil, write, if_true, hsyncs]
    refine ⟨?_, rfl⟩
    cases count <;> simp [Nat.add_assoc]

end Series

namespace Store

/-- What the metrics say of a cluster. -/
def seriesOf (m : Store) (cluster : String) : Series where
  failures := m.launchFailures[cluster]?
  syncs controller := m.syncs.value? ⟨cluster, controller⟩
  objects controller := m.objects.value? ⟨cluster, controller⟩

/-! ## Metrics in which a cluster is told apart -/

/-- The labels of the index are among some. -/
def Within (m : Store) (P : SeriesKey → Prop) : Prop := ∀ key, m.Listed key → P key

namespace Within

variable {m : Store} {P : SeriesKey → Prop}

theorem start : Within {} P := fun key hkey => by simp [Listed] at hkey

theorem forget (h : m.Within P) (c : String) : (m.forget c).Within P := by
  intro key hkey
  rw [Listed, written_forget, getD_erase] at hkey
  split at hkey
  · exact absurd hkey ExtTreeSet.not_mem_empty
  · exact h key hkey

/-- A mark adds its own labels. -/
theorem mark (h : m.Within P) {c controller : String} (hkey : P ⟨c, controller⟩) :
    (m.markWritten c controller).Within P := by
  intro key hlisted
  rcases (m.listed_mark c controller key).mp hlisted with rfl | hlisted
  · exact hkey
  · exact h key hlisted

theorem write (h : m.Within P) (sink : Sink) (cancellation : Cancellation) {w : Write}
    (hw : P (w.key sink.cluster)) : (sink.write cancellation m w).Within P := by
  cases w with
  | sync controller =>
    simp only [Sink.write, Sink.recordSync]
    split
    · exact h.mark hw
    · exact h
  | objects controller n =>
    simp only [Sink.write, Sink.setObjects]
    split
    · exact h.mark hw
    · exact h

theorem writes (h : m.Within P) (sink : Sink) (cancellation : Cancellation)
    {writes : List Write} (hwrites : ∀ w ∈ writes, P (w.key sink.cluster)) :
    (writes.foldl (sink.write cancellation) m).Within P := by
  induction writes generalizing m with
  | nil => exact h
  | cons w rest ih =>
    rw [List.forall_mem_cons] at hwrites
    exact ih (h.write sink cancellation hwrites.1) hwrites.2

end Within

/-- The labels of the index are among some which tell a cluster apart. -/
structure Parted (m : Store) (P : SeriesKey → Prop) (cluster : String) : Prop where
  indexed : m.Indexed
  clear : SeriesKey.Clear P cluster
  within : m.Within P

namespace Parted

variable {m : Store} {P : SeriesKey → Prop} {cluster : String}

theorem start (hclear : SeriesKey.Clear P cluster) : Parted {} P cluster where
  indexed := Indexed.start
  clear := hclear
  within := .start

theorem syncs (h : m.Parted P cluster) : ∀ key ∈ m.syncs, P key :=
  fun key hkey => h.within key (h.indexed key (Or.inl hkey))

theorem objects (h : m.Parted P cluster) : ∀ key ∈ m.objects, P key :=
  fun key hkey => h.within key (h.indexed key (Or.inr hkey))

theorem recordSync (h : m.Parted P cluster) {c controller : String} (hkey : P ⟨c, controller⟩) :
    (m.recordSync c controller).Parted P cluster :=
  ⟨h.indexed.recordSync c controller, h.clear, h.within.mark hkey⟩

theorem setObjects (h : m.Parted P cluster) {c controller : String} (n : Nat)
    (hkey : P ⟨c, controller⟩) : (m.setObjects c controller n).Parted P cluster :=
  ⟨h.indexed.setObjects c controller n, h.clear, h.within.mark hkey⟩

theorem write (h : m.Parted P cluster) (sink : Sink) (cancellation : Cancellation) {w : Write}
    (hw : P (w.key sink.cluster)) : (sink.write cancellation m w).Parted P cluster :=
  ⟨h.indexed.write sink cancellation w, h.clear, h.within.write sink cancellation hw⟩

end Parted

/-! ## Changes -/

/-- A write through a sink counts no failed launch. -/
theorem launchFailures_write (sink : Sink) (cancellation : Cancellation) (w : Write) (m : Store) :
    (sink.write cancellation m w).launchFailures = m.launchFailures := by
  cases w with
  | sync controller =>
    simp only [Sink.write, Sink.recordSync]
    split <;> rfl
  | objects controller n =>
    simp only [Sink.write, Sink.setObjects]
    split <;> rfl

theorem launchFailures_writes (sink : Sink) (cancellation : Cancellation) (writes : List Write)
    (m : Store) :
    (writes.foldl (sink.write cancellation) m).launchFailures = m.launchFailures := by
  induction writes generalizing m with
  | nil => rfl
  | cons w rest ih => exact (ih _).trans (launchFailures_write sink cancellation w m)

theorem seriesOf_countLaunchFailure (m : Store) (c k : String) :
    (m.countLaunchFailure c).seriesOf k =
      if c = k then (m.seriesOf k).fail else m.seriesOf k := by
  ext1 <;> by_cases hc : c = k <;>
    simp [countLaunchFailure, seriesOf, Series.fail, lookup_insert, hc,
      ExtTreeMap.getD_eq_getD_getElem?]

section Parted

variable {m : Store} {P : SeriesKey → Prop} {k : String} (h : m.Parted P k)

include h

/-- What is dropped with another cluster has no labels of this one. -/
theorem Parted.value?_of_drops {c controller : String}
    (hdrops : m.Drops c (SeriesKey.text ⟨k, controller⟩)) (hc : c ≠ k) :
    m.syncs.value? ⟨k, controller⟩ = none ∧ m.objects.value? ⟨k, controller⟩ = none := by
  obtain ⟨writer, hlisted, htext⟩ := hdrops
  have hnone (hkey : P ⟨k, controller⟩) : False :=
    hc (h.clear _ _ hkey (h.within _ hlisted) htext.symm rfl)
  constructor
  · exact Option.not_isSome_iff_eq_none.mp fun hs => hnone (h.syncs _ hs)
  · exact Option.not_isSome_iff_eq_none.mp fun ho => hnone (h.objects _ ho)

/-- What is not dropped with a cluster was not there. -/
theorem Parted.value?_of_not_drops {controller : String}
    (hkept : ¬ m.Drops k (SeriesKey.text ⟨k, controller⟩)) :
    m.syncs.value? ⟨k, controller⟩ = none ∧ m.objects.value? ⟨k, controller⟩ = none := by
  have hnone (hkey : (⟨k, controller⟩ : SeriesKey) ∈ m.syncs ∨
      (⟨k, controller⟩ : SeriesKey) ∈ m.objects) : False := h.indexed.cluster_ne hkey hkept rfl
  constructor
  · exact Option.not_isSome_iff_eq_none.mp fun hs => hnone (Or.inl hs)
  · exact Option.not_isSome_iff_eq_none.mp fun ho => hnone (Or.inr ho)

theorem Parted.seriesOf_forget (c : String) :
    (m.forget c).seriesOf k = if c = k then {} else m.seriesOf k := by
  classical
  have hvalue (controller : String) := m.value?_forget c ⟨k, controller⟩
  by_cases hc : c = k
  · subst hc
    rw [if_pos rfl]
    ext1
    case failures => simp [seriesOf, lookup_launchFailures_forget]
    case syncs =>
      funext controller
      refine (hvalue controller).1.trans ?_
      split
      · rfl
      · next hkept => exact (h.value?_of_not_drops hkept).1
    case objects =>
      funext controller
      refine (hvalue controller).2.trans ?_
      split
      · rfl
      · next hkept => exact (h.value?_of_not_drops hkept).2
  · rw [if_neg hc]
    ext1
    case failures => simp [seriesOf, lookup_launchFailures_forget, hc]
    case syncs =>
      funext controller
      refine (hvalue controller).1.trans ?_
      split
      · next hdrops => exact (h.value?_of_drops hdrops hc).1.symm
      · rfl
    case objects =>
      funext controller
      refine (hvalue controller).2.trans ?_
      split
      · next hdrops => exact (h.value?_of_drops hdrops hc).2.symm
      · rfl

theorem Parted.seriesOf_recordSync {c controller : String} (hkey : P ⟨c, controller⟩) :
    (m.recordSync c controller).seriesOf k =
      if c = k then (m.seriesOf k).write (.sync controller) else m.seriesOf k := by
  have hvalue (writer : String) := m.syncs.value?_update ⟨c, controller⟩ ⟨k, writer⟩ (· + 1)
  by_cases hc : c = k
  · subst hc
    rw [m.syncs.slot_of_clear _ h.clear h.syncs hkey rfl] at hvalue
    rw [if_pos rfl]
    ext1
    case syncs =>
      funext writer
      refine (hvalue writer).trans ?_
      by_cases hw : controller = writer
      · subst hw
        simp [Series.write, seriesOf]
      · simp [Series.write, seriesOf, hw]
    all_goals rfl
  · have hslot := m.syncs.cluster_slot_of_clear _ h.clear h.syncs hkey hc
    rw [if_neg hc]
    ext1
    case syncs =>
      funext writer
      exact (hvalue writer).trans (if_neg fun he => hslot (congrArg SeriesKey.cluster he))
    all_goals rfl

theorem Parted.seriesOf_setObjects {c controller : String} (n : Nat) (hkey : P ⟨c, controller⟩) :
    (m.setObjects c controller n).seriesOf k =
      if c = k then (m.seriesOf k).write (.objects controller n) else m.seriesOf k := by
  have hvalue (writer : String) :=
    m.objects.value?_update ⟨c, controller⟩ ⟨k, writer⟩ fun _ => min n gaugeBound
  by_cases hc : c = k
  · subst hc
    rw [m.objects.slot_of_clear _ h.clear h.objects hkey rfl] at hvalue
    rw [if_pos rfl]
    ext1
    case objects =>
      funext writer
      refine (hvalue writer).trans ?_
      by_cases hw : controller = writer
      · subst hw
        simp [Series.write]
      · simp [Series.write, seriesOf, hw]
    all_goals rfl
  · have hslot := m.objects.cluster_slot_of_clear _ h.clear h.objects hkey hc
    rw [if_neg hc]
    ext1
    case objects =>
      funext writer
      exact (hvalue writer).trans (if_neg fun he => hslot (congrArg SeriesKey.cluster he))
    all_goals rfl

/-- A write through a live sink changes the series of the cluster of the sink, and any other write
changes none. -/
theorem Parted.seriesOf_write (sink : Sink) (cancellation : Cancellation) {w : Write}
    (hw : P (w.key sink.cluster)) :
    (sink.write cancellation m w).seriesOf k =
      if sink.cluster = k ∧ sink.isLive cancellation = true then (m.seriesOf k).write w
      else m.seriesOf k := by
  cases hlive : sink.isLive cancellation with
  | false => cases w <;> simp [Sink.write, Sink.recordSync, Sink.setObjects, hlive]
  | true =>
    cases w with
    | sync controller =>
      have hrecord := h.seriesOf_recordSync (show P ⟨sink.cluster, controller⟩ from hw)
      simpa [Sink.write, Sink.recordSync, hlive] using hrecord
    | objects controller n =>
      have hset := h.seriesOf_setObjects n (show P ⟨sink.cluster, controller⟩ from hw)
      simpa [Sink.write, Sink.setObjects, hlive] using hset

theorem Parted.seriesOf_writes (sink : Sink) (cancellation : Cancellation) {writes : List Write}
    (hwrites : ∀ w ∈ writes, P (w.key sink.cluster)) :
    (writes.foldl (sink.write cancellation) m).seriesOf k =
      if sink.cluster = k ∧ sink.isLive cancellation = true then
        writes.foldl Series.write (m.seriesOf k)
      else m.seriesOf k := by
  induction writes generalizing m with
  | nil => simp
  | cons w rest ih =>
    rw [List.forall_mem_cons] at hwrites
    rw [List.foldl_cons, ih (h.write sink cancellation hwrites.1) hwrites.2,
      h.seriesOf_write sink cancellation hwrites.1]
    split <;> rfl

end Parted

/-! ## Samples -/

theorem mem_samplesOf {m : Store} {name : String} {s : Sample} :
    s ∈ m.samplesOf name ↔ ∃ f ∈ m.families, f.name = name ∧ s ∈ f.samples := by
  simp [samplesOf, and_assoc]

/-- Every sample of a cluster is in any other metrics that say the same of the cluster. -/
theorem mem_samplesOf_of_seriesOf {m m' : Store} {k : String} (h : m.seriesOf k = m'.seriesOf k)
    {name : String} {s : Sample} (hs : ("cluster", k) ∈ s.labels) (hm : s ∈ m.samplesOf name) :
    s ∈ m'.samplesOf name := by
  obtain ⟨hfailures, hsyncs, hobjects⟩ := (Series.ext_iff ..).mp h
  rw [mem_samplesOf] at hm ⊢
  obtain ⟨f, hf, rfl, hm⟩ := hm
  simp only [families, List.mem_cons, List.not_mem_nil, or_false] at hf
  rcases hf with rfl | rfl | rfl | rfl | rfl | rfl
  · obtain ⟨key, v, hv, rfl⟩ := (mem_samples m.objects.byLabels keyLabels s).mp hm
    obtain rfl : k = key.cluster := by simpa [Sample.of, keyLabels] using hs
    refine ⟨_, List.mem_cons_self, rfl,
      (mem_samples m'.objects.byLabels keyLabels _).mpr ⟨key, v, ?_, rfl⟩⟩
    rw [SeriesTable.lookup_byLabels] at hv ⊢
    exact (congrFun hobjects key.controller).symm.trans hv
  · obtain ⟨key, v, hv, rfl⟩ := (mem_samples m.syncs.byLabels keyLabels s).mp hm
    obtain rfl : k = key.cluster := by simpa [Sample.of, keyLabels] using hs
    refine ⟨_, List.mem_cons_of_mem _ List.mem_cons_self, rfl,
      (mem_samples m'.syncs.byLabels keyLabels _).mpr ⟨key, v, ?_, rfl⟩⟩
    rw [SeriesTable.lookup_byLabels] at hv ⊢
    exact (congrFun hsyncs key.controller).symm.trans hv
  · obtain ⟨c, v, hv, rfl⟩ := (mem_samples m.launchFailures (fun c => [("cluster", c)]) s).mp hm
    obtain rfl : k = c := by simpa [Sample.of] using hs
    refine ⟨_, List.mem_cons_of_mem _ (List.mem_cons_of_mem _ List.mem_cons_self), rfl,
      (mem_samples m'.launchFailures (fun c => [("cluster", c)]) _).mpr ⟨k, v, ?_, rfl⟩⟩
    exact hfailures.symm.trans hv
  all_goals
    obtain rfl := List.mem_singleton.mp hm
    cases hs

/-- The samples of failed launches follow from what is counted for the cluster. -/
theorem mem_failures_congr {m m' : Store} {k : String}
    (h : m.launchFailures[k]? = m'.launchFailures[k]?) {s : Sample} (hs : ("cluster", k) ∈ s.labels) :
    s ∈ m.samplesOf "fleet_launch_failures_total" ↔
      s ∈ m'.samplesOf "fleet_launch_failures_total" := by
  have hmem (m : Store) : s ∈ m.samplesOf "fleet_launch_failures_total" ↔
      ∃ n, m.launchFailures[k]? = some n ∧ s = .of [("cluster", k)] n := by
    have hfamily : m.samplesOf "fleet_launch_failures_total" =
        m.launchFailures.toList.map fun x => .of [("cluster", x.1)] x.2 := by
      simp [samplesOf, families]
    rw [hfamily, mem_samples m.launchFailures fun c => [("cluster", c)]]
    constructor
    · rintro ⟨c, n, hn, rfl⟩
      obtain rfl : k = c := by simpa [Sample.of] using hs
      exact ⟨n, hn, rfl⟩
    · rintro ⟨n, hn, rfl⟩
      exact ⟨k, n, hn, rfl⟩
  rw [hmem, hmem, h]

/-- Metrics that say the same of a cluster export the same samples for it. -/
theorem mem_samplesOf_congr {m m' : Store} {k : String} (h : m.seriesOf k = m'.seriesOf k)
    {name : String} {s : Sample} (hs : ("cluster", k) ∈ s.labels) :
    s ∈ m.samplesOf name ↔ s ∈ m'.samplesOf name :=
  ⟨mem_samplesOf_of_seriesOf h hs, mem_samplesOf_of_seriesOf h.symm hs⟩

end Store

end Flotilla.Metrics

namespace Flotilla.Controllers

open Metrics (Series SeriesKey)

/-- What is done to the series of a cluster by effects of its controllers, where the cluster is told
apart. -/
theorem seriesOf_foldl_record {cluster : String} {P : SeriesKey → Prop}
    (hown : ∀ controller, P ⟨cluster, controller⟩) (effects : List (Time.Moment × String × Effect))
    {m : Metrics.Store} (h : m.Parted P cluster) :
    (effects.foldl (fun store x => x.2.2.record cluster x.2.1 store) m).seriesOf cluster =
      (effects.filterMap fun x => x.2.2.write? x.2.1).foldl Series.write (m.seriesOf cluster) := by
  induction effects generalizing m with
  | nil => rfl
  | cons x rest ih =>
    obtain ⟨moment, controller, e⟩ := x
    rw [List.foldl_cons]
    cases e with
    | log line => exact ih h
    | sync =>
      refine (ih (h.recordSync (hown controller))).trans ?_
      rw [(h.seriesOf_recordSync (hown controller)).trans (if_pos rfl)]
      rfl
    | objects n =>
      refine (ih (h.setObjects n (hown controller))).trans ?_
      rw [(h.seriesOf_setObjects n (hown controller)).trans (if_pos rfl)]
      rfl

end Flotilla.Controllers
