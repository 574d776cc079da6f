import Flotilla.Proofs.Controllers.Journal
import Flotilla.Proofs.Instance.Records

/-!
# The rounds of an instance

The controllers of an instance make a pass when the stores they read have their lists, and then one
every period.  The service controller reads two stores, whose lists may come at different moments,
and needs both.  What it records is how many passes it has completed, and how many load balancers
the store had at the last one.

* `Informers.syncedAt`: when a store has its list.
* `Watch.Rounds`: the passes of the service controller, and what it records of them.
* `rounds_on_schedule`: both controllers of an instance, whatever stores get ready.
-/

namespace Flotilla

open Time (Moment)

/-- When the store of a feed has its list, if it ever does. -/
def Apiserver.Informers.syncedAt {α : Type} [Apiserver.Identified α] (i : Apiserver.Informers)
    (feed : Apiserver.Feed α) : Option Moment :=
  i.start.bind fun start =>
    if feed.ready (feed.listedAt start) then some (feed.listedAt start) else none

namespace Instance

open Controllers (Activity Effect Term Node.run)
open Controllers.Service (HeldBefore balancersAt knownBefore lookupsBegun nth passes since)
open Metrics (Series SeriesKey gaugeBound)

/-- How the controllers of an instance run. -/
def Watch.term (w : Watch) : Term := w.launch.term w.stop

/-- The load balancers that the store had at the last of so many passes. -/
def balancersBefore (t : Term) : Nat → List Kube.Service
  | 0 => []
  | k + 1 => balancersAt t (nth t k).begun

/-- The service controller of an instance both of whose stores have their lists from a moment on. -/
structure Watch.Rounds (w : Watch) (t₀ : Moment) : Prop where
  /-- The first pass begins then. -/
  first : (nth w.term 0).begun = t₀
  /-- A pass that is due while another is under way begins when that one ends. -/
  next : ∀ k, (nth w.term (k + 1)).begun =
    max (t₀ + (k + 1) * w.launch.plan.period) (nth w.term k).ended
  /-- So every pass ends a run of passes without a pause, the first of which was on time. -/
  streak : ∀ k, ∃ i, i ≤ k ∧ (nth w.term i).begun = t₀ + i * w.launch.plan.period ∧
    ∀ j, i ≤ j → j < k → (nth w.term (j + 1)).begun = (nth w.term j).ended
  /-- These are the passes that the controller begins, and no other. -/
  made : ∀ h k pass completed, w.term.stoppedBy h = false → pass.begun ≤ h →
    ((passes w.term h)[k]? = some (pass, completed) ↔
      pass = nth w.term k ∧ completed = !w.term.stoppedBy pass.ended)
  /-- It records how many are completed, and how many load balancers there were at the last: none
  before the first.  They are counted by their keys, which are as many as they are if namespaces
  are as with Kubernetes. -/
  records : ∀ h, t₀ ≤ h → w.term.stoppedBy h = false → (∀ m, (m, .forget) ∈ w.acts → h < m) →
    ∃ (count : Nat) (keys : List String), (∀ k, k < count ↔ (nth w.term k).ended ≤ h) ∧
      keys.Nodup ∧ (∀ key, key ∈ keys ↔ HeldBefore w.term count key) ∧
      ((∀ s, w.launch.world.services.Tells s → Apiserver.NamespaceFits s) →
        keys.length = (balancersBefore w.term count).length) ∧
      (w.metricsAt h).syncs.value? ⟨w.launch.client.cluster, "service"⟩ =
        (if count = 0 then none else some count) ∧
      (w.metricsAt h).objects.value? ⟨w.launch.client.cluster, "service"⟩ =
        some (min keys.length gaugeBound)

/-- The passes of an instance. -/
structure Watch.OnSchedule (w : Watch) : Prop where
  /-- The service controller begins when the later one of its stores has its list. -/
  service : ∀ a b, w.term.informers.syncedAt w.launch.world.services = some a →
    w.term.informers.syncedAt w.launch.world.nodes = some b → w.Rounds (max a b)
  /-- Until then, or for ever if one never has, it does nothing. -/
  idle : ∀ h, (∀ a b, w.term.informers.syncedAt w.launch.world.services = some a →
      w.term.informers.syncedAt w.launch.world.nodes = some b → h < max a b) →
    passes w.term h = [] ∧ lookupsBegun w.term h = [] ∧
      ((∀ m, (m, .forget) ∈ w.acts → h < m) →
        (w.metricsAt h).syncs.value? ⟨w.launch.client.cluster, "service"⟩ = none ∧
          (w.metricsAt h).objects.value? ⟨w.launch.client.cluster, "service"⟩ = some 0)
  /-- The node controller does not care for the services. -/
  node : ∀ a, w.term.informers.syncedAt w.launch.world.nodes = some a →
    ∀ h, a ≤ h → w.term.stoppedBy h = false →
      (Node.run w.term h).filter (fun x => x.2 = .sync) =
        (List.range ((h - a) / w.launch.plan.period + 1)).map fun k =>
          (a + k * w.launch.plan.period, .sync)

/-! ## The wait for the stores -/

section

variable {w : Watch} (hok : w.launch.succeeded = true)

include hok

theorem start_term : w.term.informers.start = some w.term.start := Launch.start_informers hok

theorem syncedAt_eq_some {α : Type} [Apiserver.Identified α] {feed : Apiserver.Feed α} {a : Moment} :
    w.term.informers.syncedAt feed = some a ↔
      w.term.listedAt feed = a ∧ feed.ready (feed.listedAt w.term.start) = true := by
  rw [Apiserver.Informers.syncedAt, start_term hok, Option.bind_some,
    Term.listedAt_eq (start_term hok)]
  split
  · next hready => simp [hready]
  · next hready => simp [hready]

/-- The controller gets to see a store that has its list before the token fires. -/
theorem waitFor_of_synced {α : Type} [Apiserver.Identified α] {feed : Apiserver.Feed α} {a h : Moment}
    (ha : w.term.informers.syncedAt feed = some a) (hle : a ≤ h)
    (hopen : w.term.stoppedBy h = false) : w.term.waitFor feed = .ready := by
  obtain ⟨rfl, hready⟩ := (syncedAt_eq_some hok).mp ha
  rw [Term.listedAt_eq (start_term hok)] at hle
  exact (Term.waitFor_eq_ready (start_term hok) feed).mpr ⟨Term.stoppedBy_mono hle hopen, hready⟩

theorem synced_of_waitFor {α : Type} [Apiserver.Identified α] {feed : Apiserver.Feed α}
    (h : w.term.waitFor feed = .ready) :
    w.term.informers.syncedAt feed = some (w.term.listedAt feed) :=
  (syncedAt_eq_some hok).mpr ⟨rfl, ((Term.waitFor_eq_ready (start_term hok) feed).mp h).2⟩

/-- Until both lists have come the service controller waits. -/
theorem passes_eq_nil (hperiod : 0 < w.launch.plan.period) {h : Moment}
    (hearly : ∀ a b, w.term.informers.syncedAt w.launch.world.services = some a →
      w.term.informers.syncedAt w.launch.world.nodes = some b → h < max a b) :
    passes w.term h = [] := by
  refine List.eq_nil_iff_forall_not_mem.mpr fun x hx => ?_
  obtain ⟨k, hk⟩ := List.mem_iff_getElem?.mp hx
  obtain ⟨hready, hdue, -⟩ := (Controllers.Service.getElem?_passes hperiod).mp hk
  obtain ⟨hservices, hnodes⟩ := Term.waitBoth_eq_ready.mp hready
  have hlt : h < since w.term :=
    hearly _ _ (synced_of_waitFor hok hservices) (synced_of_waitFor hok hnodes)
  exact Nat.lt_irrefl h (Nat.lt_of_lt_of_le hlt (Nat.le_trans (w.term.le_due _ k) hdue))

end

/-! ## The records -/

/-- What a controller writes until so many passes are completed: no objects when it is built, and
after each pass what was found. -/
def roundWrites (controller : String) (found : Nat → Nat) (count : Nat) : List Metrics.Write :=
  .objects controller 0 :: Series.passWrites controller found count

theorem foldl_roundWrites (controller : String) (found : Nat → Nat) (count : Nat) :
    ((roundWrites controller found count).foldl Series.write {}).syncs controller =
        (if count = 0 then none else some count) ∧
      ((roundWrites controller found count).foldl Series.write {}).objects controller =
        some (if count = 0 then 0 else min (found (count - 1)) gaugeBound) := by
  obtain ⟨hsyncs, hobjects⟩ :=
    Series.foldl_passWrites (Series.write {} (.objects controller 0)) controller found count
  rw [roundWrites, List.foldl_cons, hsyncs, hobjects]
  cases count <;> simp [Series.write]

/-- The load balancers before a pass are those of the pass before it. -/
theorem size_knownBefore (t : Term) (count : Nat) : (knownBefore t count).size =
    if count = 0 then 0 else (nth t (count - 1)).summary.loadBalancers := by
  cases count with
  | zero => exact Std.ExtTreeSet.size_empty
  | succ k =>
    rw [if_neg (Nat.succ_ne_zero k), Nat.add_sub_cancel, Controllers.Service.nth_eq]
    exact congrArg (·.known.size) (Controllers.Service.nth_eq t k)

theorem size_knownBefore_eq_length {t : Term}
    (hfits : ∀ s, t.informers.world.services.Tells s → Apiserver.NamespaceFits s) (count : Nat) :
    (knownBefore t count).size = (balancersBefore t count).length := by
  rw [size_knownBefore]
  cases count with
  | zero => rfl
  | succ k => exact (Controllers.Service.counts_nth hfits k).loadBalancers

/-- So many passes have ended by a moment. -/
theorem exists_count {t : Term} (hperiod : 0 < t.period) (h : Moment) :
    ∃ count, ∀ k, k < count ↔ (nth t k).ended ≤ h := by
  have upTo (n : Nat) : ∃ count, count ≤ n ∧ ∀ k < n, (k < count ↔ (nth t k).ended ≤ h) := by
    induction n with
    | zero => exact ⟨0, Nat.le_refl 0, fun k hk => absurd hk (Nat.not_lt_zero k)⟩
    | succ n ih =>
      by_cases hn : (nth t n).ended ≤ h
      · refine ⟨n + 1, Nat.le_refl _, ?_⟩
        intro k hk
        have hle := Controllers.Service.ended_mono t (Nat.le_of_lt_succ hk)
        exact iff_of_true hk (Nat.le_trans hle hn)
      · obtain ⟨count, hle, hcount⟩ := ih
        refine ⟨count, Nat.le_succ_of_le hle, ?_⟩
        intro k hk
        rcases Nat.lt_succ_iff_lt_or_eq.mp hk with hlt | rfl
        · exact hcount k hlt
        · exact iff_of_false (Nat.not_lt.mpr hle) hn
  obtain ⟨count, hle, hcount⟩ := upTo (h + 1)
  refine ⟨count, fun k => ?_⟩
  by_cases hk : k < h + 1
  · exact hcount k hk
  · -- a pass with such a number is not even due
    have hdue : k ≤ t.due (since t) k :=
      Nat.le_trans (Nat.le_mul_of_pos_right k hperiod) (Nat.le_add_left _ _)
    have hended := Nat.le_trans hdue (Nat.le_trans (Controllers.Service.due_le_begun t k)
      (Controllers.Service.begun_le_ended t k))
    refine iff_of_false ?_ ?_
    · exact Nat.not_lt.mpr (Nat.le_trans hle (Nat.le_of_not_lt hk))
    · exact Nat.not_le.mpr (Nat.lt_of_lt_of_le (Nat.lt_of_not_le fun hle =>
        hk (Nat.lt_succ_of_le hle)) hended)

theorem sorted_activityOf (l : Launch) (stop : Option Moment) (h : Moment) :
    (l.activityOf stop false h .service).Pairwise fun x y => x.1 ≤ y.1 := by
  have hrun := Controllers.Service.run_sorted (l.term stop) false h
  refine List.pairwise_cons.mpr ⟨fun x hx => ?_, hrun⟩
  exact Controllers.Service.start_le_of_mem_run hx

/-- The metrics say of the service controller what it wrote. -/
theorem records_eq {w : Watch} (found : Nat → Nat) (count : Nat)
    (hone : w.launch.started.filter (fun b => b.name == "service") = [.service]) {h : Moment}
    (hkept : ∀ m, (m, .forget) ∈ w.acts → h < m)
    (hwrites : (Controllers.Service.run w.term false h).writes "service" =
      Series.passWrites "service" found count) :
    (w.metricsAt h).syncs.value? ⟨w.launch.client.cluster, "service"⟩ =
        (if count = 0 then none else some count) ∧
      (w.metricsAt h).objects.value? ⟨w.launch.client.cluster, "service"⟩ =
        some (if count = 0 then 0 else min (found (count - 1)) gaugeBound) := by
  have hall : (w.launch.activityOf w.stop false h .service).writes "service" =
      roundWrites "service" found count := by
    have hrun : w.launch.activityOf w.stop false h .service =
        (w.launch.ended, .objects 0) :: Controllers.Service.run w.term false h := rfl
    rw [hrun, roundWrites, ← hwrites]
    rfl
  obtain ⟨hsyncs, hobjects⟩ := Watch.seriesOf_controller hkept (b := .service) hone
    (sorted_activityOf _ _ _)
  obtain ⟨hcount, hlast⟩ := foldl_roundWrites "service" found count
  have hname : Builder.service.name = "service" := rfl
  rw [hname, hall] at hsyncs hobjects
  exact ⟨hsyncs.trans hcount, hobjects.trans hlast⟩

/-! ## The instance -/

section

variable {w : Watch} (hok : w.launch.succeeded = true) (hperiod : 0 < w.launch.plan.period)

include hok hperiod

theorem rounds (hone : w.launch.started.filter (fun b => b.name == "service") = [.service])
    {a b : Moment} (ha : w.term.informers.syncedAt w.launch.world.services = some a)
    (hb : w.term.informers.syncedAt w.launch.world.nodes = some b) : w.Rounds (max a b) := by
  have hsince : since w.term = max a b := by
    have ha := ((syncedAt_eq_some hok).mp ha).1
    have hb := ((syncedAt_eq_some hok).mp hb).1
    rw [← ha, ← hb]
    rfl
  have hready {h : Moment} (hle : max a b ≤ h) (hopen : w.term.stoppedBy h = false) :
      Controllers.Service.wait w.term = .ready :=
    Term.waitBoth_eq_ready.mpr
      ⟨waitFor_of_synced hok ha (Nat.le_trans (Nat.le_max_left a b) hle) hopen,
        waitFor_of_synced hok hb (Nat.le_trans (Nat.le_max_right a b) hle) hopen⟩
  refine ⟨hsince, fun k => ?_, ?_, ?_, ?_⟩
  · rw [← hsince]
    rfl
  · rw [← hsince]
    exact Controllers.Service.streak w.term
  · intro h k pass completed hopen hbegun
    rw [Controllers.Service.getElem?_passes hperiod]
    constructor
    · rintro ⟨-, -, hpass, -, hcompleted⟩
      exact ⟨hpass, hcompleted⟩
    · rintro ⟨rfl, hcompleted⟩
      have hdue : w.term.due (since w.term) k ≤ h :=
        Nat.le_trans (Controllers.Service.due_le_begun _ k) hbegun
      have hlater : max a b ≤ h := hsince ▸ Nat.le_trans (w.term.le_due _ k) hdue
      exact ⟨hready hlater hopen, hdue, rfl, Term.stoppedBy_mono hbegun hopen, hcompleted⟩
  · intro h hle hopen hkept
    obtain ⟨count, hcount⟩ := exists_count (t := w.term) hperiod h
    obtain ⟨hsyncs, hobjects⟩ := records_eq _ count hone hkept
      (Controllers.Service.writes_run (hready hle hopen) hperiod hopen hcount false)
    refine ⟨count, (knownBefore w.term count).toList, hcount,
      nodup_of_ascending (toList_ascending _), fun key => ?_, fun hfits => ?_, hsyncs, ?_⟩
    · rw [Std.ExtTreeSet.mem_toList, Controllers.Service.mem_knownBefore]
    · rw [Std.ExtTreeSet.length_toList]
      exact size_knownBefore_eq_length hfits count
    · rw [hobjects, Std.ExtTreeSet.length_toList, size_knownBefore]
      split <;> simp

theorem node_passes {a : Moment} (ha : w.term.informers.syncedAt w.launch.world.nodes = some a)
    {h : Moment} (hle : a ≤ h) (hopen : w.term.stoppedBy h = false) :
    (Node.run w.term h).filter (fun x => x.2 = .sync) =
      (List.range ((h - a) / w.launch.plan.period + 1)).map fun k =>
        (a + k * w.launch.plan.period, .sync) := by
  have hsince : Controllers.Node.since w.term = a := ((syncedAt_eq_some hok).mp ha).1
  have hdueBy : w.term.dueBy a h = (h - a) / w.launch.plan.period + 1 := if_pos hle
  rw [Controllers.Node.syncs_run (waitFor_of_synced hok ha hle hopen) hperiod hopen, hsince, hdueBy]
  rfl

end

/-- The controllers of an instance make their passes on schedule and record them. -/
theorem rounds_on_schedule (w : Watch) (hok : w.launch.succeeded = true)
    (hone : w.launch.started.filter (fun b => b.name == "service") = [.service])
    (hperiod : 0 < w.launch.plan.period) : w.OnSchedule where
  service _ _ ha hb := rounds hok hperiod hone ha hb
  idle h hearly := by
    have hnone : passes w.term h = [] := passes_eq_nil hok hperiod hearly
    refine ⟨hnone, by rw [lookupsBegun, hnone]; rfl, fun hkept => ?_⟩
    exact records_eq (fun _ => 0) 0 hone hkept
      (Controllers.Service.writes_run_of_no_pass hnone false)
  node _ ha _ hle hopen := node_passes hok hperiod ha hle hopen

/-- A cluster whose lookups take longer than the time between passes, until its load balancer is
deleted.  The list of its nodes comes later than that of its services. -/
def busyWatch : Option Watch :=
  watch { period := 3, workers := 1 } ⟨"alpha", .external, "https://alpha"⟩
    { services :=
        { base := [⟨{ name := some "web" }, some "LoadBalancer"⟩, ⟨{ name := some "db" }, none⟩]
          events := [⟨8, true, ⟨{ name := some "web" }, some "LoadBalancer"⟩⟩]
          takes := 1 }
      nodes := { takes := 2 }
      lookupTakes := 5 }
    none 1 []

/-- Its passes follow one another without a pause until the schedule is caught up. -/
theorem rounds_on_schedule_busy : ∃ w, busyWatch = some w ∧ w.launch.succeeded = true ∧
    w.launch.started.filter (fun b => b.name == "service") = [.service] ∧
    0 < w.launch.plan.period ∧ w.OnSchedule ∧ w.Rounds 2 ∧
    (List.range 5).map (fun k => ((nth w.term k).begun, (nth w.term k).ended)) =
      [(2, 7), (7, 12), (12, 12), (12, 12), (14, 14)] ∧
    [7, 13].map (fun h => ((w.metricsAt h).syncs.value? ⟨w.launch.client.cluster, "service"⟩,
        (w.metricsAt h).objects.value? ⟨w.launch.client.cluster, "service"⟩)) =
      [(some 1, some 1), (some 4, some 0)] := by
  obtain ⟨w, hw⟩ : ∃ w, busyWatch = some w := Option.isSome_iff_exists.mp (by decide +kernel)
  have read {α : Type} (f : Watch → α) (x : α) (h : busyWatch.map f = some x) : f w = x := by
    rw [hw] at h
    exact Option.some.inj h
  have hok : w.launch.succeeded = true := read (·.launch.succeeded) true (by decide +kernel)
  have hone : w.launch.started.filter (fun b => b.name == "service") = [.service] :=
    read (fun w => w.launch.started.filter fun b => b.name == "service") [.service]
      (by decide +kernel)
  have hperiod : 0 < w.launch.plan.period := by
    rw [read (·.launch.plan.period) 3 (by decide +kernel)]
    decide
  have hschedule : w.OnSchedule := rounds_on_schedule w hok hone hperiod
  have hservices : w.term.informers.syncedAt w.launch.world.services = some 1 :=
    read (fun w => w.term.informers.syncedAt w.launch.world.services) (some 1) (by decide +kernel)
  have hnodes : w.term.informers.syncedAt w.launch.world.nodes = some 2 :=
    read (fun w => w.term.informers.syncedAt w.launch.world.nodes) (some 2) (by decide +kernel)
  have hrounds : w.Rounds 2 := hschedule.service 1 2 hservices hnodes
  have hacts : w.acts = [] := read (·.acts) [] (by decide +kernel)
  have hfits : ∀ s, w.launch.world.services.Tells s → Apiserver.NamespaceFits s := by
    have hbase : ∀ s ∈ w.launch.world.services.base, Apiserver.NamespaceFits s :=
      of_decide_eq_true <| read (fun w => decide (∀ s ∈ w.launch.world.services.base,
        Apiserver.NamespaceFits s)) true (by decide +kernel)
    have hevents : ∀ e ∈ w.launch.world.services.events, Apiserver.NamespaceFits e.object :=
      of_decide_eq_true <| read (fun w => decide (∀ e ∈ w.launch.world.services.events,
        Apiserver.NamespaceFits e.object)) true (by decide +kernel)
    rintro s (hs | ⟨e, he, rfl⟩)
    · exact hbase s hs
    · exact hevents e he
  -- what is recorded between the end of a pass and that of the next
  have recorded (h last found : Nat) (hle : 2 ≤ h) (hlast : (nth w.term last).ended ≤ h)
      (hnext : h < (nth w.term (last + 1)).ended)
      (hfound : (balancersBefore w.term (last + 1)).length = found) (hbound : found ≤ gaugeBound) :
      ((w.metricsAt h).syncs.value? ⟨w.launch.client.cluster, "service"⟩,
        (w.metricsAt h).objects.value? ⟨w.launch.client.cluster, "service"⟩) =
        (some (last + 1), some found) := by
    have hopen : w.term.stoppedBy h = false := by
      rw [Term.stoppedBy, read (·.term.stop) none (by decide +kernel)]
      rfl
    obtain ⟨count, keys, hcount, -, -, hlength, hsyncs, hobjects⟩ :=
      hrounds.records h hle hopen (by simp [hacts])
    have hlt : last < count := (hcount last).mpr hlast
    have hge : ¬ last + 1 < count := fun h' => Nat.not_lt.mpr ((hcount _).mp h') hnext
    obtain rfl : count = last + 1 := by omega
    rw [hsyncs, hobjects, if_neg (Nat.succ_ne_zero last), hlength hfits, hfound,
      Nat.min_eq_left hbound]
  have ended (k : Nat) (m : Moment) (h : busyWatch.map (fun w => (nth w.term k).ended) = some m) :
      (nth w.term k).ended = m := read _ m h
  refine ⟨w, hw, hok, hone, hperiod, hschedule, hrounds, ?_, ?_⟩
  · exact read (fun w => (List.range 5).map fun k => ((nth w.term k).begun, (nth w.term k).ended))
      _ (by decide +kernel)
  · rw [List.map_cons, List.map_cons, List.map_nil,
      recorded 7 0 1 (by decide) (Nat.le_of_eq (ended 0 7 (by decide +kernel)))
        (by rw [ended 1 12 (by decide +kernel)]; decide)
        (read (fun w => (balancersBefore w.term 1).length) 1 (by decide +kernel)) (by decide),
      recorded 13 3 0 (by decide) (by rw [ended 3 12 (by decide +kernel)]; decide)
        (by rw [ended 4 14 (by decide +kernel)]; decide)
        (read (fun w => (balancersBefore w.term 4).length) 0 (by decide +kernel)) (by decide)]

end Instance

end Flotilla
