import Flotilla.Instance.Attempt
import Flotilla.Proofs.Controllers.Schedule
import Flotilla.Proofs.Instance.Silence
import Flotilla.Proofs.Metrics.Series

/-!
# The records of one controller

The metrics of an instance are written by all its controllers in order of time.  What they say of
one controller is what this one wrote, in the order in which it did, as long as no other controller
has its name (`Watch.seriesOf_controller`).
-/

namespace Flotilla.Instance

open Controllers (Effect)
open Metrics (Series SeriesKey Write)
open Time (Moment)

/-- The effects of the controllers of a name. -/
theorem filter_activity (l : Launch) (stop : Option Moment) (horizon : Moment)
    (controller : String) :
    (l.activity stop false horizon).filter (fun x => x.2.1 == controller) =
      (l.started.filter fun b => b.name == controller).flatMap fun b =>
        (l.activityOf stop false horizon b).map fun x => (x.1, b.name, x.2) := by
  unfold Launch.activity
  rw [List.filter_flatMap]
  induction l.started with
  | nil => rfl
  | cons b rest ih =>
    rw [List.flatMap_cons, ih, List.filter_cons, List.filter_map]
    by_cases hb : b.name = controller
    · have hall : (l.activityOf stop false horizon b).filter
          ((fun x : Moment × String × Effect => x.2.1 == controller) ∘ fun x => (x.1, b.name, x.2)) =
            l.activityOf stop false horizon b :=
        List.filter_eq_self.mpr fun x _ => by simp [hb]
      rw [if_pos (beq_iff_eq.mpr hb), List.flatMap_cons]
      congr 1
      exact congrArg _ hall
    · have hnone : (l.activityOf stop false horizon b).filter
          ((fun x : Moment × String × Effect => x.2.1 == controller) ∘ fun x => (x.1, b.name, x.2)) =
            [] :=
        List.filter_eq_nil_iff.mpr fun x _ => by simp [hb]
      rw [if_neg (fun h => hb (beq_iff_eq.mp h))]
      exact (congrArg (· ++ _) (congrArg _ hnone)).trans (List.nil_append _)

/-- The writes of the controllers of a name. -/
theorem filter_writes (effects : List (Moment × String × Effect)) (controller : String) :
    (effects.filterMap fun x => x.2.2.write? x.2.1).filter
        (fun write => write.controller == controller) =
      (effects.filter fun x => x.2.1 == controller).filterMap fun x => x.2.2.write? x.2.1 := by
  rw [List.filter_filterMap, List.filterMap_filter]
  congr 1
  funext x
  obtain ⟨moment, name, e⟩ := x
  cases e with
  | log line => simp [Effect.write?]
  | sync => simp [Effect.write?, Write.controller, Option.filter]
  | objects n => simp [Effect.write?, Write.controller, Option.filter]

namespace Watch

variable {w : Watch}

/-- What the metrics say of the cluster of an instance that is not forgotten. -/
theorem seriesOf_metricsAt {h : Moment} (hkept : ∀ m, (m, .forget) ∈ w.acts → h < m) :
    (w.metricsAt h).seriesOf w.launch.client.cluster =
      (((w.launch.activity w.stop false h).mergeSort fun a b => a.1 ≤ b.1).filterMap
        fun x => x.2.2.write? x.2.1).foldl Series.write {} := by
  have hforgets : w.forgets h = [] := by
    refine List.eq_nil_iff_forall_not_mem.mpr fun x hx => ?_
    obtain ⟨⟨hm, hle⟩, -⟩ := mem_forgets.mp hx
    exact Nat.not_lt.mpr hle (hkept _ hm)
  have hwrites : w.writes h = ((w.launch.activity w.stop false h).mergeSort fun a b =>
      a.1 ≤ b.1).map fun x =>
        (x.1, fun store => x.2.2.record w.launch.client.cluster x.2.1 store) := by
    rw [writes_eq, hforgets, List.append_nil, effects]
    let record (x : Moment × String × Effect) : Moment × (Metrics.Store → Metrics.Store) :=
      (x.1, fun store => x.2.2.record w.launch.client.cluster x.2.1 store)
    exact (List.map_mergeSort (f := record) (s := fun a b => a.1 ≤ b.1) fun a _ b _ => rfl).symm
  -- all labels that are written are of one cluster
  have hclear : SeriesKey.Clear (·.cluster = w.launch.client.cluster) w.launch.client.cluster :=
    fun _ _ _ hb _ _ => hb
  rw [metricsAt, hwrites, List.foldl_map]
  exact Controllers.seriesOf_foldl_record (fun _ => rfl) _ (.start hclear)

/-- What they say of the one controller of a name. -/
theorem seriesOf_controller {h : Moment} (hkept : ∀ m, (m, .forget) ∈ w.acts → h < m)
    {b : Builder} (hone : w.launch.started.filter (fun x => x.name == b.name) = [b])
    (hsorted : (w.launch.activityOf w.stop false h b).Pairwise fun x y => x.1 ≤ y.1) :
    ((w.metricsAt h).seriesOf w.launch.client.cluster).syncs b.name =
        (((w.launch.activityOf w.stop false h b).writes b.name).foldl Series.write {}).syncs
          b.name ∧
      ((w.metricsAt h).seriesOf w.launch.client.cluster).objects b.name =
        (((w.launch.activityOf w.stop false h b).writes b.name).foldl Series.write {}).objects
          b.name := by
  let sorted := (w.launch.activity w.stop false h).mergeSort fun a b => a.1 ≤ b.1
  have hmine : (w.launch.activity w.stop false h).filter (fun x => x.2.1 == b.name) =
      (w.launch.activityOf w.stop false h b).map fun x => (x.1, b.name, x.2) := by
    rw [filter_activity, hone, List.flatMap_singleton]
  -- in order of time the controller's own effects stay as they are
  have hfilter : sorted.filter (fun x => x.2.1 == b.name) =
      (w.launch.activityOf w.stop false h b).map fun x => (x.1, b.name, x.2) := by
    rw [← hmine]
    refine Time.filter_mergeSort_of_sorted Prod.fst _ _ ?_
    rw [hmine, List.pairwise_map]
    exact hsorted
  have hwrites : (sorted.filterMap fun x => x.2.2.write? x.2.1).filter
      (fun write => write.controller == b.name) =
        (w.launch.activityOf w.stop false h b).writes b.name := by
    rw [filter_writes, hfilter, List.filterMap_map]
    rfl
  rw [seriesOf_metricsAt hkept, ← hwrites]
  exact Series.foldl_write_filter b.name _ rfl rfl

end Watch

end Flotilla.Instance
