import Mathlib.Data.List.Induction
import Flotilla.Controllers.Node
import Flotilla.Proofs.Tables

/-!
# Which nodes there are, and which are ready

A node says that it is ready by a condition `Ready` with the status `True`.  A map of readiness is a
`Snapshot` of some nodes when its entries are the names of these nodes, each with what a node of
that name says.

* `snapshot_readinessAt`: the map of a pass is a snapshot of the store.
* `readyCount_eq`: how many names of such a map are ready.
-/

namespace Flotilla

open Std (ExtTreeMap)
open Time (Moment)

/-- Some condition of the node says that it is ready. -/
def Kube.Node.SaysReady (n : Kube.Node) : Prop := ("Ready", "True") ∈ n.conditions

theorem Kube.Node.isReady_iff {n : Kube.Node} : n.isReady = true ↔ n.SaysReady := by
  unfold isReady SaysReady
  simp only [List.any_eq_true, beq_iff_eq, exists_eq_right]

namespace Controllers

/-- A map has the names of some nodes, and of each name what a node that has it says of itself. -/
structure Snapshot (nodes : List Kube.Node) (r : Readiness) : Prop where
  /-- The names are those of the nodes. -/
  names : ∀ name, name ∈ r ↔ ∃ n ∈ nodes, n.identity.anyName = name
  /-- A name is ready if its node says so. -/
  ready : ∀ name ready, r[name]? = some ready →
    ∃ n ∈ nodes, n.identity.anyName = name ∧ (ready = true ↔ n.SaysReady)

namespace Snapshot

theorem nil : Snapshot [] ∅ where
  names name := by simp
  ready name ready h := by simp at h

/-- One more node adds its name, or takes the place of another of that name. -/
theorem concat {nodes : List Kube.Node} {r : Readiness} (h : Snapshot nodes r) (n : Kube.Node) :
    Snapshot (nodes ++ [n]) (r.insert n.identity.anyName n.isReady) where
  names name := by
    rw [ExtTreeMap.mem_iff_isSome_getElem?, lookup_insert]
    simp only [List.mem_append, List.mem_singleton, or_and_right, exists_or, exists_eq_left]
    rw [← h.names name, ExtTreeMap.mem_iff_isSome_getElem?]
    split <;> simp [*]
  ready name ready hname := by
    rw [lookup_insert] at hname
    split at hname
    · next heq =>
      cases hname
      exact ⟨n, List.mem_append_right _ List.mem_cons_self, heq, Kube.Node.isReady_iff⟩
    · obtain ⟨n', hn', hready⟩ := h.ready name ready hname
      exact ⟨n', List.mem_append_left _ hn', hready⟩

end Snapshot

namespace Node

/-- What a pass sees is a snapshot of the store. -/
theorem snapshot_readinessAt (t : Term) (m : Moment) :
    Snapshot (t.informers.nodesAt m).values (readinessAt t m) := by
  unfold readinessAt
  induction (t.informers.nodesAt m).values using List.reverseRecOn with
  | nil => exact .nil
  | append_singleton nodes n ih =>
    rw [List.foldl_append]
    exact ih.concat n

/-- The nodes that are counted are those that are ready, each once. -/
theorem readyCount_eq (r : Readiness) : ∃ names : List String, names.Nodup ∧
    (∀ name, name ∈ names ↔ r[name]? = some true) ∧ readyCount r = names.length := by
  refine ⟨(r.toList.filter (·.2)).map (·.1), ?_, ?_, by rw [readyCount, List.length_map]⟩
  · refine List.pairwise_map.mpr ((r.distinct_keys_toList.imp fun hne heq => hne ?_).filter _)
    rw [heq]
    exact Std.ReflCmp.compare_self
  · intro name
    simp only [List.mem_map, List.mem_filter, Prod.exists, exists_and_right, exists_eq_right,
      ExtTreeMap.mem_toList_iff_getElem?_eq_some]

end Node

end Controllers

end Flotilla
