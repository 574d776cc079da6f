import Flotilla.Fleet.Cycle
import Flotilla.Proofs.Tables

/-!
# Laws of the roster

What each change of a roster does to the instance and to the failure of one
cluster, and what the lists that a cycle goes through hold.  These lists are in
ascending order, so none of them names a cluster twice.
-/

namespace Flotilla.Fleet

open Std (ExtTreeMap ExtTreeSet)

namespace Roster

variable {H : Type} (r : Roster H)

/-! ## Changes -/

theorem instances_launch (c k : String) (h : H) :
    (r.launch c h).instances[k]? = if c = k then some h else r.instances[k]? :=
  lookup_insert _ c k h

theorem mem_instances_launch (c k : String) (h : H) :
    k ∈ (r.launch c h).instances ↔ c = k ∨ k ∈ r.instances := by
  simp [launch]

theorem mem_failed_launch (c k : String) (h : H) :
    k ∈ (r.launch c h).failed ↔ c ≠ k ∧ k ∈ r.failed := by
  simp [launch]

@[simp] theorem instances_fail (c : String) : (r.fail c).instances = r.instances := rfl

theorem mem_failed_fail (c k : String) : k ∈ (r.fail c).failed ↔ c = k ∨ k ∈ r.failed := by
  simp [fail]

theorem instances_stop (c k : String) :
    (r.stop c).instances[k]? = if c = k then none else r.instances[k]? :=
  lookup_erase _ c k

theorem mem_instances_stop (c k : String) :
    k ∈ (r.stop c).instances ↔ c ≠ k ∧ k ∈ r.instances := by
  simp [stop]

@[simp] theorem failed_stop (c : String) : (r.stop c).failed = r.failed := rfl

@[simp] theorem instances_forget (c : String) : (r.forget c).instances = r.instances := rfl

theorem mem_failed_forget (c k : String) :
    k ∈ (r.forget c).failed ↔ c ≠ k ∧ k ∈ r.failed := by
  simp [forget]

theorem mem_instances_iff {c : String} : c ∈ r.instances ↔ ∃ h, r.instances[c]? = some h := by
  rw [ExtTreeMap.mem_iff_isSome_getElem?, Option.isSome_iff_exists]

/-! ## The lists a cycle goes through -/

variable (listed : ExtTreeSet String)

theorem mem_missing {c : String} : c ∈ r.missing listed ↔ c ∈ listed ∧ c ∉ r.instances := by
  simp [missing, Bool.eq_false_iff]

theorem missing_ascending : (r.missing listed).Pairwise (· < ·) :=
  (toList_ascending listed).filter _

theorem mem_stale {c : String} {h : H} :
    (c, h) ∈ r.stale listed ↔ r.instances[c]? = some h ∧ c ∉ listed := by
  simp [stale, ExtTreeMap.mem_toList_iff_getElem?_eq_some, Bool.eq_false_iff]

theorem stale_ascending : ((r.stale listed).map (·.1)).Pairwise (· < ·) := by
  rw [List.pairwise_map]
  exact (r.instances.ordered_keys_toList.imp fun h => compare_eq_lt_iff.mp h).filter _

theorem mem_vanished {c : String} : c ∈ r.vanished listed ↔ c ∈ r.failed ∧ c ∉ listed := by
  simp [vanished, Bool.eq_false_iff]

theorem vanished_ascending : (r.vanished listed).Pairwise (· < ·) :=
  (toList_ascending r.failed).filter _

end Roster

end Flotilla.Fleet
