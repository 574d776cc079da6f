import Std.Data.ExtTreeMap
import Flotilla.LogLine

/-!
# Changes of readiness

Which nodes there are and whether each is ready is a map from names to booleans.
`transitions` lists the changes from one such map to another: first the nodes of
the later map that are new or have changed, in ascending order, and then those
of the earlier map that are gone, in ascending order.
-/

namespace Flotilla.Controllers

open Std (ExtTreeMap)

/-- The nodes there are, and whether each is ready. -/
abbrev Readiness := ExtTreeMap String Bool

/-- A change of one node. -/
inductive Transition where
  /-- The node is new. -/
  | joined (node : String) (ready : Bool)
  /-- The node is gone. -/
  | left (node : String)
  /-- The node has become ready. -/
  | becameReady (node : String)
  /-- The node has ceased to be ready. -/
  | becameNotReady (node : String)
deriving Repr, DecidableEq

namespace Transition

/-- The change of a node that is there. -/
def present? (previous : Readiness) (node : String) (ready : Bool) : Option Transition :=
  match previous.get? node with
  | none => some (.joined node ready)
  | some was =>
    if was = ready then none
    else if ready then some (.becameReady node)
    else some (.becameNotReady node)

/-- The line that tells of a change. -/
def line (cluster : String) : Transition → LogLine
  | .joined node ready => .info s!"Node {node} joined cluster {cluster} (ready: {ready})"
  | .left node => .info s!"Node {node} left cluster {cluster}"
  | .becameReady node => .info s!"Node {node} in cluster {cluster} is Ready"
  | .becameNotReady node => .warn s!"Node {node} in cluster {cluster} is no longer Ready"

/-- A map after a change. -/
def apply (r : Readiness) : Transition → Readiness
  | .joined node ready => r.insert node ready
  | .left node => r.erase node
  | .becameReady node => r.insert node true
  | .becameNotReady node => r.insert node false

end Transition

/-- The changes from one map to another. -/
def transitions (previous current : Readiness) : List Transition :=
  current.toList.filterMap (fun (node, ready) => Transition.present? previous node ready) ++
    (previous.keys.filter fun node => !current.contains node).map .left

end Flotilla.Controllers
