import Flotilla.Controllers.Activity
import Flotilla.Controllers.Transition

/-!
# The node controller

It reports the changes of readiness from pass to pass, and counts the ready
nodes.  A pass takes no time.
-/

namespace Flotilla.Controllers.Node

open Time (Moment)

/-- The controller's name. -/
def name : String := "node"

/-- Which nodes there are at a moment, and whether each is ready. -/
def readinessAt (t : Term) (m : Moment) : Readiness :=
  (t.informers.nodesAt m).values.foldl
    (fun r node => r.insert node.identity.anyName node.isReady) ∅

/-- The number of ready nodes. -/
def readyCount (r : Readiness) : Nat := (r.toList.filter (·.2)).length

/-- What a pass does. -/
def passEffects (t : Term) (m : Moment) (previous current : Readiness) : Activity :=
  (transitions previous current).map (fun change => (m, .log (change.line t.cluster))) ++
    [(m, .sync), (m, .objects (readyCount current))]

/-- When the store has its list, unless it never has. -/
def since (t : Term) : Moment := t.listedAt t.informers.world.nodes

/-- Passes from number `k` on, at most `count` of them. -/
def passesFrom (t : Term) : (count k : Nat) → (previous : Readiness) → Activity
  | 0, _, _ => []
  | count + 1, k, previous =>
    let m := t.due (since t) k
    if t.stoppedBy m then []
    else
      let current := readinessAt t m
      passEffects t m previous current ++ passesFrom t count (k + 1) current

/-- How the wait for the store ends. -/
def wait (t : Term) : Wait := t.waitFor t.informers.world.nodes

/-- What the controller does by a moment. -/
def run (t : Term) (horizon : Moment) : Activity :=
  let starting : Activity :=
    [(t.start, .log (.info s!"Starting node controller for cluster {t.cluster}"))]
  let activity :=
    match wait t with
    | .ready =>
      passesFrom t (t.dueBy (since t) horizon) 0 ∅ ++
        t.leave .ready (.info s!"Stopping node controller for cluster {t.cluster}")
    | w => t.leave w (.info s!"Node controller for cluster {t.cluster} stopped before cache synced")
  (starting ++ activity).upTo horizon

end Flotilla.Controllers.Node
