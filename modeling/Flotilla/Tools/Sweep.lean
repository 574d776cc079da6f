import Flotilla.LogLine
import Flotilla.Tools.Docker

/-!
# Sweeping leftover containers

When the fleet stops, the containers that carry its label are removed.  Every
listed container is removed once, in the order of the list, whatever came of the
ones before it.  A container that cannot be removed is counted and logged.  If the
containers cannot be listed, none is removed.
-/

namespace Flotilla.Tools

/-- What came of a sweep. -/
structure Sweep where
  /-- How many containers were removed. -/
  deleted : Nat := 0
  /-- How many could not be removed. -/
  failed : Nat := 0
  /-- What was logged. -/
  log : List LogLine := []
deriving Repr, DecidableEq

namespace Sweep

variable {S : Type}

/-- One more line. -/
def say (s : Sweep) (line : LogLine) : Sweep := { s with log := s.log ++ [line] }

/-- Count what came of the removal of a container. -/
def count (s : Sweep) (id : String) : Except CommandFailure Unit → Sweep
  | .ok () => { s with deleted := s.deleted + 1 }.say (.info s!"Removed container {id}")
  | .error e =>
    { s with failed := s.failed + 1 }.say (.warn s!"Failed to remove container {id}: {e.message}")

/-- Remove some containers one after another. -/
def removeAll (engine : Engine S) : List String → Sweep → S → Sweep × S
  | [], sweep, state => (sweep, state)
  | id :: rest, sweep, state =>
    let (result, state) := engine.remove id state
    removeAll engine rest (sweep.count id result) state

/-- Remove the containers with a label. -/
def run (engine : Engine S) (label : String) (state : S) : Sweep × S :=
  match engine.list label state with
  | (.error e, state) =>
    (say {} (.error s!"Failed to list containers labelled {label}: {e.message}"), state)
  | (.ok ids, state) =>
    if ids.isEmpty then (say {} (.info s!"No containers labelled {label} to remove"), state)
    else
      let (sweep, state) := removeAll engine ids {} state
      (sweep.say (.info s!"Swept {sweep.deleted} container(s), {sweep.failed} failure(s)"), state)

end Sweep

end Flotilla.Tools
