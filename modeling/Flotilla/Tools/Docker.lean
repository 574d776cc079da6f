import Flotilla.Text.Lines
import Flotilla.Tools.Outcome

/-!
# The container tool

`docker`, or a tool with its command line, lists the containers that carry a
label, stopped ones among them, one to a line, and removes a container even if it
runs.  An `Engine` is anything that does these two things to a state.
-/

namespace Flotilla.Tools

/-- What lists and removes containers. -/
structure Engine (S : Type) where
  /-- The containers with a label. -/
  list : String → S → Except CommandFailure (List String) × S
  /-- Remove a container. -/
  remove : String → S → Except CommandFailure Unit × S

/-- What is asked of an engine. -/
inductive EngineCall where
  /-- The containers with a label. -/
  | list (label : String)
  /-- To remove a container. -/
  | remove (id : String)
deriving Repr, DecidableEq

/-- The engine that keeps a record of what it is asked. -/
def Engine.recorded {S : Type} (e : Engine S) : Engine (S × List EngineCall) where
  list label := fun (state, calls) =>
    let (answer, state) := e.list label state
    (answer, state, calls ++ [.list label])
  remove id := fun (state, calls) =>
    let (answer, state) := e.remove id state
    (answer, state, calls ++ [.remove id])

/-- The label of the containers that belong to the fleet. -/
def fleetLabel : String := "io.x-k8s.kind-fleet.cluster"

/-- The container tool. -/
structure Docker where
  /-- The binary. -/
  binary : String := "docker"

namespace Docker

/-- The arguments that list the containers with a label. -/
def listArgs (label : String) : List String := ["ps", "-a", "-q", "--filter", "label=" ++ label]

/-- The arguments that remove a container. -/
def removeArgs (id : String) : List String := ["rm", "-f", id]

/-- The containers with a label. -/
def containers (d : Docker) (machine : Machine) (label : String) :
    Except CommandFailure (List String) :=
  (machine.ask d.binary (listArgs label)).map Text.nonEmptyLines

/-- Remove a container. -/
def remove (d : Docker) (machine : Machine) (id : String) : Except CommandFailure Unit :=
  (machine.ask d.binary (removeArgs id)).map fun _ => ()

/-- The tool as an engine.  What it changes is outside. -/
def engine (d : Docker) (machine : Machine) : Engine Unit where
  list label state := (d.containers machine label, state)
  remove id state := (d.remove machine id, state)

end Docker

end Flotilla.Tools
