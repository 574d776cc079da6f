import Std.Data.ExtTreeMap
import Std.Data.ExtTreeSet
import Flotilla.AdminClient
import Flotilla.Tools.Docker
import Flotilla.Tools.Kind

/-!
# Tools held in memory

An `Inventory` stands in for both tools: it holds clusters, kubeconfigs and
containers, can be told to fail, and keeps a record of what it was asked.

Removing a container takes away all entries of that name and is put on record,
also when there was none.  Containers told to stay are not removed.  A list of
containers does not look at the label.
-/

namespace Flotilla.Tools

open Std (ExtTreeMap ExtTreeSet)

/-- Clusters, kubeconfigs and containers, and what was asked. -/
structure Inventory where
  /-- The clusters. -/
  clusters : List String := []
  /-- Why the clusters cannot be listed. -/
  listError : Option String := none
  /-- The kubeconfig of a cluster for the external endpoint. -/
  external : ExtTreeMap String String := ∅
  /-- The kubeconfig of a cluster for the internal endpoint. -/
  internal : ExtTreeMap String String := ∅
  /-- The kubeconfigs asked for. -/
  kubeconfigCalls : List (String × Endpoint) := []
  /-- The containers. -/
  containers : List String := []
  /-- Why the containers cannot be listed. -/
  containerListError : Option String := none
  /-- The labels asked for. -/
  labelQueries : List String := []
  /-- Containers that cannot be removed. -/
  staying : ExtTreeSet String := ∅
  /-- The containers removed. -/
  deleted : List String := []

namespace Inventory

/-- The command that lists the clusters, as it is written in messages. -/
def listCommand : String := commandLine "kind" Kind.listArgs

/-- A failure of a command with exit code 1. -/
def refusal (command reason : String) : CommandFailure :=
  .unsuccessful command (Status.code 1).text reason

/-! ## Laying it down -/

/-- Give a cluster a kubeconfig for an endpoint. -/
def setKubeconfig (i : Inventory) (cluster : String) (endpoint : Endpoint) (text : String) :
    Inventory :=
  match endpoint with
  | .external => { i with external := i.external.insert cluster text }
  | .internal => { i with internal := i.internal.insert cluster text }

/-- Add a container. -/
def add (i : Inventory) (id : String) : Inventory := { i with containers := i.containers ++ [id] }

/-- Make a container stay. -/
def keep (i : Inventory) (id : String) : Inventory := { i with staying := i.staying.insert id }

/-! ## Asking -/

/-- The clusters there are. -/
def listing (i : Inventory) : Except CommandFailure (List String) :=
  match i.listError with
  | some reason => .error (refusal listCommand reason)
  | none => .ok i.clusters

/-- The kubeconfig of a cluster for an endpoint. -/
def kubeconfig? (i : Inventory) (cluster : String) : Endpoint → Option String
  | .external => i.external.get? cluster
  | .internal => i.internal.get? cluster

/-- Ask for the kubeconfig of a cluster. -/
def kubeconfig (i : Inventory) (cluster : String) (endpoint : Endpoint) :
    Except CommandFailure String × Inventory :=
  (match i.kubeconfig? cluster endpoint with
    | some text => .ok text
    | none => .error (.notFound cluster),
   { i with kubeconfigCalls := i.kubeconfigCalls ++ [(cluster, endpoint)] })

/-- Ask for the containers with a label. -/
def list (label : String) (i : Inventory) : Except CommandFailure (List String) × Inventory :=
  (match i.containerListError with
    | some reason => .error (refusal "docker ps" reason)
    | none => .ok i.containers,
   { i with labelQueries := i.labelQueries ++ [label] })

/-- Remove a container. -/
def remove (id : String) (i : Inventory) : Except CommandFailure Unit × Inventory :=
  if i.staying.contains id then
    (.error (refusal (commandLine "docker" (Docker.removeArgs id))
      s!"Error response from daemon: could not kill container {id}"), i)
  else
    (.ok (), { i with
      containers := i.containers.filter (· != id), deleted := i.deleted ++ [id] })

/-- The inventory as an engine. -/
def engine : Engine Inventory := { list, remove }

end Inventory

end Flotilla.Tools
