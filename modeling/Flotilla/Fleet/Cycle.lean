import Std.Data.ExtTreeMap
import Std.Data.ExtTreeSet
import Flotilla.Failure
import Flotilla.Metrics.Store

/-!
# One cycle

A `Roster` holds what is managed: an instance for each running cluster and the
clusters whose last launch failed.  A cycle makes it follow a listing of the
clusters.

* A failed listing changes nothing.
* Every listed cluster without an instance is asked of the factory, in
  ascending order.  The token is looked at before each one.  A token that has
  fired, or a creation that was cut short by the shutdown, ends the cycle there.
* Then every instance whose cluster is not listed is stopped and its cluster
  forgotten, and every failed cluster that is not listed is forgotten.

A cycle runs in `Surroundings`: a state of which it knows whether the token has
fired, how an instance is created, and how to note what it does.  What it does
is a list of `Step`s.  The report and the metrics are read off the steps.

A listing and a shutdown may be there at the same time when the cycle begins.
`First` says which of the two is seen.
-/

namespace Flotilla.Fleet

open Std (ExtTreeMap ExtTreeSet)

/-- The clusters that are managed. -/
structure Roster (H : Type) where
  /-- The running instances. -/
  instances : ExtTreeMap String H := ∅
  /-- Listed clusters whose last launch failed. -/
  failed : ExtTreeSet String := ∅

/-- One thing a cycle does. -/
inductive Step (H : Type) where
  /-- The clusters could not be listed. -/
  | listingFailed (fault : CommandFailure)
  /-- The clusters were listed. -/
  | discovered (clusters : List String)
  /-- An instance is asked of the factory. -/
  | asked (cluster : String)
  /-- The instance runs. -/
  | launched (cluster : String) (handle : H)
  /-- The launch failed. -/
  | launchFailed (cluster : String) (failure : ControllerFailure)
  /-- The launch was cut short by the shutdown. -/
  | abandoned (cluster : String)
  /-- An instance is stopped. -/
  | stopped (cluster : String) (handle : H)
  /-- A cluster that never ran is forgotten. -/
  | forgotten (cluster : String)
  /-- The cycle is complete and leaves so many instances. -/
  | completed (managed : Nat)

/-- What a cycle runs in. -/
structure Surroundings (S H : Type) where
  /-- Whether the token has fired. -/
  fired : S → Bool
  /-- Create an instance. -/
  create : String → S → Except ControllerFailure H × S
  /-- Take note of a step. -/
  note : Step H → S → S

/-- What is seen first when a cycle begins and both are there. -/
inductive First where
  /-- The shutdown. -/
  | shutdown
  /-- The listing. -/
  | listing
deriving Repr, DecidableEq

/-- How far a cycle has come. -/
structure Progress (S H : Type) where
  /-- The state of the surroundings. -/
  scene : S
  /-- The roster. -/
  roster : Roster H
  /-- The steps so far. -/
  steps : List (Step H) := []

namespace Progress

variable {S H : Type}

/-- A further step. -/
def take (p : Progress S H) (around : Surroundings S H) (step : Step H) : Progress S H :=
  { p with scene := around.note step p.scene, steps := p.steps ++ [step] }

end Progress

namespace Roster

variable {H : Type}

/-- The names of the managed clusters, in ascending order. -/
def managed (r : Roster H) : List String := r.instances.keys

/-- The listed clusters without an instance, in ascending order. -/
def missing (r : Roster H) (listed : ExtTreeSet String) : List String :=
  listed.toList.filter fun c => !r.instances.contains c

/-- The instances whose cluster is not listed, in ascending order. -/
def stale (r : Roster H) (listed : ExtTreeSet String) : List (String × H) :=
  r.instances.toList.filter fun (c, _) => !listed.contains c

/-- The failed clusters that are not listed, in ascending order. -/
def vanished (r : Roster H) (listed : ExtTreeSet String) : List String :=
  r.failed.toList.filter fun c => !listed.contains c

/-- The roster with an instance of a cluster. -/
def launch (r : Roster H) (cluster : String) (handle : H) : Roster H :=
  { instances := r.instances.insert cluster handle, failed := r.failed.erase cluster }

/-- The roster with a failed cluster. -/
def fail (r : Roster H) (cluster : String) : Roster H :=
  { r with failed := r.failed.insert cluster }

/-- The roster without the instance of a cluster. -/
def stop (r : Roster H) (cluster : String) : Roster H :=
  { r with instances := r.instances.erase cluster }

/-- The roster without a failed cluster. -/
def forget (r : Roster H) (cluster : String) : Roster H :=
  { r with failed := r.failed.erase cluster }

end Roster

namespace Surroundings

variable {S H : Type}

/-- Ask for an instance of each cluster.  The answer is true when all were asked for, and false
when the shutdown came first. -/
def addAll (around : Surroundings S H) : List String → Progress S H → Bool × Progress S H
  | [], p => (true, p)
  | cluster :: rest, p =>
    if around.fired p.scene then (false, p)
    else
      let p := p.take around (.asked cluster)
      match around.create cluster p.scene with
      | (.ok handle, scene) =>
        let p := { p with scene, roster := p.roster.launch cluster handle }
        addAll around rest (p.take around (.launched cluster handle))
      | (.error failure, scene) =>
        let p := { p with scene }
        if failure.isCancelled then (false, p.take around (.abandoned cluster))
        else
          let p := { p with roster := p.roster.fail cluster }
          addAll around rest (p.take around (.launchFailed cluster failure))

/-- Stop some instances. -/
def stopAll (around : Surroundings S H) : List (String × H) → Progress S H → Progress S H
  | [], p => p
  | (cluster, handle) :: rest, p =>
    let p := { p with roster := p.roster.stop cluster }
    stopAll around rest (p.take around (.stopped cluster handle))

/-- Forget some failed clusters. -/
def forgetAll (around : Surroundings S H) : List String → Progress S H → Progress S H
  | [], p => p
  | cluster :: rest, p =>
    let p := { p with roster := p.roster.forget cluster }
    forgetAll around rest (p.take around (.forgotten cluster))

/-- Follow a listing. -/
def converge (around : Surroundings S H) (listed : ExtTreeSet String) (p : Progress S H) :
    Progress S H :=
  let p := p.take around (.discovered listed.toList)
  match around.addAll (p.roster.missing listed) p with
  | (false, p) => p
  | (true, p) =>
    let p := around.stopAll (p.roster.stale listed) p
    let p := around.forgetAll (p.roster.vanished listed) p
    p.take around (.completed p.roster.instances.size)

/-- One cycle, given what a listing of the clusters answers. -/
def cycle (around : Surroundings S H) (first : First)
    (listing : Except CommandFailure (List String)) (scene : S) (roster : Roster H) :
    Progress S H :=
  if first = .shutdown ∧ around.fired scene = true then { scene, roster }
  else
    match listing with
    | .error fault => Progress.take { scene, roster } around (.listingFailed fault)
    | .ok clusters => around.converge (ExtTreeSet.ofList clusters) { scene, roster }

end Surroundings

/-! ## What the steps tell -/

/-- What one cycle changed. -/
structure Report where
  /-- Clusters that got an instance. -/
  started : List String := []
  /-- Clusters whose instance was stopped. -/
  stopped : List String := []
  /-- Clusters whose launch failed. -/
  failed : List String := []
  /-- The clusters could not be listed, and nothing was changed. -/
  listingFailed : Bool := false
deriving Repr, DecidableEq

namespace Report

/-- The report after one more step. -/
def add {H : Type} (r : Report) : Step H → Report
  | .listingFailed _ => { r with listingFailed := true }
  | .launched cluster _ => { r with started := r.started ++ [cluster] }
  | .launchFailed cluster _ => { r with failed := r.failed ++ [cluster] }
  | .stopped cluster _ => { r with stopped := r.stopped ++ [cluster] }
  | _ => r

/-- The report on some steps. -/
def ofSteps {H : Type} (steps : List (Step H)) : Report := steps.foldl add {}

/-- Whether some cluster was started, stopped or failed. -/
def hasChanges (r : Report) : Bool :=
  !r.started.isEmpty || !r.stopped.isEmpty || !r.failed.isEmpty

end Report

/-- What a step does to the metrics. -/
def Step.record {H : Type} (m : Metrics.Store) : Step H → Metrics.Store
  | .listingFailed _ => m.countListingError
  | .launchFailed cluster _ => m.countLaunchFailure cluster
  | .stopped cluster _ => m.forget cluster
  | .forgotten cluster => m.forget cluster
  | .completed n => (m.setManaged n).countCycle
  | _ => m

end Flotilla.Fleet
