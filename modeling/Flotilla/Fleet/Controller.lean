import Flotilla.Config
import Flotilla.Fleet.Run
import Flotilla.Tools.Kind
import Flotilla.Tools.Sweep

/-!
# The fleet controller

The controller runs the reconcile loop over the clusters that `kind` lists.  When
the loop is over, and not before, it removes the leftover containers, once.

The `Surrounding` is what it runs in: the tools, the network on which servers are
probed, and the apiservers that clients speak to.  Neither tools nor probes take
time, so time only passes between attempts and cycles.
-/

namespace Flotilla.Fleet

open Tools (Machine Kind Docker Engine Sweep)
open Time (Moment)

/-- What the controller runs in. -/
structure Surrounding where
  /-- The tools. -/
  machine : Machine
  /-- The network on which servers are probed. -/
  network : Net.Network := {}
  /-- The apiserver that a client speaks to. -/
  world : AdminClient → Apiserver.World := fun _ => .unreachable

namespace Surrounding

/-- What the search for a client of a cluster meets. -/
def site (s : Surrounding) (kind : Kind) (cluster : String) : Bootstrap.Site where
  fetch endpoint := { kubeconfig := (kind.kubeconfig s.machine cluster endpoint).toOption }
  probe _ server _ := { ready := (Net.Probe.run s.network server).reachable, takes := some 0 }

/-- How instances are created under some settings. -/
def factory (s : Surrounding) (config : Config) : Instance.Factory where
  plan := {
    stableNodes := config.featureGates.enabled FeatureGates.stableLoadBalancerNodeSet
    workers := config.serviceWorkers
    period := config.controllerResync * Time.nanosPerSecond }
  site := s.site { binary := config.kindBinary }
  world := s.world

end Surrounding

/-- What came of a run of the controller. -/
structure ControllerRun where
  /-- What happened in the loop. -/
  scene : Scene
  /-- The instances at its end. -/
  roster : Roster Handle
  /-- The removal of the containers. -/
  sweep : Sweep
  /-- What was asked of the outside. -/
  requests : List (Moment × Request)

namespace ControllerRun

/-- What the controller does when the loop is over. -/
def ofLoop {S : Type} (docker : Engine S) (state : S) (loop : Scene × Roster Handle) :
    ControllerRun :=
  let (scene, roster) := loop
  let (sweep, _, calls) := Sweep.run docker.recorded Tools.fleetLabel (state, [])
  { scene, roster, sweep
    requests := scene.requests ++ calls.map fun call => (scene.now, .containers call) }

/-- The metrics at the end. -/
def metrics (r : ControllerRun) : Metrics.Store := r.scene.metricsAt r.scene.now

/-- The lines of the log. -/
def log (r : ControllerRun) : List LogLine :=
  [.info "Initializing Fleet Controller"] ++ r.scene.log.map (·.2) ++
    [.info "Removing leftover fleet containers"] ++ r.sweep.log

end ControllerRun

/-- Run the controller in a scene.  None if the loop is not over after so many cycles, or hangs. -/
def conduct {S : Type} (docker : Engine S) (state : S) (interval fuel : Nat) (s : Scene) :
    Option ControllerRun :=
  let loop := s.runFor interval fuel
  if loop.1.isOver then some (.ofLoop docker state loop) else none

/-- What the controller meets whose token fires after so many cycles. -/
def sceneFor (config : Config) (around : Surrounding) (cycles : Nat) : Scene where
  making := .created fun _ => around.factory config
  script := Script.ofListing (Kind.clusters { binary := config.kindBinary } around.machine)
  changes := []
  firesAt := if cycles = 0 then some 0 else none
  firesAfter := some cycles

/-- Run the controller until its token fires, which it does after so many cycles. -/
def runController (config : Config) (around : Surrounding) (cycles : Nat) : ControllerRun :=
  let docker : Docker := { binary := config.dockerBinary }
  .ofLoop (docker.engine around.machine) ()
    ((sceneFor config around cycles).runFor (config.reconcileInterval * Time.nanosPerSecond) cycles)

end Flotilla.Fleet
