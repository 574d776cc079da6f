import Flotilla.AdminClient
import Flotilla.Controllers.Node
import Flotilla.Controllers.Service
import Flotilla.Instance.Start

/-!
# Launching an instance

An instance is what runs on behalf of one cluster: its controllers and its
informers, under a token of their own.  It is launched in two steps.

* The apiserver is asked for its health, under a retry policy, until it is
  healthy.
* The controllers are built and started in order, and then the informers are
  started.  When a controller cannot be built the token is fired.  The
  controllers started before end without having done anything, and the informers
  are never started.

A `Launch` tells what came of it.  What its controllers do is a function of the
moment at which its token fires.
-/

namespace Flotilla.Instance

open Apiserver (World Informers)
open Controllers (Activity Effect Term Wait)
open Time (Moment)

/-- What builds a controller. -/
inductive Builder where
  /-- The service controller. -/
  | service
  /-- The node controller. -/
  | node
  /-- A controller that only sets its number of objects.  It may fail to be built, and may end at
  once. -/
  | scripted (name : String) (fails : Option ControllerFailure) (returns : Bool)
deriving Repr, DecidableEq

namespace Builder

/-- The name of the controller. -/
def name : Builder → String
  | .service => Controllers.Service.name
  | .node => Controllers.Node.name
  | .scripted name _ _ => name

/-- Why a controller cannot be built for a cluster. -/
def fault (cluster : String) : Builder → Option ControllerFailure
  | .service =>
    if cluster.isEmpty then
      some (.controllerInit Controllers.Service.name "" "cluster name is required")
    else none
  | .node => none
  | .scripted _ fails _ => fails

/-- What a controller does while it is built. -/
def effects : Builder → List Effect
  | .service | .node => [.objects 0]
  | .scripted _ _ _ => []

/-- What asking the builder for the controller of a cluster comes to. -/
def build (cluster : String) (b : Builder) : Build Builder :=
  match b.fault cluster with
  | some failure => { name := b.name, result := .error failure }
  | none => { name := b.name, writes := b.effects.filterMap (·.write? b.name), result := .ok b }

end Builder

/-- How instances are launched. -/
structure Plan where
  /-- The controllers. -/
  builders : List Builder := [.service, .node]
  /-- The set of nodes behind load balancers is kept stable. -/
  stableNodes : Bool := false
  /-- How many lookups may be under way at once. -/
  workers : Nat := 5
  /-- The time between two passes. -/
  period : Nat := 30 * Time.nanosPerSecond
  /-- How the health is asked for. -/
  readiness : Retry.Policy := .readiness

/-- The controllers that are started, and why there are no more. -/
def startAll (cluster : String) (builders : List Builder) :
    List Builder × Option ControllerFailure :=
  let (parent, cancellation) := Cancellation.root {}
  let (result, ground) := start parent cluster (builders.map (·.build cluster)) { cancellation }
  (ground.tasks.map (·.1), match result with
    | .error failure => some failure
    | .ok _ => none)

/-- The names of the builders that are asked for these controllers. -/
def askedOf (cluster : String) (builders : List Builder) : List String :=
  let (parent, cancellation) := Cancellation.root {}
  (start parent cluster (builders.map (·.build cluster)) { cancellation }).2.asked

/-- What came of a launch. -/
structure Launch where
  /-- How it was done. -/
  plan : Plan
  /-- The client. -/
  client : AdminClient
  /-- The apiserver. -/
  world : World
  /-- When it was over. -/
  ended : Moment
  /-- The moments at which the health was asked for. -/
  asked : List Moment
  /-- The names of the builders that were asked when it was over. -/
  invoked : List String := []
  /-- The controllers that were started then. -/
  started : List Builder
  /-- Why there is no instance. -/
  failure : Option ControllerFailure

namespace Launch

/-- Launch an instance.  None if the apiserver is asked for its health for ever. -/
def run (plan : Plan) (client : AdminClient) (world : World) (start : Moment)
    (shutdown : Option Moment) : Option Launch :=
  (plan.readiness.run world.healthChecks start shutdown).map fun r =>
    let launch (invoked : List String) (started : List Builder)
        (failure : Option ControllerFailure) : Launch :=
      { plan, client, world, ended := r.ended, asked := r.sent, invoked, started, failure }
    match r.outcome with
    | .error .cancelled => launch [] [] (some .cancelled)
    | .error e => launch [] [] (some (.notReady client.cluster e.message))
    | .ok _ =>
      let (started, failure) := startAll client.cluster plan.builders
      launch (askedOf client.cluster plan.builders) started failure

/-- Whether there is an instance. -/
def succeeded (l : Launch) : Bool := l.failure.isNone

/-- The names of the controllers of the instance. -/
def controllers (l : Launch) : List String := l.started.map Builder.name

/-- When the token fires: at once if there is no instance. -/
def stopOf (l : Launch) (stop : Option Moment) : Option Moment :=
  if l.succeeded then stop else some l.ended

/-- The informers. -/
def informers (l : Launch) (stop : Option Moment) : Informers :=
  { world := l.world, start := if l.succeeded then some l.ended else none, stop := l.stopOf stop }

/-- How the controllers run. -/
def term (l : Launch) (stop : Option Moment) : Term :=
  { cluster := l.client.cluster
    server := l.client.server
    informers := l.informers stop
    start := l.ended
    stop := l.stopOf stop
    period := l.plan.period
    workers := l.plan.workers
    stableNodes := l.plan.stableNodes }

/-- What a scripted controller does: it sets its number of objects, unless its token has fired. -/
def scriptedActivity (t : Term) : Activity :=
  if t.stoppedBy t.start then [] else [(t.start, .objects t.workers)]

/-- What building a controller does. -/
def buildActivity (l : Launch) (b : Builder) : Activity := b.effects.map (l.ended, ·)

/-- What a controller does by a moment, from its building on. -/
def activityOf (l : Launch) (stop : Option Moment) (withLookups : Bool) (horizon : Moment)
    (b : Builder) : Activity :=
  l.buildActivity b ++ match b with
    | .service => Controllers.Service.run (l.term stop) withLookups horizon
    | .node => Controllers.Node.run (l.term stop) horizon
    | .scripted _ _ _ => scriptedActivity (l.term stop)

/-- What building the controllers did, each effect with the name of its controller. -/
def built (l : Launch) : List (String × Effect) :=
  l.started.flatMap fun b => (l.buildActivity b).map fun (_, e) => (b.name, e)

/-- When a controller ends. -/
def finishOf (l : Launch) (stop : Option Moment) : Builder → Option Moment
  | .service => (l.term stop).finish (Controllers.Service.wait (l.term stop))
  | .node => (l.term stop).finish (Controllers.Node.wait (l.term stop))
  | .scripted _ _ true => some l.ended
  | .scripted _ _ false => l.stopOf stop

/-- The controllers that have ended by a moment. -/
def finishedAt (l : Launch) (stop : Option Moment) (t : Moment) : List String :=
  (l.started.filter fun b => Informers.endedBy t (l.finishOf stop b)).map Builder.name

/-- What all controllers do by a moment, each effect with the name of its controller. -/
def activity (l : Launch) (stop : Option Moment) (withLookups : Bool) (horizon : Moment) :
    List (Moment × String × Effect) :=
  l.started.flatMap fun b =>
    (l.activityOf stop withLookups horizon b).map fun (m, e) => (m, b.name, e)

/-- The lookups begun by a moment. -/
def lookups (l : Launch) (stop : Option Moment) (horizon : Moment) :
    List Controllers.Service.Lookup :=
  (l.started.filter (· == .service)).flatMap fun _ =>
    Controllers.Service.lookupsBegun (l.term stop) horizon

end Launch

end Flotilla.Instance
