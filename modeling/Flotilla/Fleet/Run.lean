import Flotilla.Fleet.Script
import Flotilla.Instance.Creation
import Flotilla.Text.Quoted
import Flotilla.Time.Spacing
import Flotilla.Tools.Docker

/-!
# The reconcile loop

Cycles one after another on a clock, until the token fires.  The first cycle is
made at once, and each later one an interval after the end of the one before.
The token is looked at before each cycle, and ends the wait for a listing and the
wait for the next cycle.

What the cycles meet is laid down by a script that changes as time goes by.  An
instance is made by the script, in some time, or launched against a scripted
apiserver, or created from a kubeconfig on.  The listings and the instances may also be anything
that takes some time and has some outcome.  Everything that is done is kept in a `Scene` with its
moment, so what could be seen at a moment can be told afterwards.

An apiserver may be waited for without end.  The loop then hangs in its cycle, and nothing more is
done.
-/

namespace Flotilla.Fleet

open Instance (Factory Launch Plan)
open Time (Moment)

/-- What is asked of the outside. -/
inductive Request where
  /-- The clusters are listed. -/
  | list
  /-- The kubeconfig of a cluster is fetched for an endpoint. -/
  | kubeconfig (cluster : String) (endpoint : Endpoint)
  /-- An instance is launched. -/
  | launch (cluster : String)
  /-- The container tool is called. -/
  | containers (call : Tools.EngineCall)
deriving Repr, DecidableEq

/-- What a listing of the clusters comes to. -/
structure Listing where
  /-- How long it takes. -/
  takes : Nat := 0
  /-- The clusters there are, or why they cannot be listed. -/
  answer : Except CommandFailure (List String)
  /-- What is seen first if the token fires just then. -/
  first : First := .shutdown

/-- What the creation of an instance comes to. -/
structure Trial where
  /-- How long it takes. -/
  takes : Nat := 0
  /-- Why there is no instance. -/
  failure : Option ControllerFailure := none

/-- How instances are made. -/
inductive Making where
  /-- By the script, in some time for each cluster. -/
  | scripted (takes : String → Nat)
  /-- Launched against an apiserver for each cluster. -/
  | launched (plan : Plan) (world : String → Apiserver.World)
  /-- Created as factories do it, one after another. -/
  | created (factory : Nat → Factory)
  /-- In any way, told for one after another. -/
  | tried (trial : Nat → Trial)

/-- An instance. -/
structure Handle where
  /-- The place of the instance among all. -/
  number : Nat
  /-- The cluster. -/
  cluster : String
  /-- The launch, if it was launched. -/
  launch : Option Launch

/-- What the loop runs in, and what has happened. -/
structure Scene where
  /-- How instances are made. -/
  making : Making
  /-- What is laid down at the start. -/
  script : Script
  /-- How that changes, in order of time. -/
  changes : List (Moment × Change)
  /-- The moment. -/
  now : Moment := 0
  /-- When the token fires. -/
  firesAt : Option Moment
  /-- After how many cycles the token fires, unless it has fired before. -/
  firesAfter : Option Nat := none
  /-- What the listings come to, one after another, if that is not laid down by the script. -/
  listings : Option (Nat → Listing) := none
  /-- The number of listings so far. -/
  listed : Nat := 0
  /-- The next instance's place. -/
  next : Nat := 0
  /-- The launches, each with the place of its instance. -/
  launches : List (Nat × Launch) := []
  /-- The steps. -/
  steps : List (Moment × Step Handle) := []
  /-- The lines of the log. -/
  log : List (Moment × LogLine) := []
  /-- What was asked of the outside. -/
  requests : List (Moment × Request) := []
  /-- A creation goes on for ever. -/
  hung : Bool := false

/-- What a creation asks of the outside. -/
def requestsOf (cluster : String) (c : Instance.Creation) : List (Moment × Request) :=
  (c.search.calls.filterMap fun (t, call) =>
    call.fetch?.map fun endpoint => (t, .kubeconfig cluster endpoint)) ++
  (c.launch.map fun _ => (c.search.ended, .launch cluster)).toList

namespace Scene

/-- What is laid down at a moment. -/
def scriptAt (s : Scene) (t : Moment) : Script :=
  (s.changes.filter fun (m, _) => m ≤ t).foldl (fun script (_, c) => script.change c) s.script

/-- Whether the token has fired. -/
def fired (s : Scene) : Bool := Apiserver.Informers.endedBy s.now s.firesAt

/-- Whether the token has fired and no creation is under way. -/
def isOver (s : Scene) : Bool := s.fired && !s.hung

/-- Some lines in the log. -/
def say (s : Scene) (lines : List LogLine) : Scene :=
  if s.hung then s else { s with log := s.log ++ lines.map fun line => (s.now, line) }

/-- Something is asked of the outside. -/
def ask (s : Scene) (request : Request) : Scene :=
  { s with requests := s.requests ++ [(s.now, request)] }

/-- What the next listing comes to. -/
def listing (s : Scene) : Listing :=
  match s.listings with
  | some listing => listing s.listed
  | none => { answer := (s.scriptAt s.now).listing }

/-- List the clusters, or see the shutdown.  The shutdown ends a listing that takes longer. -/
def list (s : Scene) : First × Except CommandFailure (List String) × Scene :=
  let l := s.listing
  let s := { s.ask .list with listed := s.listed + 1 }
  match s.firesAt.filter fun t => decide (t < s.now + l.takes) with
  | some t => (.shutdown, l.answer, { s with now := max s.now t })
  | none => (l.first, l.answer, { s with now := s.now + l.takes })

/-- The client of a cluster. -/
def clientOf (cluster : String) : AdminClient := ⟨cluster, .external, "mock://" ++ cluster⟩

/-- Make an instance by the script. -/
def makeScripted (takes : String → Nat) (number : Nat) (cluster : String) (s : Scene) :
    Except ControllerFailure Handle × Scene :=
  let fires := (s.scriptAt s.now).cancelling.contains cluster
  let firesAt := if fires then Time.earlier s.firesAt (some s.now) else s.firesAt
  let s := { s.ask (.launch cluster) with firesAt, now := s.now + takes cluster }
  match (s.scriptAt s.now).failing.get? cluster with
  | some failure => (.error failure, s)
  | none => (.ok ⟨number, cluster, none⟩, s)

/-- Make an instance in any way. -/
def makeTried (trial : Trial) (number : Nat) (cluster : String) (s : Scene) :
    Except ControllerFailure Handle × Scene :=
  let s := { s.ask (.launch cluster) with now := s.now + trial.takes }
  match trial.failure with
  | some failure => (.error failure, s)
  | none => (.ok ⟨number, cluster, none⟩, s)

/-- A creation goes on for ever.  An answer that takes no note of anything stands for it. -/
def hang (s : Scene) : Except ControllerFailure Handle × Scene :=
  (.error .cancelled, { s with hung := true })

/-- Launch an instance.  The apiserver may be asked for its health for ever. -/
def makeLaunched (plan : Plan) (world : String → Apiserver.World) (number : Nat) (cluster : String)
    (s : Scene) : Except ControllerFailure Handle × Scene :=
  let s := s.ask (.launch cluster)
  match Launch.run plan (clientOf cluster) (world cluster) s.now s.firesAt with
  | none => s.hang
  | some launch =>
    let s := { s with now := launch.ended, launches := s.launches ++ [(number, launch)] }
    match launch.failure with
    | some failure => (.error failure, s)
    | none => (.ok ⟨number, cluster, some launch⟩, s)

/-- Create an instance as a factory does it.  What a creation that never ends has asked for is not
told. -/
def makeCreated (factory : Factory) (number : Nat) (cluster : String) (s : Scene) :
    Except ControllerFailure Handle × Scene :=
  match factory.create cluster s.now s.firesAt with
  | none => s.hang
  | some creation =>
    let s := { s with
      now := creation.ended
      launches := s.launches ++ (creation.launch.map fun launch => (number, launch)).toList
      requests := s.requests ++ requestsOf cluster creation }
    match creation.outcome with
    | .error failure => (.error failure, s)
    | .ok launch => (.ok ⟨number, cluster, some launch⟩, s)

/-- Make an instance. -/
def create (cluster : String) (s : Scene) : Except ControllerFailure Handle × Scene :=
  let number := s.next
  let s := { s with next := number + 1 }
  match s.making with
  | .scripted takes => makeScripted takes number cluster s
  | .launched plan world => makeLaunched plan world number cluster s
  | .created factory => makeCreated (factory number) number cluster s
  | .tried trial => makeTried (trial number) number cluster s

end Scene

namespace Handle

/-- The client of the instance. -/
def client (h : Handle) : AdminClient :=
  (h.launch.map Launch.client).getD (Scene.clientOf h.cluster)

/-- The names of the controllers. -/
def controllers (h : Handle) : List String := (h.launch.map Launch.controllers).getD []

/-- The lines that tell of the end of an instance at a moment. -/
def stopLines (h : Handle) (t : Moment) : List LogLine :=
  let (services, nodes, finished) := match h.launch with
    | none => (0, 0, [])
    | some l =>
      let informers := l.informers none
      ((informers.servicesAt t).size, (informers.nodesAt t).size, l.finishedAt none t)
  [.debug s!"Cluster {h.cluster} had {services} service(s) and {nodes} node(s) cached"] ++
    (if finished.isEmpty then []
      else
        [.warn (s!"Controllers {Text.quotedList finished} for cluster {h.cluster} " ++
          "had already exited")]) ++
    [.info s!"Stopping controllers for deleted cluster {h.cluster} after 0s"]

end Handle

/-- Names between braces, each in quotes. -/
def quotedSet (names : List String) : String :=
  "\x7b" ++ ", ".intercalate (names.map Text.quoted) ++ "\x7d"

/-- The lines that tell of a step at a moment. -/
def Step.lines (t : Moment) : Step Handle → List LogLine
  | .listingFailed fault => [.warn s!"Failed to list clusters: {fault.message}"]
  | .discovered names => [.debug s!"Discovered {names.length} cluster(s): {quotedSet names}"]
  | .asked cluster => [.info s!"Creating controllers for cluster {cluster}"]
  | .launched cluster h =>
    [.info (s!"Controllers {Text.quotedList h.controllers} running for cluster {cluster} " ++
      s!"via {h.client.endpoint.name} endpoint {h.client.server}")]
  | .launchFailed cluster failure =>
    [.error s!"Failed to start controllers for cluster {cluster}: {failure.message}"]
  | .abandoned cluster => [.debug s!"Startup of cluster {cluster} interrupted by shutdown"]
  | .stopped _ h => h.stopLines t
  | .forgotten _ => []
  | .completed _ => []

/-- The line that tells of a cycle, if it changed something or failed. -/
def Report.line? (r : Report) (roster : Roster Handle) : Option LogLine :=
  if r.listingFailed then
    some (.warn s!"Cluster listing failed; keeping {roster.instances.size} running instance(s)")
  else if r.hasChanges then
    some (.info (s!"Reconciled fleet: {r.started.length} started, {r.stopped.length} stopped, " ++
      s!"{r.failed.length} failed, managing {Text.quotedList roster.managed}"))
  else none

namespace Scene

/-- Take note of a step. -/
def note (step : Step Handle) (s : Scene) : Scene :=
  if s.hung then s
  else ({ s with steps := s.steps ++ [(s.now, step)] }).say (step.lines s.now)

/-- What the cycles run in. -/
def surroundings : Surroundings Scene Handle := { fired, create, note }

/-- The end of the wait for the next cycle: when the token fires, or after the interval. -/
def wake (s : Scene) (interval : Nat) : Moment :=
  match s.firesAt with
  | some t => if t ≤ s.now + interval then max s.now t else s.now + interval
  | none => s.now + interval

/-- The token fires, if there were cycles enough. -/
def close (s : Scene) : Scene :=
  if s.firesAfter = some s.listed ∧ s.hung = false then
    { s with firesAt := Time.earlier s.firesAt (some s.now) }
  else s

/-- One cycle of the loop, and the line that tells of it. -/
def round (s : Scene) (roster : Roster Handle) : Progress Scene Handle :=
  let (first, answer, s) := s.list
  let p := surroundings.cycle first answer s roster
  { p with scene := (p.scene.say ((Report.ofSteps p.steps).line? p.roster).toList).close }

/-- The scene when the wait for the next cycle is over. -/
def rest (interval : Nat) (s : Scene) : Scene :=
  if s.hung then s else { s with now := s.wake interval }

/-- Cycles until the token fires, at most `fuel` of them. -/
def cycles (interval : Nat) : (fuel : Nat) → Scene → Roster Handle → Scene × Roster Handle
  | 0, s, roster => (s, roster)
  | fuel + 1, s, roster =>
    if s.fired || s.hung then (s, roster)
    else
      let p := s.round roster
      cycles interval fuel (p.scene.rest interval) p.roster

/-- The line that tells that the loop begins. -/
def startLine (interval : Nat) : LogLine :=
  .info s!"Starting fleet reconciliation every {interval / Time.nanosPerSecond}s"

/-- The reconcile loop with at most `fuel` cycles. -/
def runFor (interval fuel : Nat) (s : Scene) : Scene × Roster Handle :=
  let (s, roster) := cycles interval fuel (s.say [startLine interval]) {}
  let running := roster.instances.size
  (s.say [.info s!"Stopping fleet reconciliation ({running} instance(s) running)"], roster)

/-- The reconcile loop.  The token is known to fire, and cycles that take no time make up the whole
time until then at most. -/
def run (interval : Nat) (s : Scene) : Scene × Roster Handle :=
  s.runFor interval (((s.firesAt.getD s.now) - s.now) / max interval 1 + 2)

/-! ## What could be seen -/

/-- When an instance was stopped by a cycle. -/
def stoppedAt (s : Scene) (number : Nat) : Option Moment :=
  (s.steps.find? fun (_, step) => match step with
    | .stopped _ h => h.number == number
    | _ => false).map (·.1)

/-- When the token of an instance fired. -/
def tokenFired (s : Scene) (number : Nat) : Option Moment :=
  Time.earlier (s.stoppedAt number) s.firesAt

/-- The creations begun by a moment. -/
def createdBy (s : Scene) (t : Moment) : List (Moment × String) :=
  s.steps.filterMap fun (m, step) => match step with
    | .asked cluster => if m ≤ t then some (m, cluster) else none
    | _ => none

/-- The instances made by a moment, and whether the token of each has fired by then. -/
def instancesBy (s : Scene) (t : Moment) : List (String × Bool) :=
  s.steps.filterMap fun (m, step) => match step with
    | .launched cluster h =>
      if m ≤ t then some (cluster, Apiserver.Informers.endedBy t (s.tokenFired h.number)) else none
    | _ => none

/-- What the controllers of all instances did by a moment, each effect with its cluster and
controller. -/
def controllerEffects (s : Scene) (t : Moment) :
    List (Moment × String × String × Controllers.Effect) :=
  s.launches.flatMap fun (number, launch) =>
    ((launch.activity (s.tokenFired number) false t).filter fun (m, _) => m ≤ t).map
      fun (m, controller, e) => (m, launch.client.cluster, controller, e)

/-- The metrics at a moment. -/
def metricsAt (s : Scene) (t : Moment) : Metrics.Store :=
  let own := (s.steps.filter fun (m, _) => m ≤ t).map fun (m, step) =>
    (m, fun (store : Metrics.Store) => step.record store)
  let others := (s.controllerEffects t).map fun (m, cluster, controller, e) =>
    (m, fun (store : Metrics.Store) => e.record cluster controller store)
  ((others ++ own).mergeSort fun a b => a.1 ≤ b.1).foldl (fun store (_, write) => write store) {}

/-- Whether a moment lies after one and not after another. -/
def isBetween (since : Option Moment) (t m : Moment) : Bool :=
  m ≤ t && (since.map fun s => decide (s < m)).getD true

/-- The lines of the loop after a moment and by another. -/
def logBetween (s : Scene) (since : Option Moment) (t : Moment) : List LogLine :=
  (s.log.filter fun (m, _) => isBetween since t m).map (·.2)

/-- The lines of the controllers after a moment and by another, in ascending order. -/
def controllerLines (s : Scene) (since : Option Moment) (t : Moment) : List LogLine :=
  let lines := (s.controllerEffects t).filterMap fun (m, _, _, e) => match e with
    | .log line => if isBetween since t m then some line else none
    | _ => none
  lines.mergeSort fun a b => a.render ≤ b.render

end Scene

end Flotilla.Fleet
