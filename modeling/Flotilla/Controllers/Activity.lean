import Flotilla.Apiserver.Informers
import Flotilla.LogLine
import Flotilla.Metrics.Store

/-!
# What a controller does

A controller of a cluster runs from the moment it is started until its token
fires.  What it does is a list of effects with their moments: lines in the log,
and writes to the metrics of the cluster.

A controller first waits for the stores it reads.  When the list of a store comes,
the store gets ready or its informer ends, and some lists never come.  The wait
is over in the first two cases, and when the token fires.  Once all stores are
ready there is a pass at once and one every period.
-/

namespace Flotilla.Controllers

open Apiserver (Informers Feed Identified)
open Time (Moment)

/-- One thing a controller does. -/
inductive Effect where
  /-- A line in the log. -/
  | log (line : LogLine)
  /-- A completed pass is counted. -/
  | sync
  /-- The number of objects is set. -/
  | objects (n : Nat)
deriving Repr, DecidableEq

/-- What is done, each with its moment. -/
abbrev Activity := List (Moment × Effect)

namespace Activity

/-- What was done by a moment. -/
def upTo (a : Activity) (t : Moment) : Activity := a.filter fun (m, _) => m ≤ t

/-- The lines of the log. -/
def logLines (a : Activity) : List LogLine :=
  a.filterMap fun (_, e) => match e with
    | .log line => some line
    | _ => none

end Activity

/-- What an effect does to the metrics of a cluster. -/
def Effect.record (cluster controller : String) (m : Metrics.Store) : Effect → Metrics.Store
  | .log _ => m
  | .sync => m.recordSync cluster controller
  | .objects n => m.setObjects cluster controller n

/-- What an effect writes to the metrics. -/
def Effect.write? (controller : String) : Effect → Option Metrics.Write
  | .log _ => none
  | .sync => some (.sync controller)
  | .objects n => some (.objects controller n)

/-- Where and how a controller runs. -/
structure Term where
  /-- The cluster. -/
  cluster : String
  /-- The address of the apiserver. -/
  server : String := ""
  /-- The stores. -/
  informers : Informers
  /-- When it is started. -/
  start : Moment
  /-- When its token fires. -/
  stop : Option Moment := none
  /-- The time between two passes. -/
  period : Nat
  /-- How many lookups may be under way at once; zero counts as one. -/
  workers : Nat := 5
  /-- The set of nodes behind load balancers is kept stable. -/
  stableNodes : Bool := false

/-- How the wait for a store ends. -/
inductive Wait where
  /-- The store is ready. -/
  | ready
  /-- The store will never be ready, which is known from a moment on. -/
  | lost (m : Moment)
  /-- Only the token ends the wait. -/
  | forever
deriving Repr, DecidableEq

namespace Term

/-- Whether the token has fired by a moment. -/
def stoppedBy (t : Term) (m : Moment) : Bool := Informers.endedBy m t.stop

/-- When the list of a feed comes, unless it never does. -/
def listedAt {α : Type} (t : Term) (feed : Feed α) : Moment :=
  match t.informers.start with
  | none => t.start
  | some start => max t.start (feed.listedAt start)

/-- The wait for the store of a feed. -/
def waitFor {α : Type} [Identified α] (t : Term) (feed : Feed α) : Wait :=
  match t.informers.start with
  | none => .forever
  | some start =>
    if t.stoppedBy (t.listedAt feed) then .forever
    else if feed.ready (feed.listedAt start) then .ready
    else if feed.silent then .forever
    else .lost (t.listedAt feed)

/-- The wait for one store and then, from the moment at which that got ready, for another. -/
def waitBoth (ready : Moment) (first second : Wait) : Wait :=
  match first, second with
  | .ready, .lost m => .lost (max ready m)
  | .ready, wait => wait
  | wait, _ => wait

/-- The line a controller leaves when it ends without a pass. -/
def leave (t : Term) (wait : Wait) (line : LogLine) : Activity :=
  match wait, t.stop with
  | .lost m, _ => [(m, .log line)]
  | _, some stop => [(max t.start stop, .log line)]
  | _, none => []

/-- When a controller ends. -/
def finish (t : Term) (wait : Wait) : Option Moment :=
  match wait, t.stop with
  | .lost m, _ => some m
  | _, some stop => some (max t.start stop)
  | _, none => none

/-- How many passes are due by a moment, the first of them at another. -/
def dueBy (t : Term) (since horizon : Moment) : Nat :=
  if since ≤ horizon then (horizon - since) / t.period + 1 else 0

/-- When a pass is due, the first of them at a moment. -/
def due (t : Term) (since : Moment) (k : Nat) : Moment := since + k * t.period

end Term

end Flotilla.Controllers
