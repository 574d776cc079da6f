import Flotilla.Apiserver.World

/-!
# The informers of a cluster

A cluster has two informers, one for its services and one for its nodes, which
are started together and once.  Both end when their token fires, and their
stores then stay as they are.  Informers that are started after that end at once
with empty stores.

What is done to them is a list of deeds, each with its moment (`Informers.play`).
-/

namespace Flotilla.Apiserver

open Time (Moment)

/-- The two informers of a cluster. -/
structure Informers where
  /-- The apiserver. -/
  world : World
  /-- When they were started. -/
  start : Option Moment := none
  /-- When their token fires. -/
  stop : Option Moment := none

namespace Informers

/-- Start the informers.  The answer is the number of tasks: two the first time, and none later. -/
def begin (i : Informers) (t : Moment) : Nat × Informers :=
  match i.start with
  | some _ => (0, i)
  | none => (2, { i with start := some t })

/-- Fire the token. -/
def cancel (i : Informers) (t : Moment) : Informers := { i with stop := i.stop.or (some t) }

/-- What is done to the informers of a cluster. -/
inductive Deed where
  /-- They are started. -/
  | start
  /-- Their token fires. -/
  | cancel
deriving Repr, DecidableEq

/-- The informers after a deed.  To start them is answered with the number of tasks. -/
def act (i : Informers) (t : Moment) : Deed → Option Nat × Informers
  | .start =>
    let (tasks, i) := i.begin t
    (some tasks, i)
  | .cancel => (none, i.cancel t)

/-- The informers after some deeds, one after another. -/
def play (i : Informers) (deeds : List (Moment × Deed)) : Informers :=
  deeds.foldl (fun i (t, deed) => (i.act t deed).2) i

/-- Whether the informers were started. -/
def isStarted (i : Informers) : Bool := i.start.isSome

/-- The store of a feed at a moment. -/
def storeAt {α : Type} [Identified α] (i : Informers) (feed : Feed α) (t : Moment) : Objects α :=
  match i.start with
  | none => ∅
  | some start => feed.storeAt (feed.listedAt start) i.stop t

/-- The services known at a moment. -/
def servicesAt (i : Informers) (t : Moment) : Objects Kube.Service := i.storeAt i.world.services t

/-- The nodes known at a moment. -/
def nodesAt (i : Informers) (t : Moment) : Objects Kube.Node := i.storeAt i.world.nodes t

/-- When the informer of a feed ends.  The token ends it also while it waits for its list. -/
def taskEnd {α : Type} [Identified α] (i : Informers) (feed : Feed α) : Option Moment :=
  match i.start with
  | none => none
  | some start =>
    match feed.fault (feed.listedAt start), i.stop with
    | some f, some s => some (min f (max start s))
    | some f, none => some f
    | none, some s => some (max start s)
    | none, none => none

/-- Whether a task that ends at a moment, if it does, has ended by another. -/
def endedBy (t : Moment) : Option Moment → Bool
  | none => false
  | some e => e ≤ t

/-- How many of the two tasks have ended at a moment. -/
def finishedAt (i : Informers) (t : Moment) : Nat :=
  (endedBy t (i.taskEnd i.world.services)).toNat + (endedBy t (i.taskEnd i.world.nodes)).toNat

/-- A description at a moment, on one line. -/
def descriptionAt (i : Informers) (t : Moment) : String :=
  s!"SharedInformers \x7b started: {i.isStarted}, services: {(i.servicesAt t).size}, " ++
    s!"nodes: {(i.nodesAt t).size} \x7d"

end Informers

end Flotilla.Apiserver
