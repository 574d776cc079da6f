import Flotilla.Instance.Launch
import Flotilla.Time.Spacing

/-!
# Watching a launch

When a launch is over things are done to what came of it: the token it descends
from is fired, the instance is cancelled, or its cluster is forgotten in the
metrics.  A little after each of these there is an `Observation`.  Something that
was to be done while the launch or an observation went on is done right after.

The handle of an instance is there from the end of a successful launch until the
instance is cancelled.  Without it only the metrics, the logs and the tokens can
be seen.
-/

namespace Flotilla.Instance

open Controllers (Effect)
open Time (Moment)

/-- What is done to a launch. -/
inductive Act where
  /-- The token it descends from is fired. -/
  | cancelParent
  /-- The instance is cancelled. -/
  | cancel
  /-- The cluster is forgotten. -/
  | forget
  /-- Nothing. -/
  | look
deriving Repr, DecidableEq

/-- Things done, each with its moment, in order of time. -/
abbrev Acts := List (Moment × Act)

/-- The moment of the first act of a kind that is not before a moment. -/
def firstAct (acts : Acts) (act : Act) (since : Moment) : Option Moment :=
  (acts.find? fun (m, a) => a == act && since ≤ m).map (·.1)

/-- What can be seen at a moment. -/
structure Observation where
  /-- The metrics. -/
  metrics : Metrics.Store
  /-- The lines of the service controller since the observation before. -/
  service : List LogLine
  /-- The lines of the node controller since then. -/
  node : List LogLine
  /-- The informers, if the handle is there. -/
  informers : Option String
  /-- The controllers that have ended, if the handle is there. -/
  finished : Option (List String)
  /-- The scripted controllers, and whether the token of each has fired. -/
  watching : List (String × Bool)
  /-- Whether the token the launch descends from has fired. -/
  parentCancelled : Bool

/-- A launch and what is done to it. -/
structure Watch where
  /-- The launch. -/
  launch : Launch
  /-- What is done. -/
  acts : Acts
  /-- When the token it descends from fires. -/
  parent : Option Moment

namespace Watch

/-- When the instance is cancelled. -/
def cancelled (w : Watch) : Option Moment :=
  if w.launch.succeeded then firstAct w.acts .cancel w.launch.ended else none

/-- When the token of the instance fires. -/
def stop (w : Watch) : Option Moment := Time.earlier w.parent w.cancelled

/-- Whether the handle is there at a moment. -/
def hasHandle (w : Watch) (t : Moment) : Bool :=
  w.launch.succeeded && w.launch.ended ≤ t && !Apiserver.Informers.endedBy t w.cancelled

/-- What is written to the metrics by a moment, in order of time. -/
def writes (w : Watch) (t : Moment) : List (Moment × (Metrics.Store → Metrics.Store)) :=
  let cluster := w.launch.client.cluster
  let effects := (w.launch.activity w.stop false t).map fun (m, controller, e) =>
    (m, fun (store : Metrics.Store) => e.record cluster controller store)
  let forgets := (w.acts.filter fun (m, a) => a == .forget && m ≤ t).map fun (m, _) =>
    (m, fun (store : Metrics.Store) => store.forget cluster)
  (effects ++ forgets).mergeSort fun a b => a.1 ≤ b.1

/-- The metrics at a moment. -/
def metricsAt (w : Watch) (t : Moment) : Metrics.Store :=
  (w.writes t).foldl (fun store (_, write) => write store) {}

/-- The lines of a kind of controller after a moment and by another. -/
def linesBetween (w : Watch) (kind : Builder) (since : Option Moment) (t : Moment) : List LogLine :=
  let activity := (w.launch.started.filter (· == kind)).flatMap (w.launch.activityOf w.stop true t)
  let fresh := activity.filter fun (m, _) => (since.map fun s => decide (s < m)).getD true
  Controllers.Activity.logLines (fresh.mergeSort fun a b => a.1 ≤ b.1)

/-- What can be seen at a moment, after an observation at another. -/
def observe (w : Watch) (since : Option Moment) (t : Moment) : Observation :=
  let handle := w.hasHandle t
  { metrics := w.metricsAt t
    service := w.linesBetween .service since t
    node := w.linesBetween .node since t
    informers :=
      if handle then some ((w.launch.informers w.stop).descriptionAt t) else none
    finished := if handle then some (w.launch.finishedAt w.stop t) else none
    watching := if w.launch.ended ≤ t then
        w.launch.started.filterMap fun b => match b with
          | .scripted name _ _ =>
            some (name, Apiserver.Informers.endedBy t (w.launch.stopOf w.stop))
          | _ => none
      else []
    parentCancelled := Apiserver.Informers.endedBy t w.parent }

/-- The observations at some moments in order of time. -/
def observationsFrom (w : Watch) (since : Option Moment) : List Moment → List Observation
  | [] => []
  | t :: ts => w.observe since t :: observationsFrom w (some t) ts

end Watch

/-- Launch an instance and then do these things.  The token the launch descends from may also fire
at a moment of its own. -/
def watch (plan : Plan) (client : AdminClient) (world : Apiserver.World) (shutdown : Option Moment)
    (pause : Nat) (acts : Acts) : Option Watch :=
  (Launch.run plan client world 0 shutdown).map fun launch =>
    let acts := Time.spaced pause launch.ended acts
    { launch, acts, parent := Time.earlier shutdown (firstAct acts .cancelParent 0) }

/-- The observations, each a pause after an act. -/
def Watch.observations (w : Watch) (pause : Nat) : List Observation :=
  w.observationsFrom none (w.acts.map fun (m, _) => m + pause)

/-- The moment of the last observation, or the end of the launch if there is none. -/
def Watch.finish (w : Watch) (pause : Nat) : Moment :=
  (w.acts.getLast?.map fun (m, _) => m + pause).getD w.launch.ended

end Flotilla.Instance
