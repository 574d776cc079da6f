import Flotilla.Bootstrap
import Flotilla.Instance.Launch
import Flotilla.Net.Probe

/-!
# Creating an instance

An instance is created in two steps: a client is found for the cluster, and the
instance is launched with it.  The shutdown ends either step.  A failure of the
first step is the failure of the whole, and nothing is launched then.

`Factory` says how this is done for every cluster, and a `Creation` tells what came
of it.
-/

namespace Flotilla.Instance

open Bootstrap (Site Search)
open Time (Moment)

/-- How instances are created. -/
structure Factory where
  /-- How servers are probed. -/
  policy : Retry.Policy := .probe
  /-- How instances are launched. -/
  plan : Plan := {}
  /-- What the search for a client of a cluster meets. -/
  site : String → Site
  /-- The apiserver that a client speaks to. -/
  world : AdminClient → Apiserver.World

/-- What came of a creation. -/
structure Creation where
  /-- The search for a client. -/
  search : Search
  /-- The launch, if there was a client. -/
  launch : Option Launch := none

namespace Creation

/-- The instance, or why there is none. -/
def outcome (c : Creation) : Except ControllerFailure Launch :=
  match c.search.outcome with
  | .error failure => .error failure
  | .ok _ =>
    match c.launch with
    | none => .error .cancelled
    | some launch =>
      match launch.failure with
      | some failure => .error failure
      | none => .ok launch

/-- When it was over. -/
def ended (c : Creation) : Moment := (c.launch.map Launch.ended).getD c.search.ended

/-- What building the controllers wrote to the metrics. -/
def metrics (c : Creation) : Metrics.Store :=
  match c.launch with
  | none => {}
  | some launch => launch.built.foldl
      (fun store (controller, effect) => effect.record launch.client.cluster controller store) {}

end Creation

/-- Create the instance of a cluster.  None if the search or the launch never ends. -/
def Factory.create (f : Factory) (cluster : String) (start : Moment) (shutdown : Option Moment) :
    Option Creation :=
  match Bootstrap.search (f.site cluster) f.policy cluster start shutdown with
  | none => none
  | some search =>
    match search.outcome with
    | .error _ => some { search }
    | .ok client =>
      (Launch.run f.plan client (f.world client) search.ended shutdown).map fun launch =>
        { search, launch := some launch }

end Flotilla.Instance
