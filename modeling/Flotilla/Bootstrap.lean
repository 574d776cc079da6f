import Flotilla.AdminClient
import Flotilla.Kubeconfig.Client
import Flotilla.Retry.Run

/-!
# Finding a client for a cluster

The endpoints of a cluster are tried in the order of preference, and the first
that works is taken.  An endpoint works in four steps: its kubeconfig is
fetched, turned into settings, the server that they name is probed under a retry
policy, and a client is built.  A step that fails ends the try.

The shutdown ends a fetch, a probe or a wait at its moment, and the whole with
it.  When no endpoint works the failure says so and does not say why.

What the four steps come to is laid down by a `Site`.  A `Search` tells what came of
it, and the fetches and probes in the order in which they were made.
-/

namespace Flotilla.Bootstrap

open Retry (Policy Checks)
open Time (Moment)

/-- What a fetch of a kubeconfig comes to. -/
structure Fetch where
  /-- The kubeconfig, if there is one. -/
  kubeconfig : Option String := none
  /-- How long the answer takes; none if it never comes. -/
  takes : Option Nat := some 0
deriving Repr, DecidableEq

/-- What a kubeconfig is good for. -/
structure Target where
  /-- The server it names. -/
  server : String
  /-- Whether a client can be built. -/
  buildable : Bool
deriving Repr, DecidableEq

/-- The server and client that a kubeconfig gives, if it can be turned into settings. -/
def Target.ofKubeconfig (text : String) : Option Target :=
  match Kubeconfig.ClientConfig.ofText text with
  | .error _ => none
  | .ok config => some { server := config.server.text, buildable := config.canConnect }

/-- What the steps come to. -/
structure Site where
  /-- The fetches. -/
  fetch : Endpoint → Fetch
  /-- What the kubeconfigs are good for. -/
  target : String → Option Target := Target.ofKubeconfig
  /-- The probes of a server, after probes of these servers. -/
  probe : (earlier : List String) → (server : String) → Checks

/-- What is asked of the outside. -/
inductive Call where
  /-- The kubeconfig of an endpoint is fetched. -/
  | fetch (endpoint : Endpoint)
  /-- A server is probed. -/
  | probe (server : String)
deriving Repr, DecidableEq

/-- The endpoint whose kubeconfig is fetched. -/
def Call.fetch? : Call → Option Endpoint
  | .fetch endpoint => some endpoint
  | .probe _ => none

/-- The server that is probed. -/
def Call.probe? : Call → Option String
  | .fetch _ => none
  | .probe server => some server

/-- What came of a search for a client. -/
structure Search where
  /-- The client, or why there is none. -/
  outcome : Except ControllerFailure AdminClient
  /-- The calls in order, each with its moment. -/
  calls : List (Moment × Call) := []
  /-- When it was over. -/
  ended : Moment

namespace Search

/-- The endpoints whose kubeconfig was fetched. -/
def fetches (s : Search) : List Endpoint := s.calls.filterMap fun (_, call) => call.fetch?

/-- The probes, each with its moment and server. -/
def probes (s : Search) : List (Moment × String) :=
  s.calls.filterMap fun (t, call) => call.probe?.map (t, ·)

/-- The search with calls before it. -/
def after (calls : List (Moment × Call)) (s : Search) : Search := { s with calls := calls ++ s.calls }

end Search

/-- How a try of one endpoint ended. -/
inductive Verdict where
  /-- It works. -/
  | works (client : AdminClient)
  /-- It does not. -/
  | fails
  /-- The shutdown came. -/
  | cutShort
deriving Repr, DecidableEq

/-- A try of one endpoint. -/
structure Try where
  /-- How it ended. -/
  verdict : Verdict
  /-- The probes, each with its moment and server. -/
  probes : List (Moment × String) := []
  /-- When it was over. -/
  ended : Moment

/-- The calls of a try of an endpoint that begins at a moment. -/
def Try.calls (t : Try) (endpoint : Endpoint) (start : Moment) : List (Moment × Call) :=
  (start, .fetch endpoint) :: t.probes.map fun (m, server) => (m, .probe server)

/-- The kubeconfig of an endpoint and the moment it is there.  None if it never comes. -/
def fetched (site : Site) (shutdown : Option Moment) (endpoint : Endpoint) (start : Moment) :
    Option (Except Moment (Option String × Moment)) :=
  let fetch := site.fetch endpoint
  match fetch.takes.map (start + ·), shutdown with
  | none, none => none
  | none, some t => some (.error t)
  | some there, none => some (.ok (fetch.kubeconfig, there))
  | some there, some t =>
    if t < there then some (.error t) else some (.ok (fetch.kubeconfig, there))

/-- Probe the server of a target, and build the client if it answers. -/
def probed (site : Site) (policy : Policy) (shutdown : Option Moment) (cluster : String)
    (endpoint : Endpoint) (earlier : List String) (target : Target) (start : Moment) : Option Try :=
  match policy.run (site.probe earlier target.server) start shutdown with
  | none => none
  | some run =>
    let verdict := match run.outcome with
      | .error .cancelled => .cutShort
      | .error _ => .fails
      | .ok _ => if target.buildable then .works ⟨cluster, endpoint, target.server⟩ else .fails
    some { verdict, probes := run.calls.map fun (_, t) => (t, target.server), ended := run.ended }

/-- A try of one endpoint, after probes of these servers. -/
def tryEndpoint (site : Site) (policy : Policy) (shutdown : Option Moment) (cluster : String)
    (endpoint : Endpoint) (earlier : List String) (start : Moment) : Option Try :=
  match fetched site shutdown endpoint start with
  | none => none
  | some (.error t) => some { verdict := .cutShort, ended := t }
  | some (.ok (kubeconfig, there)) =>
    match kubeconfig.bind site.target with
    | none => some { verdict := .fails, ended := there }
    | some target => probed site policy shutdown cluster endpoint earlier target there

/-- Try some endpoints in order, after probes of these servers. -/
def searchFrom (site : Site) (policy : Policy) (shutdown : Option Moment) (cluster : String) :
    List Endpoint → (earlier : List String) → (start : Moment) → Option Search
  | [], _, start => some { outcome := .error (.noWorkingClient cluster), ended := start }
  | endpoint :: rest, earlier, start =>
    if (shutdown.map fun t => decide (t ≤ start)).getD false then
      some { outcome := .error .cancelled, ended := start }
    else
      match tryEndpoint site policy shutdown cluster endpoint earlier start with
      | none => none
      | some t =>
        let calls := t.calls endpoint start
        match t.verdict with
        | .works client => some { outcome := .ok client, calls, ended := t.ended }
        | .cutShort => some { outcome := .error .cancelled, calls, ended := t.ended }
        | .fails =>
          (searchFrom site policy shutdown cluster rest (earlier ++ t.probes.map (·.2)) t.ended).map
            (Search.after calls)

/-- Find a client for a cluster.  None if the search never ends. -/
def search (site : Site) (policy : Policy) (cluster : String) (start : Moment)
    (shutdown : Option Moment) : Option Search :=
  searchFrom site policy shutdown cluster Endpoint.preference [] start

/-! ## Scripted probes -/

/-- A rule for the probes of servers. -/
structure ProbeRule where
  /-- The beginning of the server's address. -/
  stem : String
  /-- The answers in turn, the last for every later probe. -/
  outcomes : List Bool
  /-- How long an answer takes. -/
  takes : Nat := 0
deriving Repr, DecidableEq

/-- Whether a rule is for a server. -/
def ProbeRule.appliesTo (r : ProbeRule) (server : String) : Bool := r.stem.isPrefixOf server

/-- The place of the first rule for a server. -/
def ruleFor (rules : List ProbeRule) (server : String) : Option Nat :=
  rules.findIdx? fun r => r.appliesTo server

/-- The probes that rules lay down: the first rule for a server answers, and a server without a rule
is never reached. -/
def scriptedProbe (rules : List ProbeRule) (earlier : List String) (server : String) : Checks :=
  match ruleFor rules server with
  | none => fun _ => {}
  | some i =>
    let used := (earlier.filter fun s => ruleFor rules s == some i).length
    fun k =>
      match rules[i]? with
      | none => {}
      | some r =>
        Checks.ofList {} (r.outcomes.map fun ready => { ready, takes := some r.takes }) (used + k)

end Flotilla.Bootstrap
