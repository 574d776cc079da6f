import Flotilla.Fleet.Cycle
import Flotilla.Instance.Attempt
import Flotilla.Metrics.Session

/-!
# A stage

What the cycles of a fleet run in when an instance is seen from outside: a token,
which is a child of the token of the process, and a sink bound to that token.
An instance that could not be created had a token and a sink too.  Its token is
fired at once.

An `Occasion` is what one cycle meets: what the listing answers, what comes of
each creation, and what else goes on.  Controllers write through the sinks of
their instances at any time, also after the end of those, and the token of the
process may be fired at any time.  This is an `Aside`, and any number of them may
come after each step of a cycle.
-/

namespace Flotilla.Fleet

open Instance (Attempt)

/-- What the cycles run in. -/
structure Stage where
  /-- The metrics and the tokens. -/
  session : Metrics.Session
  /-- The token of the process. -/
  process : Token
  /-- The clusters asked of the factory so far. -/
  created : List String := []
  /-- The instances it gave so far. -/
  instances : List (String × Token) := []
  /-- The sinks of all instances that were begun, also of those that failed. -/
  sinks : List Metrics.Sink := []

/-- What goes on beside the cycles. -/
inductive Aside where
  /-- A controller writes through the sink of an instance of its cluster, the first of them having
  the place zero. -/
  | write (cluster : String) (place : Nat) (write : Metrics.Write)
  /-- The token of the process is fired. -/
  | shutDown
deriving Repr, DecidableEq

/-- What one cycle meets. -/
structure Occasion where
  /-- What is seen first. -/
  first : First := .shutdown
  /-- What a listing of the clusters answers. -/
  listing : Except CommandFailure (List String)
  /-- What comes of the creation of an instance. -/
  attempt : String → Attempt
  /-- What goes on after a step. -/
  asides : Step Token → List Aside := fun _ => []

namespace Stage

/-- A stage on which nothing has happened. -/
def fresh : Stage :=
  let (process, cancellation) := Cancellation.root {}
  { session := { cancellation }, process }

/-- The metrics. -/
def store (s : Stage) : Metrics.Store := s.session.store

/-- The fired tokens. -/
def cancellation (s : Stage) : Cancellation := s.session.cancellation

/-- The stage with other metrics. -/
def withStore (s : Stage) (store : Metrics.Store) : Stage :=
  { s with session := { s.session with store } }

/-- The stage with a token fired. -/
def fire (s : Stage) (t : Token) : Stage :=
  { s with session := { s.session with cancellation := s.session.cancellation.fire t } }

/-- Fire the token of the process. -/
def shutDown (s : Stage) : Stage := s.fire s.process

/-- Whether the token of the process has fired. -/
def fired (s : Stage) : Bool := s.cancellation.isCancelled s.process

/-- The sinks of the instances of a cluster, in the order in which they were begun. -/
def sinksOf (s : Stage) (cluster : String) : List Metrics.Sink :=
  s.sinks.filter fun sink => sink.cluster == cluster

/-- Something goes on. -/
def aside (s : Stage) : Aside → Stage
  | .write cluster place write =>
    match (s.sinksOf cluster)[place]? with
    | some sink => s.withStore (sink.write s.cancellation s.store write)
    | none => s
  | .shutDown => s.shutDown

/-- Begin an instance: its token and its sink. -/
def begin (s : Stage) (cluster : String) : Metrics.Sink × Token × Stage :=
  let (token, cancellation) := s.cancellation.child s.process
  let sink : Metrics.Sink := ⟨cluster, some token⟩
  (sink, token,
    { s with
      session := { s.session with cancellation }
      created := s.created ++ [cluster]
      sinks := s.sinks ++ [sink] })

/-- Build the controllers of an instance, which write. -/
def build (s : Stage) (cluster : String) (a : Attempt) : Token × Stage :=
  let (sink, token, s) := s.begin cluster
  (token, s.withStore (a.writes.foldl (sink.write s.cancellation) s.store))

/-- Create an instance.  If there is a failure its token is fired. -/
def create (cluster : String) (a : Attempt) (s : Stage) : Except ControllerFailure Token × Stage :=
  let (token, s) := s.build cluster a
  match a.failure with
  | some failure => (.error failure, s.fire token)
  | none => (.ok token, { s with instances := s.instances ++ [(cluster, token)] })

/-- Take note of a step: the token of a stopped instance is fired, and the metrics follow. -/
def note (step : Step Token) (s : Stage) : Stage :=
  let s := match step with
    | .stopped _ token => s.fire token
    | _ => s
  s.withStore (step.record s.store)

/-- The token of the newest instance of a cluster. -/
def newest? (s : Stage) (cluster : String) : Option Token :=
  (s.instances.reverse.find? fun (c, _) => c == cluster).map (·.2)

end Stage

/-- What a cycle runs in on an occasion. -/
def Occasion.surroundings (o : Occasion) : Surroundings Stage Token where
  fired := Stage.fired
  create cluster := Stage.create cluster (o.attempt cluster)
  note step s := (o.asides step).foldl Stage.aside (s.note step)

end Flotilla.Fleet
