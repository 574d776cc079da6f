import Flotilla.Metrics.Store

/-!
# A history of writes

A `Session` is a store with the tokens and sinks that were named so far.  A
`Step` is one write, one forgetting, or one change to the tokens.  A token that
is named for the first time is made as one without a parent.  A name that is
given again stands for the new token or sink from then on.
-/

namespace Flotilla.Metrics

open Std (ExtTreeMap)

/-- One step of a history. -/
inductive Step where
  /-- The number of managed clusters is set. -/
  | managed (n : Nat)
  /-- A cycle is completed. -/
  | cycle
  /-- A listing fails. -/
  | listingError
  /-- A launch fails. -/
  | launchFailure (cluster : String)
  /-- A cluster is forgotten. -/
  | forget (cluster : String)
  /-- A sink is made, bound to a token if one is named. -/
  | sink (name cluster : String) (token : Option String)
  /-- A token is made as a child. -/
  | child (token parent : String)
  /-- A token is fired. -/
  | cancel (token : String)
  /-- A pass is recorded through a sink. -/
  | sync (sink controller : String)
  /-- A number of objects is recorded through a sink. -/
  | objects (sink controller : String) (n : Nat)
deriving Repr, DecidableEq

/-- A store with named tokens and sinks. -/
structure Session where
  /-- The store. -/
  store : Store := {}
  /-- The fired tokens. -/
  cancellation : Cancellation := {}
  /-- The tokens by name. -/
  tokens : ExtTreeMap String Token := ∅
  /-- The sinks by name. -/
  sinks : ExtTreeMap String Sink := ∅

namespace Session

/-- The token of a name, made now if there is none. -/
def token (s : Session) (name : String) : Token × Session :=
  match s.tokens.get? name with
  | some t => (t, s)
  | none =>
    let (t, cancellation) := s.cancellation.root
    (t, { s with cancellation, tokens := s.tokens.insert name t })

/-- The session with a sink under a name. -/
def addSink (s : Session) (name : String) (sink : Sink) : Session :=
  { s with sinks := s.sinks.insert name sink }

/-- A write through the sink of a name; nothing if there is none. -/
def write (s : Session) (name : String) (f : Sink → Cancellation → Store → Store) : Session :=
  match s.sinks.get? name with
  | some sink => { s with store := f sink s.cancellation s.store }
  | none => s

/-- The session after a step. -/
def step (s : Session) : Step → Session
  | .managed n => { s with store := s.store.setManaged n }
  | .cycle => { s with store := s.store.countCycle }
  | .listingError => { s with store := s.store.countListingError }
  | .launchFailure cluster => { s with store := s.store.countLaunchFailure cluster }
  | .forget cluster => { s with store := s.store.forget cluster }
  | .sink name cluster none => s.addSink name ⟨cluster, none⟩
  | .sink name cluster (some tokenName) =>
    let (t, s) := s.token tokenName
    s.addSink name ⟨cluster, some t⟩
  | .child name parent =>
    let (p, s) := s.token parent
    let (t, cancellation) := s.cancellation.child p
    { s with cancellation, tokens := s.tokens.insert name t }
  | .cancel name =>
    let (t, s) := s.token name
    { s with cancellation := s.cancellation.fire t }
  | .sync name controller =>
    s.write name fun sink cancellation => sink.recordSync cancellation controller
  | .objects name controller n =>
    s.write name fun sink cancellation => sink.setObjects cancellation controller n

/-- The session after a history. -/
def run (s : Session) (steps : List Step) : Session := steps.foldl step s

end Session

end Flotilla.Metrics
