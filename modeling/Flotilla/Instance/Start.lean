import Flotilla.Failure
import Flotilla.Metrics.Store

/-!
# Starting an instance

An instance is started under a token of its own, a new child of another.  Its
builders are asked in order, and each controller is started as soon as it is
built.  The informers are started last.  When a builder fails the token is fired
and nothing more is done.

All instances share the metrics and the tokens.  A `Ground` has both, and the
record of what was asked and started on it.
-/

namespace Flotilla.Instance

/-- What asking a builder for a controller comes to. -/
structure Build (C : Type) where
  /-- The name of the builder. -/
  name : String
  /-- What is written to the metrics of the instance until it answers. -/
  writes : List Metrics.Write := []
  /-- The controller, or why there is none. -/
  result : Except ControllerFailure C

/-- What instances are started on. -/
structure Ground (C : Type) where
  /-- The metrics. -/
  store : Metrics.Store := {}
  /-- The fired tokens. -/
  cancellation : Cancellation := {}
  /-- The builders that were asked. -/
  asked : List String := []
  /-- The controllers that were started, each with its token. -/
  tasks : List (C × Token) := []
  /-- What informers were started to watch, each with its token. -/
  watches : List (String × Token) := []

/-- An instance that was started. -/
structure Started (C : Type) where
  /-- The cluster. -/
  cluster : String
  /-- The token. -/
  token : Token
  /-- The controllers. -/
  controllers : List C
deriving Repr, DecidableEq

/-- What the informers of an instance watch. -/
def resources : List String := ["services", "nodes"]

variable {C : Type}

namespace Ground

/-- A child of a token is made. -/
def child (g : Ground C) (parent : Token) : Token × Ground C :=
  let (token, cancellation) := g.cancellation.child parent
  (token, { g with cancellation })

/-- A builder is asked, and meanwhile there are writes through a sink. -/
def ask (g : Ground C) (sink : Metrics.Sink) (b : Build C) : Ground C :=
  { g with
    store := b.writes.foldl (sink.write g.cancellation) g.store
    asked := g.asked ++ [b.name] }

/-- A controller is started under a token. -/
def spawn (g : Ground C) (c : C) (token : Token) : Ground C :=
  { g with tasks := g.tasks ++ [(c, token)] }

/-- The informers are started under a token. -/
def watch (g : Ground C) (token : Token) : Ground C :=
  { g with watches := g.watches ++ resources.map (·, token) }

/-- A token is fired. -/
def fire (g : Ground C) (token : Token) : Ground C :=
  { g with cancellation := g.cancellation.fire token }

end Ground

/-- Build and start the controllers of an instance with this token and sink. -/
def buildAll (token : Token) (sink : Metrics.Sink) (cluster : String) :
    List (Build C) → Ground C → Except ControllerFailure (List C) × Ground C
  | [], g => (.ok [], g)
  | b :: bs, g =>
    let g := g.ask sink b
    match b.result with
    | .error failure => (.error (failure.asInit b.name cluster), g.fire token)
    | .ok c =>
      let (result, g) := buildAll token sink cluster bs (g.spawn c token)
      (result.map (c :: ·), g)

/-- Start an instance of a cluster under a child of a token. -/
def start (parent : Token) (cluster : String) (builds : List (Build C)) (g : Ground C) :
    Except ControllerFailure (Started C) × Ground C :=
  let (token, g) := g.child parent
  let sink : Metrics.Sink := ⟨cluster, some token⟩
  let (result, g) := buildAll token sink cluster builds g
  match result with
  | .error failure => (.error failure, g)
  | .ok controllers => (.ok { cluster, token, controllers }, g.watch token)

/-- A controller that cannot be built makes a failure that says so. -/
theorem buildAll_error {token : Token} {sink : Metrics.Sink} {cluster : String}
    {builds : List (Build C)} {g : Ground C} {failure : ControllerFailure}
    (h : (buildAll token sink cluster builds g).1 = .error failure) :
    ∃ c k r, failure = .controllerInit c k r := by
  induction builds generalizing g failure with
  | nil => cases h
  | cons b bs ih =>
    simp only [buildAll] at h
    cases hb : b.result with
    | error e =>
      rw [hb] at h
      cases h
      exact e.exists_asInit b.name cluster
    | ok c =>
      simp only [hb] at h
      cases hr : (buildAll token sink cluster bs ((g.ask sink b).spawn c token)).1 with
      | error e =>
        rw [hr] at h
        cases h
        exact ih hr
      | ok cs =>
        rw [hr] at h
        cases h

/-- So does an instance that cannot be started. -/
theorem start_error {parent : Token} {cluster : String} {builds : List (Build C)} {g : Ground C}
    {failure : ControllerFailure} (h : (start parent cluster builds g).1 = .error failure) :
    ∃ c k r, failure = .controllerInit c k r := by
  simp only [start] at h
  split at h
  · next e he =>
    cases h
    exact buildAll_error he
  · cases h

end Flotilla.Instance
