import Flotilla.Apiserver.Feed
import Flotilla.Retry.Run
import Flotilla.Text.Blank

/-!
# A scripted apiserver

What an apiserver answers: to questions for its health, to informers of services
and nodes, and to lookups of the endpoints of a service.

It is healthy when it answers without an error and the body, read as UTF-8 and
without the blanks around it, is `ok`.
-/

namespace Flotilla.Apiserver

open Time (Moment)

/-- An answer to a question for the health. -/
structure HealthReply where
  /-- The status. -/
  status : Nat := 200
  /-- The body. -/
  body : List UInt8 := []
  /-- How long the answer takes. -/
  after : Nat := 0
  /-- There is no answer but a broken connection. -/
  broken : Bool := false
deriving Repr, DecidableEq

namespace HealthReply

/-- The answer of a healthy apiserver. -/
def healthy : HealthReply := { body := Text.encode "ok" }

/-- Whether the answer says that the apiserver is healthy. -/
def isReady (r : HealthReply) : Bool :=
  !r.broken && !(400 ≤ r.status && r.status < 600) &&
    match Text.decode r.body with
    | .ok text => Text.trim text == "ok"
    | .error _ => false

/-- The answer as one attempt of a retried check.  Requests go through a queue. -/
def check (r : HealthReply) : Retry.Check :=
  { ready := r.isReady, takes := some r.after, prompt := false }

end HealthReply

/-- The answer to a lookup of endpoints. -/
inductive Lookup where
  /-- Slices, each with its endpoints. -/
  | slices (endpoints : List (List Kube.Value))
  /-- A status and a body. -/
  | raw (status : Nat) (body : List UInt8)
  /-- A broken connection. -/
  | broken

/-- The number of endpoints that accept traffic, if the answer can be read. -/
def Lookup.ready? : Lookup → Option Nat
  | .slices endpoints =>
    let slice (es : List Kube.Value) : Kube.Value := .object [("endpoints", .list es)]
    (Kube.slicesOf? (.object [("items", .list (endpoints.map slice))])).map Kube.readyCount
  | .raw status body => Kube.readyEndpoints? status body
  | .broken => none

/-- A scripted apiserver. -/
structure World where
  /-- Answers to questions for the health, in turn, the last for every later one. -/
  health : List HealthReply := []
  /-- The services. -/
  services : Feed Kube.Service := {}
  /-- The nodes. -/
  nodes : Feed Kube.Node := {}
  /-- Answers to lookups, by namespace and name of the service. -/
  lookups : List (String × Lookup) := []
  /-- How long a lookup takes. -/
  lookupTakes : Nat := 0

namespace World

/-- An apiserver that cannot be reached. -/
def unreachable : World :=
  { health := [{ broken := true }], services := { silent := true }, nodes := { silent := true } }

/-- The questions for the health as a retried check. -/
def healthChecks (w : World) : Retry.Checks :=
  Retry.Checks.ofList HealthReply.healthy.check (w.health.map HealthReply.check)

/-- The number of endpoints of a service that accept traffic, if the lookup can be read. -/
def ready? (w : World) (s : Kube.Service) : Option Nat :=
  match w.lookups.find? fun (key, _) => key == s.key with
  | some (_, lookup) => lookup.ready?
  | none => some 0

end World

end Flotilla.Apiserver
