import Flotilla.Kube.JsonText
import Flotilla.Kube.Shape
import Flotilla.Text.Utf8

/-!
# Services, nodes and endpoints

What is read off the objects of an apiserver.

* A service asks for a load balancer when its type says so.
* A node is ready when some condition `Ready` is `True`.  It may back a load
  balancer when it is ready and, if the set of nodes is kept stable, does not
  carry the label that excludes it.
* An endpoint accepts traffic unless it says that it is not ready.
-/

namespace Flotilla.Kube

/-- What an object says of itself. -/
structure Identity where
  /-- The name. -/
  name : Option String := none
  /-- The beginning of a name that is still to be made. -/
  generateName : Option String := none
  /-- The namespace. -/
  namespaceName : Option String := none
deriving Repr, DecidableEq

namespace Identity

/-- The name, or else the beginning of one, or else nothing. -/
def anyName (i : Identity) : String := (i.name.or i.generateName).getD ""

/-- The namespace, or nothing. -/
def namespaceText (i : Identity) : String := i.namespaceName.getD ""

/-- What an object says of itself. -/
def ofValue (v : Value) : Identity :=
  let metadata := (v.field? "metadata").getD .null
  { name := metadata.textField? "name"
    generateName := metadata.textField? "generateName"
    namespaceName := metadata.textField? "namespace" }

end Identity

/-- A service. -/
structure Service where
  /-- What it says of itself. -/
  identity : Identity
  /-- Its type. -/
  type : Option String := none
deriving Repr, DecidableEq

namespace Service

/-- Whether the service asks for a load balancer. -/
def isLoadBalancer (s : Service) : Bool := s.type == some "LoadBalancer"

/-- Namespace and name. -/
def key (s : Service) : String := s.identity.namespaceText ++ "/" ++ s.identity.anyName

/-- The service of a value. -/
def ofValue? (v : Value) : Option Service :=
  if v.hasShape .service then
    some { identity := .ofValue v, type := (v.field? "spec").bind (·.textField? "type") }
  else none

end Service

/-- The label of nodes that back no load balancer. -/
def excludeLabel : String := "node.kubernetes.io/exclude-from-external-load-balancers"

/-- A node. -/
structure Node where
  /-- What it says of itself. -/
  identity : Identity
  /-- The names of its labels. -/
  labels : List String := []
  /-- Its conditions, each with a type and a status. -/
  conditions : List (String × String) := []
deriving Repr, DecidableEq

namespace Node

/-- Whether the node is ready. -/
def isReady (n : Node) : Bool := n.conditions.any fun c => c == ("Ready", "True")

/-- Whether the node may back a load balancer. -/
def isEligible (stable : Bool) (n : Node) : Bool :=
  n.isReady && !(stable && n.labels.contains excludeLabel)

/-- The node of a value. -/
def ofValue? (v : Value) : Option Node :=
  if v.hasShape .node then
    let metadata := (v.field? "metadata").getD .null
    let status := (v.field? "status").getD .null
    let conditions := ((status.field? "conditions").getD .null).items
    some {
      identity := .ofValue v
      labels := ((metadata.field? "labels").getD .null).fields.map (·.1)
      conditions := conditions.map fun c =>
        ((c.textField? "type").getD "", (c.textField? "status").getD "")
    }
  else none

end Node

/-- Whether an endpoint accepts traffic. -/
def endpointReady (endpoint : Value) : Bool :=
  ((((endpoint.field? "conditions").getD .null).field? "ready").bind (·.bool?)).getD true

/-- The number of endpoints of a slice that accept traffic. -/
def sliceReady (slice : Value) : Nat :=
  (((slice.field? "endpoints").getD .null).items.filter endpointReady).length

/-- The number of endpoints of some slices that accept traffic. -/
def readyCount (slices : List Value) : Nat := slices.foldl (fun n slice => n + sliceReady slice) 0

/-- The slices of a list of slices. -/
def slicesOf? (v : Value) : Option (List Value) :=
  match v with
  | .object fields =>
    match fields.reverse.find? fun (k, _) => k == "items" with
    | none => none
    | some (_, items) =>
      let metadataFits := match fields.reverse.find? fun (k, _) => k == "metadata" with
        | none => true
        | some (_, m) => m.hasShape Shape.listMetadata
      let itemsFit := items.isNull || items.hasShape (.listOf .slice)
      if metadataFits && itemsFit then some items.items else none
  | _ => none

/-- The number of endpoints that accept traffic, by the answer to a lookup.  None if the answer is
no list of slices. -/
def readyEndpoints? (status : Nat) (body : List UInt8) : Option Nat :=
  if 400 ≤ status ∧ status < 600 then none
  else
    match Text.decode body with
    | .error _ => none
    | .ok text =>
      ((JsonText.parse? text).bind slicesOf?).map readyCount

end Flotilla.Kube
