import Flotilla.Kube.Value
import Flotilla.Text.Numeral

/-!
# Shapes of objects

What an object of the apiserver may look like.  A `Shape` says of a value
whether it can be read.  A record has named fields, each of which may be missing
or null, and other fields do not count.  Only the version and the kind of an
object must be the right texts where they stand.

`service`, `node` and `slice` are the three kinds that are read.
-/

namespace Flotilla.Kube

/-- What a value may look like. -/
inductive Shape where
  /-- Any value. -/
  | anything
  /-- A text. -/
  | text
  /-- This text and no other, and not null. -/
  | exactly (s : String)
  /-- A boolean. -/
  | flag
  /-- A whole number of so many bits, with a sign. -/
  | whole (bits : Nat)
  /-- A whole number of 32 bits or a text. -/
  | wholeOrText
  /-- A moment. -/
  | moment
  /-- A list of such values. -/
  | listOf (item : Shape)
  /-- An object with such values in its fields, whatever their names. -/
  | mapOf (value : Shape)
  /-- An object with these fields. -/
  | record (fields : List (String × Shape))

namespace Shape

/-- Whether a number fits into so many bits. -/
def fits (bits : Nat) (n : Int) : Bool :=
  -Int.pow 2 (bits - 1) ≤ n && n < Int.pow 2 (bits - 1)

/-- Whether a text has digits at the places of a pattern where that has `d`, and is equal to it
elsewhere. -/
def matchesPattern : List Char → List Char → Bool
  | [], [] => true
  | 'd' :: ps, c :: cs => c.isDigit && matchesPattern ps cs
  | p :: ps, c :: cs => p == c && matchesPattern ps cs
  | _, _ => false

/-- Whether a text is a moment: a date, the time of day, maybe a fraction, and a zone. -/
def isMoment (s : String) : Bool :=
  let cs := s.toList
  let front := cs.take 19
  let zone := match cs.drop 19 with
    | '.' :: rest =>
      if (rest.head?.map Char.isDigit).getD false then rest.dropWhile Char.isDigit else []
    | rest => rest
  matchesPattern "dddd-dd-ddTdd:dd:dd".toList front &&
    (zone == ['Z'] || matchesPattern "+dd:dd".toList zone || matchesPattern "-dd:dd".toList zone)

/-- The shape of a named field. -/
def fieldShape (fields : List (String × Shape)) (key : String) : Option Shape :=
  (fields.find? fun (k, _) => k == key).map (·.2)

/-- Whether a shape insists on a value. -/
def isStrict : Shape → Bool
  | .exactly _ => true
  | _ => false

/-- Whether a value has a shape.  Values are looked at to a depth of `fuel`. -/
def accepts : (fuel : Nat) → Shape → Value → Bool
  | 0, _, _ => false
  | _ + 1, .anything, _ => true
  | _ + 1, .text, .text _ => true
  | _ + 1, .exactly s, .text t => s == t
  | _ + 1, .flag, .bool _ => true
  | _ + 1, .whole bits, .whole n => fits bits n
  | _ + 1, .wholeOrText, .whole n => fits 32 n
  | _ + 1, .wholeOrText, .text _ => true
  | _ + 1, .moment, .text s => isMoment s
  | fuel + 1, .listOf item, .list xs => xs.all fun x => accepts fuel item x
  | fuel + 1, .mapOf value, .object fs => fs.all fun (_, v) => accepts fuel value v
  | fuel + 1, .record fields, .object fs =>
    fs.all fun (key, v) =>
      match fieldShape fields key with
      | none => true
      | some shape => (v.isNull && !shape.isStrict) || accepts fuel shape v
  | _ + 1, _, _ => false

/-- A record of texts. -/
def texts (names : List String) : List (String × Shape) := names.map fun n => (n, .text)

/-- A list of texts. -/
def textList : Shape := .listOf .text

/-- A map of texts. -/
def textMap : Shape := .mapOf .text

/-- What every object says of itself. -/
def metadata : Shape := .record <|
  texts ["generateName", "name", "namespace", "resourceVersion", "selfLink", "uid"] ++
  [("annotations", textMap), ("creationTimestamp", .moment),
    ("deletionGracePeriodSeconds", .whole 64), ("deletionTimestamp", .moment),
    ("finalizers", textList), ("generation", .whole 64),
    ("labels", textMap),
    ("managedFields", .listOf (.record (texts
      ["apiVersion", "fieldsType", "manager", "operation", "subresource"] ++
      [("fieldsV1", .anything), ("time", .moment)]))),
    ("ownerReferences", .listOf (.record (texts ["apiVersion", "kind", "name", "uid"] ++
      [("blockOwnerDeletion", .flag), ("controller", .flag)])))]

/-- An object of a version and kind. -/
def object (version kind : String) (fields : List (String × Shape)) : Shape :=
  .record <|
    [("apiVersion", .exactly version), ("kind", .exactly kind), ("metadata", metadata)] ++ fields

/-- What a list of objects says of itself. -/
def listMetadata : Shape := .record <|
  texts ["continue", "resourceVersion", "selfLink"] ++ [("remainingItemCount", .whole 64)]

/-- A service. -/
def service : Shape := object "v1" "Service"
  [ ("spec", .record <| texts ["clusterIP", "externalName", "externalTrafficPolicy",
        "internalTrafficPolicy", "ipFamilyPolicy", "loadBalancerClass", "loadBalancerIP",
        "sessionAffinity", "trafficDistribution", "type"] ++
      [("allocateLoadBalancerNodePorts", .flag), ("clusterIPs", textList),
        ("externalIPs", textList), ("healthCheckNodePort", .whole 32), ("ipFamilies", textList),
        ("loadBalancerSourceRanges", textList),
        ("ports", .listOf (.record (texts ["appProtocol", "name", "protocol"] ++
          [("nodePort", .whole 32), ("port", .whole 32), ("targetPort", .wholeOrText)]))),
        ("publishNotReadyAddresses", .flag), ("selector", textMap),
        ("sessionAffinityConfig",
          .record [("clientIP", .record [("timeoutSeconds", .whole 32)])])]),
    ("status", .record
      [("conditions", .listOf (.record (texts ["message", "reason", "status", "type"] ++
          [("lastTransitionTime", .moment), ("observedGeneration", .whole 64)]))),
        ("loadBalancer", .record
          [("ingress", .listOf (.record (texts ["hostname", "ip", "ipMode"] ++
            [("ports", .listOf (.record
              (texts ["error", "protocol"] ++ [("port", .whole 32)])))])))])]) ]

/-- A source of a node's configuration. -/
def configSource : Shape := .record
  [("configMap", .record
    (texts ["kubeletConfigKey", "name", "namespace", "resourceVersion", "uid"]))]

/-- A node. -/
def node : Shape := object "v1" "Node"
  [ ("spec", .record <| texts ["externalID", "podCIDR", "providerID"] ++
      [("configSource", configSource), ("podCIDRs", textList),
        ("taints", .listOf (.record
          (texts ["effect", "key", "value"] ++ [("timeAdded", .moment)]))),
        ("unschedulable", .flag)]),
    ("status", .record <| texts ["phase"] ++
      [("addresses", .listOf (.record (texts ["address", "type"]))), ("allocatable", textMap),
        ("capacity", textMap),
        ("conditions", .listOf (.record (texts ["message", "reason", "status", "type"] ++
          [("lastHeartbeatTime", .moment), ("lastTransitionTime", .moment)]))),
        ("config", .record (texts ["error"] ++
          [("active", configSource), ("assigned", configSource), ("lastKnownGood", configSource)])),
        ("daemonEndpoints", .record [("kubeletEndpoint", .record [("Port", .whole 32)])]),
        ("images", .listOf (.record [("names", textList), ("sizeBytes", .whole 64)])),
        ("nodeInfo", .record (texts ["architecture", "bootID", "containerRuntimeVersion",
          "kernelVersion", "kubeProxyVersion", "kubeletVersion", "machineID", "operatingSystem",
          "osImage", "systemUUID"])),
        ("runtimeHandlers", .listOf (.record (texts ["name"] ++
          [("features", .record [("recursiveReadOnlyMounts", .flag)])]))),
        ("volumesAttached", .listOf (.record (texts ["devicePath", "name"]))),
        ("volumesInUse", textList)]) ]

/-- A slice of the endpoints of a service. -/
def slice : Shape := object "discovery.k8s.io/v1" "EndpointSlice"
  [ ("addressType", .text),
    ("endpoints", .listOf (.record (texts ["hostname", "nodeName", "zone"] ++
      [("addresses", textList),
        ("conditions", .record [("ready", .flag), ("serving", .flag), ("terminating", .flag)]),
        ("deprecatedTopology", textMap),
        ("hints", .record [("forZones", .listOf (.record (texts ["name"])))]),
        ("targetRef", .record (texts ["apiVersion", "fieldPath", "kind", "name", "namespace",
          "resourceVersion", "uid"]))]))),
    ("ports", .listOf (.record
      (texts ["appProtocol", "name", "protocol"] ++ [("port", .whole 32)]))) ]

end Shape

/-- The greatest depth of a value that is looked at. -/
def depthBound : Nat := 128

/-- Whether a value has a shape. -/
def Value.hasShape (v : Value) (s : Shape) : Bool := s.accepts depthBound v

end Flotilla.Kube
