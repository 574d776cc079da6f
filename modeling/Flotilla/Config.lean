import Flotilla.FeatureGates
import Flotilla.LogLine
import Flotilla.Net.SocketAddress
import Flotilla.Text.Numeral

/-!
# Configuration

Seven settings, each a text that may be unset.  `Config.load` reads them
through a lookup, in a fixed order, and the first that is not acceptable decides the
answer.  A number is trimmed and read as a decimal numeral below `2^64`.  The
interval, the resync period and the number of workers may not be zero.

The two programs' names are taken as they are, blanks included.
-/

namespace Flotilla

/-- What is wrong with a setting. -/
inductive ConfigFault where
  /-- The text cannot be read. -/
  | unreadable (key : String) (raw : String) (reason : String)
  /-- The time is zero. -/
  | zeroTime (key : String)
  /-- The number of workers is zero. -/
  | noWorkers (key : String)
  /-- A feature gate is malformed. -/
  | gate (fault : GateFault)
deriving Repr, DecidableEq

/-- The wording. -/
def ConfigFault.message : ConfigFault → String
  | .unreadable key raw reason => s!"{key}='{raw}': {reason}"
  | .zeroTime key => s!"{key} must be greater than zero"
  | .noWorkers key => s!"{key} must be at least 1"
  | .gate fault => fault.message

/-- The settings of the fleet controller. -/
structure Config where
  /-- Seconds between two cycles. -/
  reconcileInterval : Nat
  /-- Where metrics are served. -/
  metricsAddress : Net.SocketAddress
  /-- The program that knows the clusters. -/
  kindBinary : String
  /-- The program that knows the containers. -/
  dockerBinary : String
  /-- How many services a service controller looks up at once. -/
  serviceWorkers : Nat
  /-- Seconds between two passes of a controller. -/
  controllerResync : Nat
  /-- The switches of the controllers. -/
  featureGates : FeatureGates

namespace Config

/-- The greatest number a setting can hold. -/
def numberBound : Nat := 18446744073709551615

/-- The number a setting holds, or the default if it is unset. -/
def readNumber (lookup : String → Option String) (key : String) (default : Nat) :
    Except ConfigFault Nat :=
  match lookup key with
  | none => .ok default
  | some raw =>
    match Text.numeral numberBound (Text.trimList raw.toList) with
    | .ok n => .ok n
    | .error fault => .error (.unreadable key raw fault.message)

/-- The number of seconds a setting holds, which may not be zero. -/
def readTime (lookup : String → Option String) (key : String) (default : Nat) :
    Except ConfigFault Nat :=
  match readNumber lookup key default with
  | .error fault => .error fault
  | .ok 0 => .error (.zeroTime key)
  | .ok n => .ok n

/-- The number of workers a setting holds, which may not be zero. -/
def readWorkers (lookup : String → Option String) (key : String) (default : Nat) :
    Except ConfigFault Nat :=
  match readNumber lookup key default with
  | .error fault => .error fault
  | .ok 0 => .error (.noWorkers key)
  | .ok n => .ok n

/-- The address a setting holds, or the default if it is unset. -/
def readAddress (lookup : String → Option String) (key : String) (default : Net.SocketAddress) :
    Except ConfigFault Net.SocketAddress :=
  match lookup key with
  | none => .ok default
  | some raw =>
    match Net.SocketAddress.parse? (Text.trimList raw.toList) with
    | some address => .ok address
    | none => .error (.unreadable key raw "invalid socket address syntax")

/-- The gates a setting holds, or none if it is unset. -/
def readGates (lookup : String → Option String) (key : String) : Except ConfigFault FeatureGates :=
  match FeatureGates.parse ((lookup key).getD "") with
  | .ok gates => .ok gates
  | .error fault => .error (.gate fault)

/-- Where metrics are served unless set. -/
def defaultMetricsAddress : Net.SocketAddress := .v4 [0, 0, 0, 0] 8080

/-- The settings found through a lookup. -/
def load (lookup : String → Option String) : Except ConfigFault Config := do
  let reconcileInterval ← readTime lookup "RECONCILE_INTERVAL_SECS" 30
  let controllerResync ← readTime lookup "CONTROLLER_RESYNC_SECS" 30
  let serviceWorkers ← readWorkers lookup "SERVICE_CONTROLLER_WORKERS" 5
  let metricsAddress ← readAddress lookup "METRICS_ADDR" defaultMetricsAddress
  let featureGates ← readGates lookup "FEATURE_GATES"
  return {
    reconcileInterval
    metricsAddress
    kindBinary := (lookup "KIND_BINARY").getD "kind"
    dockerBinary := (lookup "DOCKER_BINARY").getD "docker"
    serviceWorkers
    controllerResync
    featureGates
  }

/-- The lines that announce the settings. -/
def log (config : Config) : List LogLine :=
  [ .info "Configuration:",
    .info s!"  Reconcile interval: {config.reconcileInterval}s",
    .info s!"  Metrics address: {config.metricsAddress.text}",
    .info s!"  kind binary: {config.kindBinary}",
    .info s!"  Docker binary: {config.dockerBinary}",
    .info s!"  Service controller workers: {config.serviceWorkers}",
    .info s!"  Controller resync: {config.controllerResync}s",
    .info s!"  Feature gates: {config.featureGates.display}" ]

end Config

end Flotilla
