import Flotilla.Time.Span

/-!
# Failures

Three kinds of failure, one inductive type each, with the wording in one
function `message`.

* `CommandFailure`: a command line tool could not be run or did not answer.
* `RetryFailure`: a retried check did not succeed.
* `ControllerFailure`: a step of the fleet controller failed.

Shutdown travels as `ControllerFailure.cancelled`, and `isCancelled` holds of
nothing else.
-/

namespace Flotilla

/-- Why a command line tool gave no answer. -/
inductive CommandFailure where
  /-- The tool could not be run. -/
  | unrunnable (command : String) (reason : String)
  /-- The tool ended unsuccessfully. -/
  | unsuccessful (command : String) (status : String) (stderr : String)
  /-- The tool ended well but its output is no answer. -/
  | invalidOutput (command : String) (reason : String)
  /-- The tool does not know the cluster. -/
  | notFound (cluster : String)
deriving Repr, DecidableEq

/-- The wording. -/
def CommandFailure.message : CommandFailure → String
  | .unrunnable command reason => s!"IO error running {command}: {reason}"
  | .unsuccessful command status stderr => s!"{command} failed ({status}): {stderr}"
  | .invalidOutput command reason => s!"Invalid output from {command}: {reason}"
  | .notFound cluster => s!"Cluster not found: {cluster}"

/-- Why a retried check did not succeed. -/
inductive RetryFailure where
  /-- The last allowed attempt failed. -/
  | exhausted (attempts : Nat)
  /-- The time was up. -/
  | timedOut (limit : Time.Span)
  /-- The fleet is shutting down. -/
  | cancelled
deriving Repr, DecidableEq

/-- The wording. -/
def RetryFailure.message : RetryFailure → String
  | .exhausted attempts => s!"gave up after {attempts} attempts"
  | .timedOut limit => s!"timed out after {limit.text}"
  | .cancelled => "cancelled"

/-- Why a step of the fleet controller failed. -/
inductive ControllerFailure where
  /-- The client for a reachability check could not be made. -/
  | http (reason : String)
  /-- A kubeconfig could not be turned into a client configuration. -/
  | kubeconfig (cluster : String) (reason : String)
  /-- No endpoint of the cluster gave a working client. -/
  | noWorkingClient (cluster : String)
  /-- The apiserver was not ready in time. -/
  | notReady (cluster : String) (reason : String)
  /-- The fleet is shutting down. -/
  | cancelled
  /-- A controller of an instance could not be built. -/
  | controllerInit (controller : String) (cluster : String) (reason : String)
  /-- A setting is not acceptable. -/
  | invalidConfig (reason : String)
  /-- The metrics could not be set up. -/
  | metrics (reason : String)
  /-- The metrics server failed. -/
  | server (reason : String)
deriving Repr, DecidableEq

/-- The wording. -/
def ControllerFailure.message : ControllerFailure → String
  | .http reason => s!"HTTP error: {reason}"
  | .kubeconfig cluster reason => s!"Invalid kubeconfig for cluster {cluster}: {reason}"
  | .noWorkingClient cluster => s!"No working administrative client for cluster {cluster}"
  | .notReady cluster reason => s!"Apiserver for cluster {cluster} not ready: {reason}"
  | .cancelled => "Operation cancelled"
  | .controllerInit controller cluster reason =>
    s!"Failed to build {controller} controller for cluster {cluster}: {reason}"
  | .invalidConfig reason => s!"Invalid configuration: {reason}"
  | .metrics reason => s!"Metrics error: {reason}"
  | .server reason => s!"Server error: {reason}"

/-- Whether the failure is only the shutdown. -/
def ControllerFailure.isCancelled : ControllerFailure → Bool
  | .cancelled => true
  | _ => false

theorem ControllerFailure.isCancelled_iff (e : ControllerFailure) :
    e.isCancelled = true ↔ e = .cancelled := by
  cases e <;> simp [isCancelled]

/-- The failure of a controller that could not be built.  A failure that says so
already is kept as it is. -/
def ControllerFailure.asInit (controller cluster : String) : ControllerFailure → ControllerFailure
  | .controllerInit c k r => .controllerInit c k r
  | other => .controllerInit controller cluster other.message

theorem ControllerFailure.exists_asInit (controller cluster : String) (e : ControllerFailure) :
    ∃ c k r, e.asInit controller cluster = .controllerInit c k r := by
  cases e <;> exact ⟨_, _, _, rfl⟩

end Flotilla
