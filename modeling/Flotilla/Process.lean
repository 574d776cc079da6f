import Flotilla.Fleet.Controller
import Flotilla.Server.Listener
import Flotilla.Text.Split

/-!
# The process

The process reads its settings, takes the address on which the metrics are served,
and runs the controller until it is told to stop.  A step that fails before that
ends it with code 1 and an account of the failure on its error stream: what was
being done, and the cause, indented.

Its own lines, those of the settings and those of the removal of containers make up
the log here.
-/

namespace Flotilla

/-- How the process is told to stop. -/
inductive StopSignal where
  /-- An interrupt from the keyboard. -/
  | interrupt
  /-- A request to terminate. -/
  | terminate
deriving Repr, DecidableEq

/-- The line that acknowledges a signal. -/
def StopSignal.line : StopSignal → LogLine
  | .interrupt => .info "Received Ctrl+C, shutting down"
  | .terminate => .info "Received terminate signal, shutting down"

/-- What came of the process. -/
structure ProcessRun where
  /-- The exit code. -/
  exit : Nat := 0
  /-- What was written to the error stream. -/
  stderr : String := ""
  /-- What was logged. -/
  log : List LogLine := []
deriving Repr, DecidableEq

namespace ProcessRun

/-- Where the process runs: what surrounds its controller, and who listens already. -/
structure Place where
  /-- What surrounds the controller. -/
  around : Fleet.Surrounding
  /-- The addresses on which others listen. -/
  taken : List Net.SocketAddress := []

/-- A text whose lines are indented. -/
def indented (text : String) : String :=
  "\n".intercalate ((Text.splitOn '\n' text.toList).map fun line => "    " ++ String.ofList line)

/-- The account of a failure: what was being done, and the cause. -/
def account (doing : String) (cause : ControllerFailure) : String :=
  s!"Error: {doing}\n\nCaused by:\n{indented cause.message}\n"

/-- The end of a process by a failure. -/
def failed (log : List LogLine) (doing : String) (cause : ControllerFailure) : ProcessRun :=
  { exit := 1, stderr := account doing cause, log }

/-- The first line of the log. -/
def greeting : LogLine := .info "Starting Fleet Controller"

/-- The last line of the log. -/
def farewell (sweep : Tools.Sweep) : LogLine :=
  .info (s!"Fleet Controller stopped ({sweep.deleted} container(s) removed, " ++
    s!"{sweep.failed} failure(s))")

/-- Run the process with settings found through a lookup.  It is told to stop after so many
cycles. -/
def run (lookup : String → Option String) (place : Place) (signal : StopSignal) (cycles : Nat) :
    ProcessRun :=
  match Config.load lookup with
  | .error fault => failed [greeting] "failed to load configuration" (.invalidConfig fault.message)
  | .ok config =>
    let log := greeting :: config.log
    match Server.bind place.taken config.metricsAddress with
    | .error failure => failed log "failed to start metrics server" failure
    | .ok _ =>
      let r := Fleet.runController config place.around cycles
      { log := log ++ [signal.line] ++ r.sweep.log ++ [farewell r.sweep] }

end ProcessRun

end Flotilla
