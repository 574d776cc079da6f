import Flotilla.Failure
import Flotilla.Text.Blank
import Flotilla.Text.Utf8

/-!
# What comes of a command

A command line tool is run with some arguments and nothing to read.  Either it
cannot be run at all, or it writes bytes to its two streams and ends.  `answer`
reads the outcome.

* A tool that could not be run gives `unrunnable` with the reason.
* A tool that ended unsuccessfully gives `unsuccessful`.  What it wrote to its
  error stream is kept as text, trimmed, and what it wrote elsewhere is lost.
* A tool that ended well has answered with its output, which must be UTF-8.
-/

namespace Flotilla.Tools

/-! ## How a process ends -/

/-- How a process ends. -/
inductive Status where
  /-- By itself, with an exit code. -/
  | code (n : Nat)
  /-- By a signal, perhaps leaving an image of its memory. -/
  | signal (n : Nat) (dumped : Bool := false)
deriving Repr, DecidableEq

/-- The names of the signals from 1 on. -/
def signalNames : List String :=
  ["SIGHUP", "SIGINT", "SIGQUIT", "SIGILL", "SIGTRAP", "SIGABRT", "SIGBUS", "SIGFPE", "SIGKILL",
    "SIGUSR1", "SIGSEGV", "SIGUSR2", "SIGPIPE", "SIGALRM", "SIGTERM", "SIGSTKFLT", "SIGCHLD",
    "SIGCONT", "SIGSTOP", "SIGTSTP", "SIGTTIN", "SIGTTOU", "SIGURG", "SIGXCPU", "SIGXFSZ",
    "SIGVTALRM", "SIGPROF", "SIGWINCH", "SIGIO", "SIGPWR", "SIGSYS"]

namespace Status

/-- Whether the end is a success: the exit code is 0. -/
def succeeded : Status → Bool
  | .code n => n == 0
  | .signal _ _ => false

/-- A signal in words. -/
def signalText : Nat → String
  | 0 => "signal: 0"
  | k + 1 =>
    match signalNames[k]? with
    | some name => s!"signal: {k + 1} ({name})"
    | none => s!"signal: {k + 1}"

/-- The status in words. -/
def text : Status → String
  | .code n => s!"exit status: {n}"
  | .signal n dumped => if dumped then signalText n ++ " (core dumped)" else signalText n

end Status

/-- What a tool that was run has written, and how it ended. -/
structure Output where
  /-- How it ended. -/
  status : Status := .code 0
  /-- What it wrote to its output. -/
  stdout : List UInt8 := []
  /-- What it wrote to its error stream. -/
  stderr : List UInt8 := []
deriving Repr, DecidableEq

/-- The output of a tool, or why it could not be run. -/
abbrev Outcome := Except String Output

/-- What there is to run: the outcome for each binary and its arguments. -/
abbrev Machine := String → List String → Outcome

/-! ## Reading an outcome -/

/-- The command as it is written in messages. -/
def commandLine (binary : String) (args : List String) : String :=
  " ".intercalate (binary :: args)

/-- The answer of a command. -/
def answer (command : String) : Outcome → Except CommandFailure String
  | .error reason => .error (.unrunnable command reason)
  | .ok output =>
    if output.status.succeeded then
      match Text.decode output.stdout with
      | .ok text => .ok text
      | .error fault => .error (.invalidOutput command s!"stdout is not UTF-8: {fault.message}")
    else
      .error (.unsuccessful command output.status.text (Text.trim (Text.decodeLossy output.stderr)))

/-- Run a binary and read its answer. -/
def Machine.ask (machine : Machine) (binary : String) (args : List String) :
    Except CommandFailure String :=
  answer (commandLine binary args) (machine binary args)

example : (Status.signal 9).text = "signal: 9 (SIGKILL)" := by decide
example : (Status.signal 11 true).text = "signal: 11 (SIGSEGV) (core dumped)" := by decide
example : (Status.signal 34).text = "signal: 34" := by decide

end Flotilla.Tools
