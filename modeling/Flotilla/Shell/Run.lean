import Flotilla.Shell.Expansion
import Flotilla.Shell.Script
import Flotilla.Shell.Utility
import Flotilla.Text.Blank
import Flotilla.Text.Split
import Flotilla.Tools.Outcome

/-!
# Running shell scripts

A `Session` runs the pipelines of a script in order until the script ends, calls
`exit`, or sends a signal to itself that ends it.  The exit code of a pipeline is
that of its last command.  The commands of a pipeline of several run in copies of
the session, so that only what they write and their exit code remain.

A command is looked up among the commands of the shell itself and then among the
utilities.  Its redirections are made in order, before it runs.
-/

namespace Flotilla.Shell

open Tools (Status)

/-- A shell in the middle of a script. -/
structure Session where
  /-- The name of the shell. -/
  name : String
  /-- The arguments of the script. -/
  arguments : List String := []
  /-- The variables, the newest first. -/
  vars : List (String × String) := []
  /-- The exit code of the last pipeline. -/
  status : Nat := 0
  /-- How the shell has ended, if it has. -/
  ended : Option Status := none
  /-- What was written to the output. -/
  stdout : List UInt8 := []
  /-- What was written to the error stream. -/
  stderr : List UInt8 := []

/-- Where a stream goes. -/
inductive Sink where
  /-- To whatever reads the command. -/
  | out
  /-- To the error stream of the shell. -/
  | err
  /-- Nowhere. -/
  | nowhere
deriving Repr, DecidableEq

/-- The streams of a command. -/
structure Streams where
  /-- What it reads. -/
  input : Flow := {}
  /-- Where its output goes. -/
  out : Sink := .out
  /-- Where its error stream goes. -/
  err : Sink := .err

namespace Session

/-- The number of the shell among all processes. -/
def processId : String := "2"

/-- The value of a parameter. -/
def value (s : Session) (name : String) : String :=
  match name with
  | "#" => toString s.arguments.length
  | "?" => toString s.status
  | "$" => processId
  | "0" => s.name
  | name =>
    match name.toNat? with
    | some n => (s.arguments[n - 1]?).getD ""
    | none => (s.vars.lookup name).getD ""

/-- The values of all parameters. -/
def values (s : Session) : Values := { arguments := s.arguments, value := s.value }

/-- A complaint of the shell about something in a line. -/
def complaint (s : Session) (line : Nat) (text : String) : String := s!"{s.name}: {line}: {text}\n"

/-- Write to the error stream. -/
def complain (s : Session) (text : String) : Session :=
  { s with stderr := s.stderr ++ Text.encode text }

/-! ## Signals -/

/-- The signals that are ignored unless asked for. -/
def ignoredSignals : List Nat := [0, 17, 18, 23, 28]

/-- The signal that a word names: its number, or its name without the beginning. -/
def signal? (word : String) : Option Nat :=
  match word.toNat? with
  | some n => some n
  | none =>
    if word == "0" then some 0
    else (Tools.signalNames.idxOf? ("SIG" ++ word)).map (· + 1)

/-- The signal and the receivers that arguments name. -/
def killArguments : List String → Option (Nat × List String)
  | "-s" :: name :: rest => (signal? name).map fun n => (n, rest)
  | arg :: rest =>
    match arg.toList with
    | '-' :: name => (signal? (String.ofList name)).map fun n => (n, rest)
    | _ => some (15, arg :: rest)
  | [] => none

/-! ## The commands of the shell -/

/-- End the shell with the exit code that an argument names, or the last one. -/
def exit (s : Session) (line : Nat) (args : List String) : Session × Report :=
  match args.head? with
  | none => ({ s with ended := some (.code s.status) }, {})
  | some arg =>
    match arg.toNat? with
    | some n => ({ s with ended := some (.code (n % 256)) }, {})
    | none =>
      ({ s with ended := some (.code 2) },
        { err := s.complaint line s!"exit: Illegal number: {arg}", status := 2 })

/-- Send a signal.  The shell itself is the only process there is. -/
def kill (s : Session) (line : Nat) (args : List String) : Session × Report :=
  match killArguments args with
  | some (n, [receiver]) =>
    if receiver != processId then
      (s, { err := s.complaint line "kill: No such process\n", status := 1 })
    else if ignoredSignals.contains n then (s, {})
    else ({ s with ended := some (.signal n) }, {})
  | _ => (s, { err := s.complaint line "kill: Usage: kill [-s sigspec] pid", status := 2 })

/-- Read a line into a variable. -/
def readLine (s : Session) (input : Flow) (args : List String) : Session × Report :=
  let bytes := firstLines 1 (input.take (lineRoom input 1))
  let line := Text.trim (Text.decodeLossy (bytes.filter (· != 10)))
  let s := { s with vars := (args.map fun name => (name, "")).reverse ++ s.vars }
  let s := match args.head? with
    | some name => { s with vars := (name, line) :: s.vars }
    | none => s
  (s, { status := if bytes.getLast? == some 10 then 0 else 1 })

/-- Run a command with some fields. -/
def call (s : Session) (line : Nat) (input : Flow) : List String → Session × Report
  | [] => (s, { status := 0 })
  | ":" :: _ => (s, {})
  | "exit" :: args => s.exit line args
  | "kill" :: args => s.kill line args
  | "read" :: args => s.readLine input args
  | "echo" :: args => (s, shellEcho args input)
  | name :: args =>
    match utility? name with
    | some utility => (s, utility args input)
    | none => (s, { err := s.complaint line s!"{name}: not found", status := 127 })

/-! ## Commands -/

/-- Where a redirection to a stream or file leads. -/
def sinkOf (streams : Streams) (kind : Redirection) (target : String) : Sink :=
  match kind, target with
  | .copy, "1" => streams.out
  | .copy, "2" => streams.err
  | .write, "/dev/stdout" => streams.out
  | .write, "/dev/stderr" => streams.err
  | _, _ => .nowhere

/-- Make a redirection.  None if there is no such file to read. -/
def redirect (s : Session) (streams : Streams) (r : Nat × Redirection × Word) : Option Streams :=
  let (stream, kind, word) := r
  let target := (expand s.values word).head?.getD ""
  match kind with
  | .read => (file? target).map fun input => { streams with input }
  | kind =>
    let sink := sinkOf streams kind target
    some (if stream == 1 then { streams with out := sink }
      else if stream == 2 then { streams with err := sink }
      else streams)

/-- The name and value of an assignment. -/
def assignment? (field : String) : Option (String × String) :=
  match Text.cutAt '=' field.toList with
  | none => none
  | some (name, value) =>
    let isName := !name.isEmpty && !(name.head?.any Char.isDigit) &&
      name.all fun c => c.isAlphanum || c == '_'
    if isName then some (String.ofList name, String.ofList value) else none

/-- What a command leaves: its part of the output, and the session. -/
def deliver (streams : Streams) (s : Session) (r : Report) : Session × Flow :=
  let s := { s with status := r.status }
  let (s, flow) : Session × Flow := match streams.out with
    | .out => (s, r.out)
    | .err => ({ s with stderr := s.stderr ++ r.out.once }, {})
    | .nowhere => (s, {})
  match streams.err with
  | .out => (s, { flow with once := flow.once ++ Text.encode r.err })
  | .err => (s.complain r.err, flow)
  | .nowhere => (s, flow)

/-- Run a command that reads a flow.  The answer is what it writes. -/
def command (s : Session) (line : Nat) (input : Flow) (c : Command) : Session × Flow :=
  match c.redirections.foldlM s.redirect { input } with
  | none => ({ s with status := 2 }.complain (s.complaint line "cannot open file"), {})
  | some streams =>
    let fields := c.words.flatMap (expand s.values)
    let assignments := (fields.map assignment?).takeWhile Option.isSome
    let rest := fields.drop assignments.length
    let assigned := assignments.reverse.filterMap id ++ s.vars
    if rest.isEmpty then ({ s with vars := assigned, status := 0 }, {})
    else
      let (s, report) := s.call line streams.input rest
      deliver streams s report

/-- Run the commands of a pipeline, each in a copy of the session. -/
def commands (s : Session) (line : Nat) : (input : Flow) → List Command → Session × Flow
  | input, [] => (s, input)
  | input, c :: rest =>
    let (copy, flow) := s.command line input c
    let signalled := match copy.ended with
      | some (.signal n dumped) => some (.signal n dumped)
      | _ => none
    let s := { s with stderr := copy.stderr, status := copy.status, ended := signalled }
    commands s line flow rest

/-- Run a pipeline. -/
def pipeline (s : Session) (p : Pipeline) : Session :=
  let (s, flow) := match p.commands with
    | [c] => s.command p.line {} c
    | cs => s.commands p.line {} cs
  { s with stdout := s.stdout ++ flow.once }

/-- Whether a pipeline follows. -/
def follows (s : Session) : Follows → Bool
  | .always => true
  | .success => s.status == 0
  | .failure => s.status != 0

/-- Run some pipelines. -/
def run (s : Session) : List Pipeline → Session
  | [] => s
  | p :: rest =>
    if s.ended.isSome then s
    else run (if s.follows p.follows then s.pipeline p else s) rest

/-- What the shell leaves. -/
def output (s : Session) : Tools.Output :=
  { status := s.ended.getD (.code s.status), stdout := s.stdout, stderr := s.stderr }

end Session

/-- Run a script with a name and arguments. -/
def runScript (name : String) (arguments : List String) (script : String) : Tools.Output :=
  let s : Session := { name, arguments }
  match readScript script.toList with
  | .error fault => { status := .code 2, stderr := Text.encode (s.complaint 1 fault.message) }
  | .ok pipelines => (s.run pipelines).output

/-- Run a shell with some arguments and nothing to read. -/
def runShell : List String → Tools.Output
  | [] => {}
  | ["-c"] => { status := .code 2, stderr := Text.encode "sh: 0: -c requires an argument\n" }
  | "-c" :: script :: args => runScript (args.head?.getD "sh") (args.drop 1) script
  | file :: _ =>
    { status := .code 2, stderr := Text.encode s!"sh: 0: cannot open {file}: No such file\n" }

end Flotilla.Shell
