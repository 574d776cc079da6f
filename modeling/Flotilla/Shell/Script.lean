import Flotilla.Shell.Token

/-!
# Shell scripts

A script is a list of pipelines.  Each follows the one before it always, only after
a success, or only after a failure.  A pipeline is a list of commands of which each
reads what the one before it writes.  A command is a list of words with
redirections.

A line may be empty, but between two other operators there must be a command, and a
redirection must say where to.
-/

namespace Flotilla.Shell

/-- A command. -/
structure Command where
  /-- Its words. -/
  words : List Word := []
  /-- What is done to its streams, in order. -/
  redirections : List (Nat × Redirection × Word) := []
deriving Repr, DecidableEq

/-- When a pipeline follows. -/
inductive Follows where
  /-- Always. -/
  | always
  /-- After a success. -/
  | success
  /-- After a failure. -/
  | failure
deriving Repr, DecidableEq

/-- A pipeline. -/
structure Pipeline where
  /-- When it follows. -/
  follows : Follows
  /-- Its line in the script. -/
  line : Nat
  /-- Its commands. -/
  commands : List Command
deriving Repr, DecidableEq

/-- What is read of a script. -/
structure Reading where
  /-- The pipelines so far in reverse. -/
  pipelines : List Pipeline := []
  /-- When the pipeline that is read follows. -/
  follows : Follows := .always
  /-- The line. -/
  line : Nat := 1
  /-- The commands of that pipeline so far in reverse. -/
  commands : List Command := []
  /-- The command that is read, if there is something of it. -/
  command : Option Command := none
  /-- The redirection that waits for its word. -/
  waiting : Option (Nat × Redirection) := none
deriving Repr, DecidableEq

namespace Reading

/-- The end of a command. -/
def endCommand (r : Reading) : Option Reading :=
  match r.waiting, r.command with
  | none, some c => some { r with commands := c :: r.commands, command := none }
  | _, _ => none

/-- The end of a pipeline. -/
def endPipeline (r : Reading) (next : Follows) : Option Reading :=
  r.endCommand.map fun r =>
    { r with
      pipelines := ⟨r.follows, r.line, r.commands.reverse⟩ :: r.pipelines
      follows := next
      commands := [] }

/-- Whether nothing is begun. -/
def isIdle (r : Reading) : Bool :=
  r.command.isNone && r.waiting.isNone && r.commands.isEmpty && r.follows == .always

/-- One token. -/
def step (r : Reading) : Token → Option Reading
  | .word w =>
    let c := r.command.getD {}
    match r.waiting with
    | some (stream, kind) =>
      some { r with
        waiting := none
        command := some { c with redirections := c.redirections ++ [(stream, kind, w)] } }
    | none => some { r with command := some { c with words := c.words ++ [w] } }
  | .redirect stream kind =>
    if r.waiting.isSome then none else some { r with waiting := some (stream, kind) }
  | .pipe => r.endCommand
  | .both => r.endPipeline .success
  | .either => r.endPipeline .failure
  | .stop => r.endPipeline .always
  | .line =>
    if r.command.isNone && r.waiting.isNone then some { r with line := r.line + 1 }
    else (r.endPipeline .always).map fun r => { r with line := r.line + 1 }

end Reading

/-- Why a script is none. -/
inductive ScriptFault where
  /-- A quotation is left open. -/
  | openQuotation
  /-- An operator stands where a command should be. -/
  | misplaced
deriving Repr, DecidableEq

/-- The wording. -/
def ScriptFault.message : ScriptFault → String
  | .openQuotation => "Syntax error: Unterminated quoted string"
  | .misplaced => "Syntax error: end of file unexpected"

/-- Reads a script. -/
def readScript (script : List Char) : Except ScriptFault (List Pipeline) :=
  match Lexer.tokens? script with
  | none => .error .openQuotation
  | some tokens =>
    match tokens.foldlM Reading.step {} with
    | none => .error .misplaced
    | some r => if r.isIdle then .ok r.pipelines.reverse else .error .misplaced

example : (readScript "a b;c".toList).toOption = some
    [ ⟨.always, 1, [⟨[[.text ['a']], [.text ['b']]], []⟩]⟩,
      ⟨.always, 1, [⟨[[.text ['c']]], []⟩]⟩ ] := by
  decide
example : (readScript "a &&".toList).toOption = none := by decide
example : (readScript "".toList).toOption = some [] := by decide

end Flotilla.Shell
