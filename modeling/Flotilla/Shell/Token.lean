/-!
# The tokens of a shell script

A script is read one character at a time by a machine with a `Mode`.  It splits the
script into words and operators.

* A blank ends a word.  A line feed also ends a command.
* A backslash takes the next character as it is, between double quotes only if that
  would mean something there.  Before a line feed both are left away.
* Everything between single quotes is taken as it is.
* Between double quotes a dollar sign still names a parameter.
* A hash at the beginning of a word begins a comment, which ends with the line.

A word is a list of pieces: texts, and parameters whose values are put in later.
-/

namespace Flotilla.Shell

/-- A piece of a word. -/
inductive Piece where
  /-- A text. -/
  | text (cs : List Char)
  /-- The value of a parameter.  Between double quotes it is not split into fields. -/
  | param (name : List Char) (quoted : Bool)
deriving Repr, DecidableEq

/-- A word. -/
abbrev Word := List Piece

/-- What is done to a stream. -/
inductive Redirection where
  /-- It is read from a file. -/
  | read
  /-- It is written to a file. -/
  | write
  /-- It goes where another stream goes. -/
  | copy
deriving Repr, DecidableEq

/-- A token. -/
inductive Token where
  /-- A word. -/
  | word (w : Word)
  /-- A redirection of a stream.  The word behind it says where to. -/
  | redirect (stream : Nat) (kind : Redirection)
  /-- The end of a command whose output the next one reads. -/
  | pipe
  /-- The end of a command; the next one follows a success. -/
  | both
  /-- The end of a command; the next one follows a failure. -/
  | either
  /-- The end of a command. -/
  | stop
  /-- The end of a line. -/
  | line
deriving Repr, DecidableEq

/-- What the machine is in the middle of. -/
inductive Mode where
  /-- Nothing. -/
  | plain
  /-- Behind a backslash. -/
  | escaped
  /-- Between single quotes. -/
  | single
  /-- Between double quotes. -/
  | double
  /-- Behind a backslash between double quotes. -/
  | doubleEscaped
  /-- Behind a dollar sign. -/
  | dollar (quoted : Bool)
  /-- In the name of a parameter, its letters in reverse. -/
  | name (quoted : Bool) (letters : List Char)
  /-- In such a name between braces. -/
  | braced (quoted : Bool) (letters : List Char)
  /-- Behind a mark that may be doubled. -/
  | mark (c : Char)
  /-- In a comment. -/
  | comment
deriving Repr, DecidableEq

/-- What the machine has read. -/
structure Lexer where
  /-- What it is in the middle of. -/
  mode : Mode := .plain
  /-- The pieces of the word so far in reverse, if there is one. -/
  word : Option (List Piece) := none
  /-- Nothing in the word was quoted. -/
  bare : Bool := true
  /-- The tokens so far in reverse. -/
  tokens : List Token := []

namespace Lexer

/-- Continue in another mode. -/
def become (s : Lexer) (mode : Mode) : Lexer := { s with mode }

/-- A piece at the end of the word. -/
def piece (s : Lexer) (p : Piece) : Lexer := { s with word := some (p :: s.word.getD []) }

/-- A character at the end of the word. -/
def char (s : Lexer) (c : Char) : Lexer :=
  match s.word with
  | some (.text cs :: rest) => { s with word := some (.text (cs ++ [c]) :: rest) }
  | _ => s.piece (.text [c])

/-- The beginning of something quoted. -/
def quote (s : Lexer) (mode : Mode) : Lexer :=
  { s.piece (.text []) with mode, bare := false }

/-- The end of the word. -/
def endWord (s : Lexer) : Lexer :=
  match s.word with
  | none => s
  | some pieces =>
    { s with word := none, bare := true, tokens := .word pieces.reverse :: s.tokens }

/-- A token at the end. -/
def token (s : Lexer) (t : Token) : Lexer :=
  let s := s.endWord
  { s with tokens := t :: s.tokens }

/-- The stream that a redirection is about: the number right before it, or the usual one. -/
def redirect (s : Lexer) (usual : Nat) (kind : Redirection) : Lexer :=
  match s.word, s.bare with
  | some [.text [c]], true =>
    if c.isDigit then
      { s with word := none, tokens := .redirect (c.toNat - 48) kind :: s.tokens }
    else s.token (.redirect usual kind)
  | _, _ => s.token (.redirect usual kind)

/-- The mode behind a piece. -/
def modeOf (quoted : Bool) : Mode := if quoted then .double else .plain

/-- A character outside quotes. -/
def plainStep (s : Lexer) (c : Char) : Lexer :=
  match c with
  | ' ' | '\t' => s.endWord
  | '\n' => s.token .line
  | ';' => s.token .stop
  | '|' | '&' | '>' => s.become (.mark c)
  | '<' => s.redirect 0 .read
  | '\\' => s.become .escaped
  | '\'' => s.quote .single
  | '"' => s.quote .double
  | '$' => s.become (.dollar false)
  | '#' => if s.word.isNone then s.become .comment else s.char c
  | c => s.char c

/-- A character between double quotes. -/
def doubleStep (s : Lexer) (c : Char) : Lexer :=
  match c with
  | '"' => s.become .plain
  | '\\' => s.become .doubleEscaped
  | '$' => s.become (.dollar true)
  | c => s.char c

/-- A character where quotes may or may not be open. -/
def textStep (quoted : Bool) (s : Lexer) (c : Char) : Lexer :=
  let s := s.become (modeOf quoted)
  if quoted then s.doubleStep c else s.plainStep c

/-- A parameter with a name of one character. -/
def isSpecial (c : Char) : Bool := c.isDigit || ['@', '*', '#', '?', '$', '!', '-'].contains c

/-- A character behind a mark that may be doubled. -/
def markStep (s : Lexer) (mark c : Char) : Lexer :=
  let s := s.become .plain
  match mark, c with
  | '|', '|' => s.token .either
  | '&', '&' => s.token .both
  | '>', '&' => s.redirect 1 .copy
  | '>', '>' => s.redirect 1 .write
  | '|', c => (s.token .pipe).plainStep c
  | '>', c => (s.redirect 1 .write).plainStep c
  | _, c => (s.token .stop).plainStep c

/-- One character. -/
def step (s : Lexer) (c : Char) : Lexer :=
  match s.mode with
  | .plain => s.plainStep c
  | .escaped => if c = '\n' then s.become .plain else (s.char c).become .plain
  | .single => if c = '\'' then s.become .plain else s.char c
  | .double => s.doubleStep c
  | .doubleEscaped =>
    let s := s.become .double
    if c = '\n' then s
    else if ['$', '"', '\\', '\x60'].contains c then s.char c
    else (s.char '\\').char c
  | .dollar quoted =>
    if c = '\x7b' then s.become (.braced quoted [])
    else if isSpecial c then (s.piece (.param [c] quoted)).become (modeOf quoted)
    else if c.isAlpha || c = '_' then s.become (.name quoted [c])
    else textStep quoted (s.char '$') c
  | .name quoted letters =>
    if c.isAlphanum || c = '_' then s.become (.name quoted (c :: letters))
    else textStep quoted (s.piece (.param letters.reverse quoted)) c
  | .braced quoted letters =>
    if c = '\x7d' then (s.piece (.param letters.reverse quoted)).become (modeOf quoted)
    else s.become (.braced quoted (c :: letters))
  | .mark mark => s.markStep mark c
  | .comment => if c = '\n' then (s.become .plain).plainStep c else s

/-- The tokens of a script.  None if a quotation or a brace is left open. -/
def tokens? (script : List Char) : Option (List Token) :=
  let s := (script ++ ['\n']).foldl step {}
  match s.mode with
  | .plain => some s.tokens.reverse
  | _ => none

end Lexer

example : Lexer.tokens? "echo 'a b' >&2".toList = some
    [.word [.text "echo".toList], .word [.text "a b".toList], .redirect 1 .copy,
      .word [.text "2".toList], .line] := by decide
example : Lexer.tokens? "a|\"$@\"".toList = some
    [.word [.text ['a']], .pipe, .word [.text [], .param ['@'] true], .line] := by decide
example : Lexer.tokens? "'".toList = none := by decide

end Flotilla.Shell
