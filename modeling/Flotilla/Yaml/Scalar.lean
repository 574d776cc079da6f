import Flotilla.Yaml.Cursor

/-!
# Scalars

The five ways to write a text: plain, in single or double quotes, and as a
literal or folded block.  Within a plain or quoted text a line break is read as
one space, and several as one fewer line feeds.
-/

namespace Flotilla.Yaml

/-- What so many line breaks within a text stand for. -/
def folded (breaks : Nat) : List Char :=
  if breaks = 1 then [' '] else List.replicate (breaks - 1) '\n'

/-! ## Plain -/

/-- Characters with a meaning within brackets. -/
def isBracketMark (c : Char) : Bool := c ∈ [',', '[', ']', '{', '}']

/-- Characters that start something else than a plain text. -/
def isReserved (c : Char) : Bool :=
  isBracketMark c || c ∈ ['#', '&', '*', '!', '|', '>', '\'', '"', '%', '@', '\x60']

/-- Whether a plain text can start here. -/
def startsPlain (inBrackets : Bool) : List Char → Bool
  | [] => false
  | c :: cs =>
    if isBlank c || c = '\n' then false
    else if c = '-' then !blankNext cs
    else if c = '?' || c = ':' then !inBrackets && !blankNext cs
    else !isReserved c

/-- The end of a plain text on a line: how many characters it has, counting `seen` so far, of which
the last `blanks` are blanks.  None if a colon stands where it may not. -/
def plainLength (inBrackets : Bool) : (seen blanks : Nat) → List Char → Option Nat
  | seen, blanks, [] => some (seen - blanks)
  | seen, blanks, c :: cs =>
    if c = '\n' then some (seen - blanks)
    else if isBlank c then plainLength inBrackets (seen + 1) (blanks + 1) cs
    else if c = '#' && 0 < blanks then some (seen - blanks)
    else if c = ':' && blankNext cs then some (seen - blanks)
    else if inBrackets && c = ':' &&
        (match cs with | d :: _ => isBracketMark d || d = '?' | [] => false)
    then none
    else if inBrackets && isBracketMark c then some (seen - blanks)
    else plainLength inBrackets (seen + 1) 0 cs

/-- A plain text on one line. -/
def plainLine (inBrackets : Bool) : Reader (List Char) := fun c =>
  (plainLength inBrackets 0 0 c.rest).map fun n => (c.rest.take n, c.skips n)

/-- The place behind blanks and line breaks, and the number of breaks.  Fails at a tab in the
indentation of a block. -/
def skipBreaks (parent : Option Int) : (fuel breaks : Nat) → Reader Nat
  | 0, breaks, c => some (breaks, c)
  | fuel + 1, breaks, c =>
    match c.rest with
    | ' ' :: _ => skipBreaks parent fuel breaks c.skip
    | '\t' :: _ =>
      match parent with
      | some p =>
        if 0 < breaks && (c.column : Int) ≤ p then none else skipBreaks parent fuel breaks c.skip
      | none => skipBreaks parent fuel breaks c.skip
    | '\n' :: _ => skipBreaks parent fuel (breaks + 1) c.skip
    | _ => some (breaks, c)

/-- Whether a plain text goes on here, on a new line of a block or within brackets. -/
def goesOn (parent : Option Int) (c : Cursor) : Bool :=
  !c.atEnd && !c.atMarker && !c.sees '#' && !c.atMark ':' &&
    match parent with
    | some p => p < (c.column : Int)
    | none => !(c.rest.head?.map isBracketMark).getD false

/-- A plain text, over several lines if it goes on.  `parent` is the column of the block it stands
in, none within brackets. -/
def plainText (parent : Option Int) : (fuel : Nat) → Reader (List Char)
  | 0, _ => none
  | fuel + 1, c => do
    let (text, c) ← plainLine parent.isNone c
    let (breaks, next) ← skipBreaks parent (c.rest.length + 1) 0 c
    if breaks = 0 || !goesOn parent next then some (text, c)
    else
      let (more, c) ← plainText parent fuel next
      some (text ++ folded breaks ++ more, c)

/-! ## Quoted -/

/-- The value of a hexadecimal number of so many digits. -/
def hexValue : (digits value : Nat) → List Char → Option Nat
  | 0, value, _ => some value
  | _ + 1, _, [] => none
  | digits + 1, value, c :: cs =>
    let n := c.toNat
    if 48 ≤ n ∧ n ≤ 57 then hexValue digits (value * 16 + (n - 48)) cs
    else if 97 ≤ n ∧ n ≤ 102 then hexValue digits (value * 16 + (n - 87)) cs
    else if 65 ≤ n ∧ n ≤ 70 then hexValue digits (value * 16 + (n - 55)) cs
    else none

/-- The character of a code point. -/
def charOfCode (n : Nat) : Option Char := if n.isValidChar then some (Char.ofNat n) else none

/-- What a letter behind a backslash stands for: a character, or the number of hexadecimal digits
that follow. -/
def escape? (c : Char) : Option (Char ⊕ Nat) :=
  match c with
  | '0' => some (.inl '\x00')
  | 'a' => some (.inl '\x07')
  | 'b' => some (.inl '\x08')
  | 't' => some (.inl '\t')
  | '\t' => some (.inl '\t')
  | 'n' => some (.inl '\n')
  | 'v' => some (.inl '\x0b')
  | 'f' => some (.inl '\x0c')
  | 'r' => some (.inl '\r')
  | 'e' => some (.inl '\x1b')
  | ' ' => some (.inl ' ')
  | '"' => some (.inl '"')
  | '/' => some (.inl '/')
  | '\\' => some (.inl '\\')
  | 'N' => some (.inl '\u0085')
  | '_' => some (.inl '\u00a0')
  | 'L' => some (.inl '\u2028')
  | 'P' => some (.inl '\u2029')
  | 'x' => some (.inr 2)
  | 'u' => some (.inr 4)
  | 'U' => some (.inr 8)
  | _ => none

/-- A line break within quotes with the blanks around it: what it stands for.  `breaks` were passed
before it, and `joined` says that the first of them does not count. -/
def quotedBreak (joined : Bool) : Reader (List Char) := fun c => do
  let (breaks, c) ← skipBreaks none (c.rest.length + 1) 0 c
  if c.atMarker then none
  else if joined then some (List.replicate (breaks - 1) '\n', c)
  else some (folded breaks, c)

/-- The rest of a text in double quotes. -/
def doubleQuoted : (fuel : Nat) → Reader (List Char)
  | 0, _ => none
  | fuel + 1, c =>
    match c.rest with
    | [] => none
    | '"' :: _ => some ([], c.skip)
    | '\\' :: '\n' :: _ => do
      let (text, c) ← quotedBreak true c.skip
      let (more, c) ← doubleQuoted fuel c
      some (text ++ more, c)
    | '\\' :: e :: cs =>
      match escape? e with
      | none => none
      | some (.inl ch) => (doubleQuoted fuel (c.skips 2)).map fun (more, c) => (ch :: more, c)
      | some (.inr digits) => do
        let ch ← (hexValue digits 0 cs).bind charOfCode
        let (more, c) ← doubleQuoted fuel (c.skips (2 + digits))
        some (ch :: more, c)
    | ch :: _ =>
      if (isBlank ch || ch = '\n') && c.skipBlanks.sees '\n' then do
        let (text, c) ← quotedBreak false c
        let (more, c) ← doubleQuoted fuel c
        some (text ++ more, c)
      else (doubleQuoted fuel c.skip).map fun (more, c) => (ch :: more, c)

/-- The rest of a text in single quotes. -/
def singleQuoted : (fuel : Nat) → Reader (List Char)
  | 0, _ => none
  | fuel + 1, c =>
    match c.rest with
    | [] => none
    | '\'' :: '\'' :: _ => (singleQuoted fuel (c.skips 2)).map fun (more, c) => ('\'' :: more, c)
    | '\'' :: _ => some ([], c.skip)
    | ch :: _ =>
      if (isBlank ch || ch = '\n') && c.skipBlanks.sees '\n' then do
        let (text, c) ← quotedBreak false c
        let (more, c) ← singleQuoted fuel c
        some (text ++ more, c)
      else (singleQuoted fuel c.skip).map fun (more, c) => (ch :: more, c)

/-! ## Blocks -/

/-- What becomes of the line feeds at the end of a block. -/
inductive Chomp where
  | strip
  | clip
  | keep
deriving Repr, DecidableEq

/-- The head of a block: what becomes of its end, and its indentation if that is given. -/
def blockHead (c : Cursor) : Option ((Chomp × Option Nat) × Cursor) :=
  let sign (ch : Char) : Option Chomp :=
    if ch = '-' then some .strip else if ch = '+' then some .keep else none
  let digit (ch : Char) : Option Nat := if '1' ≤ ch ∧ ch ≤ '9' then some (ch.toNat - 48) else none
  let finish (head : Chomp × Option Nat) (c : Cursor) : Option ((Chomp × Option Nat) × Cursor) :=
    let behind := c.skipBlanks
    let stop := if behind.sees '#' then behind.skipLine else behind
    if stop.atEnd then some (head, stop)
    else if stop.sees '\n' then some (head, stop.skip)
    else none
  match c.rest with
  | a :: b :: _ =>
    match sign a, digit a with
    | some chomp, _ =>
      match digit b with
      | some n => finish (chomp, some n) (c.skips 2)
      | none => finish (chomp, none) c.skip
    | _, some n =>
      match sign b with
      | some chomp => finish (chomp, some n) (c.skips 2)
      | none => finish (.clip, some n) c.skip
    | none, none => finish (.clip, none) c
  | [a] =>
    match sign a, digit a with
    | some chomp, _ => finish (chomp, none) c.skip
    | _, some n => finish (.clip, some n) c.skip
    | none, none => finish (.clip, none) c
  | [] => finish (.clip, none) c

/-- Empty lines of a block: their number, and the greatest column reached.  With an indentation no
more than that is skipped. -/
def blockBreaks (indent : Option Nat) : (fuel breaks most : Nat) → Reader (Nat × Nat)
  | 0, _, _, _ => none
  | fuel + 1, breaks, most, c =>
    let open' := match indent with
      | some n => c.column < n
      | none => true
    if open' && c.sees ' ' then blockBreaks indent fuel breaks (max most (c.column + 1)) c.skip
    else if open' && c.sees '\t' then none
    else if c.sees '\n' then blockBreaks indent fuel (breaks + 1) most c.skip
    else some ((breaks, most), c)

/-- The lines of a block.  `pending` is the line feed behind the line before, `breaks` the empty
lines after it, and `wasBlank` says that the line before starts with a blank. -/
def blockLines (literal : Bool) (indent : Nat) (chomp : Chomp) :
    (fuel : Nat) → (pending : Bool) → (breaks : Nat) → (wasBlank : Bool) → Reader (List Char)
  | 0, _, _, _, _ => none
  | fuel + 1, pending, breaks, wasBlank, c =>
    let feeds := List.replicate breaks '\n'
    if c.column = indent && !c.atEnd then
      let startsBlank := (c.head?.map isBlank).getD false
      let join : List Char :=
        if !pending then []
        else if !literal && !wasBlank && !startsBlank then (if breaks = 0 then [' '] else [])
        else ['\n']
      let text := c.rest.takeWhile (· ≠ '\n')
      let line := c.skipLine
      let feed := line.sees '\n'
      let c := line.skip
      match blockBreaks (some indent) (c.rest.length + 1) 0 0 c with
      | none => none
      | some ((next, _), c) =>
        (blockLines literal indent chomp fuel feed next startsBlank c).map fun (more, c) =>
          (join ++ feeds ++ text ++ more, c)
    else
      let tail : List Char :=
        match chomp with
        | .strip => []
        | .clip => if pending then ['\n'] else []
        | .keep => (if pending then ['\n'] else []) ++ feeds
      some (tail, c)

/-- The text of a block, from behind its mark. -/
def blockText (literal : Bool) (parent : Int) : Reader (List Char) := fun c => do
  let ((chomp, given), c) ← blockHead c
  let fuel := c.rest.length + 2
  let base := (max parent 0).toNat
  let given := given.map (base + ·)
  let ((breaks, most), c) ← blockBreaks given fuel 0 0 c
  let indent := given.getD (max (max most (parent + 1).toNat) 1)
  blockLines literal indent chomp fuel false breaks false c

end Flotilla.Yaml
