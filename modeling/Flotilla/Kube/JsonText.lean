import Flotilla.Kube.Value

/-!
# Values as JSON

Reads a value from a JSON text.  The whole text must be one value, with nothing
but white space around it.  Strings hold no control characters, and an escaped
surrogate must be one of a pair.
-/

namespace Flotilla.Kube.JsonText

/-- White space between values. -/
def isSpace (c : Char) : Bool := c = ' ' || c = '\t' || c = '\n' || c = '\r'

/-- The text without the white space it begins with. -/
def skipSpace (cs : List Char) : List Char := cs.dropWhile isSpace

/-- The value of four hexadecimal digits, and what follows them. -/
def hex4 : List Char → Option (Nat × List Char)
  | a :: b :: c :: d :: rest => do
    let digit (ch : Char) : Option Nat :=
      let n := ch.toNat
      if 48 ≤ n ∧ n ≤ 57 then some (n - 48)
      else if 97 ≤ n ∧ n ≤ 102 then some (n - 87)
      else if 65 ≤ n ∧ n ≤ 70 then some (n - 55)
      else none
    let w ← digit a
    let x ← digit b
    let y ← digit c
    let z ← digit d
    some (((w * 16 + x) * 16 + y) * 16 + z, rest)
  | _ => none

/-- The character that stands for a letter behind a backslash. -/
def escape? : Char → Option Char
  | '"' => some '"'
  | '\\' => some '\\'
  | '/' => some '/'
  | 'b' => some '\x08'
  | 'f' => some '\x0c'
  | 'n' => some '\n'
  | 'r' => some '\r'
  | 't' => some '\t'
  | _ => none

/-- An escaped code point, from behind the letter `u`. -/
def escapedCode (cs : List Char) : Option (Char × List Char) := do
  let (n, rest) ← hex4 cs
  if 0xD800 ≤ n ∧ n ≤ 0xDBFF then
    match rest with
    | '\\' :: 'u' :: rest => do
      let (m, rest) ← hex4 rest
      if 0xDC00 ≤ m ∧ m ≤ 0xDFFF then
        some (Char.ofNat (0x10000 + (n - 0xD800) * 0x400 + (m - 0xDC00)), rest)
      else none
    | _ => none
  else if 0xDC00 ≤ n ∧ n ≤ 0xDFFF then none
  else some (Char.ofNat n, rest)

/-- The rest of a string, from behind its opening quote. -/
def string : (fuel : Nat) → List Char → Option (List Char × List Char)
  | 0, _ => none
  | fuel + 1, cs =>
    match cs with
    | [] => none
    | '"' :: rest => some ([], rest)
    | '\\' :: 'u' :: rest => do
      let (c, rest) ← escapedCode rest
      let (more, rest) ← string fuel rest
      some (c :: more, rest)
    | '\\' :: e :: rest => do
      let c ← escape? e
      let (more, rest) ← string fuel rest
      some (c :: more, rest)
    | c :: rest =>
      if c.toNat < 0x20 then none
      else do
        let (more, rest) ← string fuel rest
        some (c :: more, rest)

/-- The digits a text begins with, and the rest. -/
def digits (cs : List Char) : List Char × List Char :=
  (cs.takeWhile Char.isDigit, cs.dropWhile Char.isDigit)

/-- The whole number that digits stand for. -/
def natOf (ds : List Char) : Nat := ds.foldl (fun n c => n * 10 + (c.toNat - 48)) 0

/-- A number. -/
def number (cs : List Char) : Option (Value × List Char) := do
  let (negative, body) := match cs with
    | '-' :: rest => (true, rest)
    | _ => (false, cs)
  let (whole, rest) := digits body
  if whole.isEmpty || (whole.head? == some '0' && 1 < whole.length) then none
  else
    let (fraction, rest) ← match rest with
      | '.' :: more =>
        let (ds, after) := digits more
        if ds.isEmpty then none else some (true, after)
      | _ => some (false, rest)
    let (power, rest) ← match rest with
      | e :: more =>
        if e = 'e' || e = 'E' then
          let more := match more with
            | s :: after => if s = '+' || s = '-' then after else more
            | [] => more
          let (ds, after) := digits more
          if ds.isEmpty then none else some (true, after)
        else some (false, rest)
      | [] => some (false, rest)
    let written := String.ofList (cs.take (cs.length - rest.length))
    if fraction || power then some (.fraction written, rest)
    else some (.whole (if negative then -(natOf whole : Int) else natOf whole), rest)

mutual

/-- A value. -/
def value : (fuel : Nat) → List Char → Option (Value × List Char)
  | 0, _ => none
  | fuel + 1, cs =>
    match skipSpace cs with
    | 'n' :: 'u' :: 'l' :: 'l' :: rest => some (.null, rest)
    | 't' :: 'r' :: 'u' :: 'e' :: rest => some (.bool true, rest)
    | 'f' :: 'a' :: 'l' :: 's' :: 'e' :: rest => some (.bool false, rest)
    | '"' :: rest =>
      (string (rest.length + 1) rest).map fun (text, rest) => (.text (String.ofList text), rest)
    | '[' :: rest =>
      match skipSpace rest with
      | ']' :: rest => some (.list [], rest)
      | rest => (listItems fuel rest).map fun (xs, rest) => (.list xs, rest)
    | '\x7b' :: rest =>
      match skipSpace rest with
      | '\x7d' :: rest => some (.object [], rest)
      | rest => (objectFields fuel rest).map fun (fs, rest) => (.object fs, rest)
    | cs => number cs

/-- The items of a list, at least one, up to the closing bracket. -/
def listItems : (fuel : Nat) → List Char → Option (List Value × List Char)
  | 0, _ => none
  | fuel + 1, cs => do
    let (x, rest) ← value fuel cs
    match skipSpace rest with
    | ',' :: rest => do
      let (xs, rest) ← listItems fuel rest
      some (x :: xs, rest)
    | ']' :: rest => some ([x], rest)
    | _ => none

/-- The fields of an object, at least one, up to the closing brace. -/
def objectFields : (fuel : Nat) → List Char → Option (List (String × Value) × List Char)
  | 0, _ => none
  | fuel + 1, cs => do
    match skipSpace cs with
    | '"' :: rest => do
      let (key, rest) ← string (rest.length + 1) rest
      match skipSpace rest with
      | ':' :: rest => do
        let (v, rest) ← value fuel rest
        let entry := (String.ofList key, v)
        match skipSpace rest with
        | ',' :: rest => do
          let (fs, rest) ← objectFields fuel rest
          some (entry :: fs, rest)
        | '\x7d' :: rest => some ([entry], rest)
        | _ => none
      | _ => none
    | _ => none

end

/-- The value of a text. -/
def parse? (text : String) : Option Value := do
  let cs := text.toList
  let (v, rest) ← value (2 * cs.length + 2) cs
  if (skipSpace rest).isEmpty then some v else none

end Flotilla.Kube.JsonText
