import Flotilla.Text.Utf8

/-!
# Escapes in texts to be printed

Behind a backslash a letter stands for a control character, and at most three octal
digits for a byte.  The letter `c` calls for the end of what is printed.  A backslash
before anything else stands for itself.
-/

namespace Flotilla.Shell

/-- The value of an octal digit. -/
def octal? (c : Char) : Option Nat :=
  if '0' ≤ c ∧ c ≤ '7' then some (c.toNat - 48) else none

/-- The value of at most so many octal digits, and what follows them. -/
def octals : (room : Nat) → (value : Nat) → List Char → Nat × List Char
  | 0, value, cs => (value, cs)
  | room + 1, value, cs =>
    match cs with
    | [] => (value, [])
    | c :: rest =>
      match octal? c with
      | none => (value, cs)
      | some d => octals room (value * 8 + d) rest

/-- The byte that stands for a letter behind a backslash. -/
def escapedByte? : Char → Option UInt8
  | 'a' => some 7
  | 'b' => some 8
  | 'f' => some 12
  | 'n' => some 10
  | 'r' => some 13
  | 't' => some 9
  | 'v' => some 11
  | '\\' => some 92
  | _ => none

/-- The escape behind a backslash: its byte, and what follows it. -/
def escape? (cs : List Char) : Option (UInt8 × List Char) :=
  match cs with
  | [] => none
  | c :: rest =>
    match octal? c with
    | some _ =>
      let (n, rest) := octals 3 0 cs
      some (UInt8.ofNat n, rest)
    | none => (escapedByte? c).map fun b => (b, rest)

/-- The bytes of a character. -/
def charBytes (c : Char) : List UInt8 := Text.encode (String.singleton c)

/-- The bytes of a text with escapes, and whether an end was called for.  With `zero` an octal
number may have a zero in front of three digits. -/
def unescape (zero : Bool) : (fuel : Nat) → List Char → List UInt8 × Bool
  | 0, _ => ([], false)
  | fuel + 1, cs =>
    match cs with
    | [] => ([], false)
    | '\\' :: 'c' :: _ => ([], true)
    | '\\' :: rest =>
      let number := if zero && rest.head? == some '0' then rest.drop 1 else rest
      let (bytes, rest) := match escape? rest with
        | none => ([92], rest)
        | some (b, after) =>
          if zero && rest.head? == some '0' then
            let (n, after) := octals 3 0 number
            ([UInt8.ofNat n], after)
          else ([b], after)
      let (more, ended) := unescape zero fuel rest
      (bytes ++ more, ended)
    | c :: rest =>
      let (more, ended) := unescape zero fuel rest
      (charBytes c ++ more, ended)

example : escape? "377b".toList = some (0xFF, ['b']) := by decide
example : escape? "nx".toList = some (10, ['x']) := by decide
example : escape? "qx".toList = none := by decide

end Flotilla.Shell
