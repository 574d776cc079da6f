/-!
# Base64

Bytes as text of 64 letters, four letters for three bytes, with `=` for letters
that are left over.  There is one text for every list of bytes: a text with a
stray character, with missing or superfluous `=`, or with bits set that stand
for no byte is refused.
-/

namespace Flotilla.Encoding.Base64

/-- The value of a letter. -/
def letterValue (c : Char) : Option Nat :=
  let n := c.toNat
  if 65 ≤ n ∧ n ≤ 90 then some (n - 65)
  else if 97 ≤ n ∧ n ≤ 122 then some (n - 71)
  else if 48 ≤ n ∧ n ≤ 57 then some (n + 4)
  else if c = '+' then some 62
  else if c = '/' then some 63
  else none

/-- The bytes of a text. -/
def decode : List Char → Option (List UInt8)
  | [] => some []
  | [a, b, '=', '='] => do
    let x ← letterValue a
    let y ← letterValue b
    if y % 16 = 0 then some [UInt8.ofNat (x * 4 + y / 16)] else none
  | [a, b, c, '='] => do
    let x ← letterValue a
    let y ← letterValue b
    let z ← letterValue c
    if z % 4 = 0 then
      some [UInt8.ofNat (x * 4 + y / 16), UInt8.ofNat (y % 16 * 16 + z / 4)]
    else none
  | a :: b :: c :: d :: rest => do
    let x ← letterValue a
    let y ← letterValue b
    let z ← letterValue c
    let w ← letterValue d
    let bytes ← decode rest
    some (UInt8.ofNat (x * 4 + y / 16) :: UInt8.ofNat (y % 16 * 16 + z / 4) ::
      UInt8.ofNat (z % 4 * 64 + w) :: bytes)
  | _ => none

example : decode "aGVsbG8=".toList = some [104, 101, 108, 108, 111] := by decide
example : decode "aGVsbG9=".toList = none := by decide
example : decode "YQ".toList = none := by decide
example : decode "YQ==YQ==".toList = none := by decide

end Flotilla.Encoding.Base64
