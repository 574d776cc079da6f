/-!
# Whole numbers in floating point

A sample of a metric is a binary floating point number with 53 significant
bits.  `text` writes a whole number as such a sample is written: the number is
rounded to 53 bits, a half going to the even neighbour, and the fewest digits
that name the rounded number are chosen.  Where two such numbers are left the
nearer one is taken.  Zeros fill the places behind the digits, so no exponent
is ever written.

A whole number below `2^53` is a floating point number, and no shorter decimal
names it but itself.
-/

namespace Flotilla.Text.Shortest

/-- The significant bits of a floating point number. -/
def precision : Nat := 53

/-- A number `mantissa * 2 ^ exponent`. -/
structure Binary where
  /-- The significant bits. -/
  mantissa : Nat
  /-- The power of two they are scaled by. -/
  exponent : Nat
deriving Repr, DecidableEq

/-- The nearest number of 53 significant bits, the even one of two. -/
def Binary.ofNat (n : Nat) : Binary :=
  let exponent := n.log2 + 1 - precision
  let unit := Nat.pow 2 exponent
  let low := n / unit
  let rest := n % unit
  let mantissa :=
    if rest * 2 > unit ∨ (rest * 2 = unit ∧ low % 2 = 1) then low + 1 else low
  if mantissa = Nat.pow 2 precision then ⟨Nat.pow 2 (precision - 1), exponent + 1⟩
  else ⟨mantissa, exponent⟩

/-- The number. -/
def Binary.value (b : Binary) : Nat := b.mantissa * Nat.pow 2 b.exponent

/-- The floating point number nearest to a whole number. -/
def nearest (n : Nat) : Nat := (Binary.ofNat n).value

/-- The distances to the ends of the interval that rounds to the number, in quarters.  Below a
power of two the neighbour is half as far away. -/
def Binary.reach (b : Binary) : Nat × Nat :=
  let step := Nat.pow 2 b.exponent
  (if b.mantissa = Nat.pow 2 (precision - 1) ∧ 0 < b.exponent then step else 2 * step, 2 * step)

/-- Whether a whole number rounds to the number.  The ends do if the mantissa is even. -/
def Binary.names (b : Binary) (candidate : Nat) : Bool :=
  let (below, above) := b.reach
  let v := b.value
  if candidate ≤ v then
    let d := 4 * (v - candidate)
    d < below || (d == below && b.mantissa % 2 == 0)
  else
    let d := 4 * (candidate - v)
    d < above || (d == above && b.mantissa % 2 == 0)

/-- The nearest multiple of `10 ^ places` that names the number, if there is one. -/
def Binary.onGrid (b : Binary) (places : Nat) : Option Nat :=
  let unit := Nat.pow 10 places
  let low := b.value / unit * unit
  let high := low + unit
  match b.names low, b.names high with
  | true, true => if 2 * (b.value - low) ≤ unit then some low else some high
  | true, false => some low
  | false, true => some high
  | false, false => none

/-- The first hit on the grids from `places` zeros downwards. -/
def Binary.search (b : Binary) : (places : Nat) → Nat
  | 0 => b.value
  | places + 1 => (b.onGrid (places + 1)).getD (b.search places)

/-- The whole number that is written for one. -/
def rounded (n : Nat) : Nat :=
  if n < Nat.pow 2 precision then n
  else
    let b := Binary.ofNat n
    b.search (Nat.toDigits 10 b.value).length

/-- A whole number as a sample. -/
def text (n : Nat) : String := toString (rounded n)

example : rounded 9223372036854775807 = 9223372036854776000 := by decide +kernel
example : rounded 123456789012345678 = 123456789012345680 := by decide +kernel
example : rounded 9007199254740993 = 9007199254740992 := by decide +kernel

end Flotilla.Text.Shortest
