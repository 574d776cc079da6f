/-!
# Socket addresses

The address a server listens on: an IPv4 address and a port as in
`127.0.0.1:80`, or an IPv6 address in brackets and a port as in `[::1]:80`.

A reader takes the longest beginning of a text that it can read and gives the
rest.  An octet of an IPv4 address has at most three digits and no leading
zero, a group of an IPv6 address at most four hexadecimal digits, and a port
any number of digits with a value below `2^16`.  One run of zero groups may be
written `::`, the last two groups may be written as an IPv4 address, and a
scope may follow after a percent sign.

`text` writes an address in one way: the first longest run of at least two zero
groups as `::`, and a mapped IPv4 address as such.
-/

namespace Flotilla.Net

/-- An address of a host and a port on it. -/
inductive SocketAddress where
  /-- Four octets and a port. -/
  | v4 (octets : List Nat) (port : Nat)
  /-- Eight groups, a scope and a port. -/
  | v6 (groups : List Nat) (scope : Nat) (port : Nat)
deriving Repr, DecidableEq

namespace SocketAddress

/-- What a reader has read and the rest of the text. -/
abbrev Reader (α : Type) := List Char → Option (α × List Char)

/-! ## Reading numbers -/

/-- The value of a digit in a base up to sixteen. -/
def digit (base : Nat) (c : Char) : Option Nat :=
  let n := c.toNat
  let value :=
    if 48 ≤ n ∧ n ≤ 57 then n - 48
    else if 97 ≤ n ∧ n ≤ 102 then n - 87
    else if 65 ≤ n ∧ n ≤ 70 then n - 55
    else 99
  if value < base then some value else none

/-- The digits a text starts with, as values, and the rest. -/
def digits (base : Nat) : List Char → List Nat × List Char
  | [] => ([], [])
  | c :: cs =>
    match digit base c with
    | none => ([], c :: cs)
    | some d => let (ds, rest) := digits base cs; (d :: ds, rest)

/-- A number of at most `most` digits and a value not above `bound`. -/
def number (base : Nat) (most : Option Nat) (leadingZeros : Bool) (bound : Nat) : Reader Nat :=
  fun cs =>
    let (ds, rest) := digits base cs
    let value := ds.foldl (fun v d => v * base + d) 0
    if ds.isEmpty then none
    else if most.any (· < ds.length) then none
    else if !leadingZeros && ds.head? == some 0 && ds.length > 1 then none
    else if value ≤ bound then some (value, rest)
    else none

/-- A given character. -/
def mark (c : Char) : Reader Unit
  | [] => none
  | d :: rest => if d = c then some ((), rest) else none

/-! ## Reading addresses -/

/-- The four octets of an IPv4 address. -/
def octets : Reader (List Nat) := fun cs => do
  let (a, cs) ← number 10 (some 3) false 255 cs
  let ((), cs) ← mark '.' cs
  let (b, cs) ← number 10 (some 3) false 255 cs
  let ((), cs) ← mark '.' cs
  let (c, cs) ← number 10 (some 3) false 255 cs
  let ((), cs) ← mark '.' cs
  let (d, cs) ← number 10 (some 3) false 255 cs
  return ([a, b, c, d], cs)

/-- A reader with a colon before it, except at the start. -/
def afterColon {α : Type} (first : Bool) (read : Reader α) : Reader α := fun cs =>
  if first then read cs
  else do
    let ((), cs) ← mark ':' cs
    read cs

/-- At most `room` groups.  The flag says that the last two were an IPv4 address. -/
def groups (first : Bool) : (room : Nat) → List Char → List Nat × Bool × List Char
  | 0, cs => ([], false, cs)
  | room + 1, cs =>
    match (if room = 0 then none else afterColon first octets cs) with
    | some ([a, b, c, d], rest) => ([a * 256 + b, c * 256 + d], true, rest)
    | _ =>
      match afterColon first (number 16 (some 4) true 65535) cs with
      | none => ([], false, cs)
      | some (g, rest) =>
        let (gs, ipv4, rest) := groups false room rest
        (g :: gs, ipv4, rest)

/-- The eight groups of an IPv6 address. -/
def eightGroups : Reader (List Nat) := fun cs =>
  let (front, ipv4, rest) := groups true 8 cs
  if front.length = 8 then some (front, rest)
  else if ipv4 then none
  else do
    let ((), rest) ← mark ':' rest
    let ((), rest) ← mark ':' rest
    let (back, _, rest) := groups true (7 - front.length) rest
    return (front ++ List.replicate (8 - front.length - back.length) 0 ++ back, rest)

/-- A colon and a port. -/
def portPart : Reader Nat := fun cs => do
  let ((), cs) ← mark ':' cs
  number 10 none true 65535 cs

/-- A percent sign and a scope, or nothing. -/
def scopePart : Reader Nat := fun cs =>
  match mark '%' cs with
  | none => some (0, cs)
  | some ((), rest) => number 10 none true 4294967295 rest

/-- An IPv4 address and a port. -/
def ipv4 : Reader SocketAddress := fun cs => do
  let (os, cs) ← octets cs
  let (port, cs) ← portPart cs
  return (.v4 os port, cs)

/-- An IPv6 address in brackets and a port. -/
def ipv6 : Reader SocketAddress := fun cs => do
  let ((), cs) ← mark '[' cs
  let (gs, cs) ← eightGroups cs
  let (scope, cs) ← scopePart cs
  let ((), cs) ← mark ']' cs
  let (port, cs) ← portPart cs
  return (.v6 gs scope port, cs)

/-- What a reader reads, if it reads the whole text. -/
def whole {α : Type} (read : Reader α) (cs : List Char) : Option α :=
  match read cs with
  | some (a, []) => some a
  | _ => none

/-- The address a text writes. -/
def parse? (cs : List Char) : Option SocketAddress := whole ipv4 cs <|> whole ipv6 cs

/-! ## Writing -/

/-- How many zeros a list starts with. -/
def zeroRun (gs : List Nat) : Nat := (gs.takeWhile (· == 0)).length

/-- The start and length of the first longest run of zeros in a list that starts
at position `start`. -/
def longestZeroRun (start : Nat) : List Nat → Nat × Nat
  | [] => (start, 0)
  | g :: gs =>
    let here := zeroRun (g :: gs)
    let later := longestZeroRun (start + 1) gs
    if later.2 > here then later else (start, here)

/-- Groups in hexadecimal with colons between them. -/
def groupsText (gs : List Nat) : String :=
  ":".intercalate (gs.map fun g => String.ofList (Nat.toDigits 16 g))

/-- An IPv6 address without brackets. -/
def ipv6Text (gs : List Nat) : String :=
  match gs with
  | [0, 0, 0, 0, 0, 0xFFFF, a, b] =>
    s!"::ffff:{a / 256}.{a % 256}.{b / 256}.{b % 256}"
  | _ =>
    let (start, length) := longestZeroRun 0 gs
    if length > 1 then
      groupsText (gs.take start) ++ "::" ++ groupsText (gs.drop (start + length))
    else groupsText gs

/-- The address as it is written. -/
def text : SocketAddress → String
  | .v4 os port => ".".intercalate (os.map toString) ++ s!":{port}"
  | .v6 gs scope port =>
    "[" ++ ipv6Text gs ++ (if scope = 0 then "" else s!"%{scope}") ++ s!"]:{port}"

end SocketAddress

example : (SocketAddress.parse? "[::1]:080".toList).map SocketAddress.text = some "[::1]:80" := by
  cbv
example : SocketAddress.parse? "1.2.3.04:80".toList = none := by decide +kernel

end Flotilla.Net
