/-!
# Bytes as UTF-8

A tool answers in bytes.  `chunks` reads them as UTF-8, one byte at a time, and
gives the characters in order with a mark wherever the bytes are none.  Two
readings are made of the marks.

* `decode`: the text, or the first place where the bytes are malformed.
* `decodeLossy`: the text with U+FFFD for every mark.

A mark covers the longest part that could have begun a character.  The machine
holds such a part as `Partial`: what it has read, how many bytes are owed, and
which bytes may come next.  A byte that may not come next ends the part and is
read again as the start of another.
-/

namespace Flotilla.Text

/-- What a piece of the input is. -/
inductive Chunk where
  /-- A character. -/
  | char (c : Char)
  /-- A number of bytes that no character begins with. -/
  | malformed (bytes : Nat)
  /-- A number of bytes at the end of the input that begin a character. -/
  | truncated (bytes : Nat)
deriving Repr, DecidableEq

/-- The part of a character read so far. -/
structure Partial where
  /-- The bits read so far. -/
  bits : Nat
  /-- How many bytes were read. -/
  read : Nat
  /-- How many bytes are owed. -/
  owed : Nat
  /-- The least byte that may come next. -/
  low : Nat := 0x80
  /-- The greatest byte that may come next. -/
  high : Nat := 0xBF
deriving Repr, DecidableEq

/-- The character with these bits, which the machine keeps inside Unicode. -/
def charOfBits (bits : Nat) : Char := Char.ofNat bits

/-- The first byte of a character: what is owed after it, and what is finished. -/
def startByte (b : Nat) : Option Partial × List Chunk :=
  if b < 0x80 then (none, [.char (charOfBits b)])
  else if 0xC2 ≤ b ∧ b ≤ 0xDF then (some ⟨b - 0xC0, 1, 1, 0x80, 0xBF⟩, [])
  else if b = 0xE0 then (some ⟨0, 1, 2, 0xA0, 0xBF⟩, [])
  else if b = 0xED then (some ⟨0xD, 1, 2, 0x80, 0x9F⟩, [])
  else if 0xE1 ≤ b ∧ b ≤ 0xEF then (some ⟨b - 0xE0, 1, 2, 0x80, 0xBF⟩, [])
  else if b = 0xF0 then (some ⟨0, 1, 3, 0x90, 0xBF⟩, [])
  else if 0xF1 ≤ b ∧ b ≤ 0xF3 then (some ⟨b - 0xF0, 1, 3, 0x80, 0xBF⟩, [])
  else if b = 0xF4 then (some ⟨4, 1, 3, 0x80, 0x8F⟩, [])
  else (none, [.malformed 1])

/-- One byte. -/
def stepByte : Option Partial → Nat → Option Partial × List Chunk
  | none, b => startByte b
  | some p, b =>
    if p.low ≤ b ∧ b ≤ p.high then
      let bits := p.bits * 64 + (b - 0x80)
      if p.owed ≤ 1 then (none, [.char (charOfBits bits)])
      else (some ⟨bits, p.read + 1, p.owed - 1, 0x80, 0xBF⟩, [])
    else
      let (next, out) := startByte b
      (next, .malformed p.read :: out)

/-- The pieces of an input, with the part read before it. -/
def chunksFrom : Option Partial → List UInt8 → List Chunk
  | none, [] => []
  | some p, [] => [.truncated p.read]
  | state, b :: bs =>
    let (next, out) := stepByte state b.toNat
    out ++ chunksFrom next bs

/-- The pieces of an input. -/
def chunks (bytes : List UInt8) : List Chunk := chunksFrom none bytes

/-- Where and how an input is not UTF-8. -/
structure Malformed where
  /-- How many bytes before the place are whole characters. -/
  validUpTo : Nat
  /-- How many bytes no character begins with; none if the input ended too soon. -/
  length : Option Nat
deriving Repr, DecidableEq

/-- The description of the place. -/
def Malformed.message (m : Malformed) : String :=
  match m.length with
  | some n => s!"invalid utf-8 sequence of {n} bytes from index {m.validUpTo}"
  | none => s!"incomplete utf-8 byte sequence from index {m.validUpTo}"

/-- The characters of the pieces up to the first mark, `seen` bytes into the input. -/
def charsOf (seen : Nat) : List Chunk → Except Malformed (List Char)
  | [] => .ok []
  | .char c :: rest => (charsOf (seen + c.utf8Size) rest).map (c :: ·)
  | .malformed n :: _ => .error ⟨seen, some n⟩
  | .truncated _ :: _ => .error ⟨seen, none⟩

/-- The text of an input, or the first place where it is not UTF-8. -/
def decode (bytes : List UInt8) : Except Malformed String :=
  (charsOf 0 (chunks bytes)).map String.ofList

/-- The character that stands for a piece: itself, or the replacement character. -/
def Chunk.lossy : Chunk → Char
  | .char c => c
  | _ => '\ufffd'

/-- The text of an input with the replacement character for what is not UTF-8. -/
def decodeLossy (bytes : List UInt8) : String :=
  String.ofList ((chunks bytes).map Chunk.lossy)

/-- The bytes of a text. -/
def encode (s : String) : List UInt8 := s.toUTF8.toList

example : chunks [0x61, 0xFF, 0x62] = [.char 'a', .malformed 1, .char 'b'] := by decide
example : chunks [0xE2, 0x82] = [.truncated 2] := by decide
example : chunks [0xF0, 0x9F, 0x9A, 0x78] = [.malformed 3, .char 'x'] := by decide
example : chunks [0xE2, 0x82, 0xAC] = [.char '€'] := by decide
example : chunks [0xC0, 0xAF] = [.malformed 1, .malformed 1] := by decide

end Flotilla.Text
