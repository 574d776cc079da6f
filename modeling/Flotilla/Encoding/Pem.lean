import Flotilla.Encoding.Base64
import Flotilla.Text.Blank
import Flotilla.Text.Split

/-!
# PEM

Blocks of bytes in a text.  A block stands between `-----BEGIN tag-----` and
`-----END tag-----` with the same tag, and holds lines of base64, before which
lines of headers and an empty line may stand.  What stands outside blocks does
not count, and a block that is never ended is none.
-/

namespace Flotilla.Encoding.Pem

/-- A block. -/
structure Block where
  /-- The tag. -/
  tag : String
  /-- The bytes. -/
  contents : List UInt8
deriving Repr, DecidableEq

/-- The parts of a text before and behind the first occurrence of a word. -/
def cutAtWord (word : List Char) : List Char → Option (List Char × List Char)
  | [] => if word.isEmpty then some ([], []) else none
  | c :: cs =>
    if word.isPrefixOf (c :: cs) then some ([], (c :: cs).drop word.length)
    else (cutAtWord word cs).map fun (a, b) => (c :: a, b)

/-- Space, tab and the two characters of a line break. -/
def isSpace (c : Char) : Bool := c = ' ' || c = '\t' || c = '\n' || c = '\r'

/-- A block as it stands in the text. -/
structure Capture where
  /-- The tag at the beginning. -/
  opening : List Char
  /-- What stands between. -/
  body : List Char
  /-- The tag at the end. -/
  closing : List Char

/-- The first block of a text, and what stands behind it. -/
def capture (text : List Char) : Option (Capture × List Char) := do
  let (_, text) ← cutAtWord "-----BEGIN ".toList text
  let (opening, text) ← cutAtWord "-----".toList text
  let (body, text) ← cutAtWord "-----END ".toList (text.dropWhile isSpace)
  let (closing, text) ← cutAtWord "-----".toList text
  some (⟨opening, body, closing⟩, text.dropWhile isSpace)

/-- The headers and the data of a body. -/
def splitBody (body : List Char) : List Char × List Char :=
  match cutAtWord "\n\n".toList body with
  | some (headers, data) => (headers, data)
  | none =>
    match cutAtWord "\r\n\r\n".toList body with
    | some (headers, data) => (headers, data)
    | none => ([], body)

/-- The block a capture stands for. -/
def Capture.block (c : Capture) : Option Block :=
  let (headers, data) := splitBody c.body
  let headerLines := (Text.splitOn '\n' headers).filter fun l => !l.isEmpty
  if c.opening.isEmpty || c.closing.isEmpty || c.opening ≠ c.closing then none
  else if !(headerLines.all fun l => l.contains ':') then none
  else
    (Base64.decode ((Text.splitOn '\n' data).flatMap Text.trimEnd)).map fun contents =>
      ⟨String.ofList c.opening, contents⟩

/-- The blocks of a text, at most `fuel` of them.  None if one is malformed. -/
def blocksFrom : (fuel : Nat) → List Char → Option (List Block)
  | 0, _ => some []
  | fuel + 1, text =>
    match capture text with
    | none => some []
    | some (c, rest) => do
      let block ← c.block
      let blocks ← blocksFrom fuel rest
      some (block :: blocks)

/-- The blocks of a text.  None if one is malformed. -/
def blocks (text : List Char) : Option (List Block) := blocksFrom text.length text

/-- The contents of the certificates in a text. -/
def certificates (text : List Char) : Option (List (List UInt8)) :=
  (blocks text).map fun bs => (bs.filter fun b => b.tag == "CERTIFICATE").map (·.contents)

end Flotilla.Encoding.Pem
