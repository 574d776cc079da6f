import Flotilla.Yaml.Node
import Flotilla.Yaml.Scalar

/-!
# Documents

`Document.parse` reads a text that holds one document and gives its root.  A
text without a document has an absent root.  Anything behind the document but
comments and an end mark is an error, and there is one error only.

The structure follows the columns.  A block, that is a list or a map, stands at
the column of its first mark or key, and its parts are what stands at a greater
column.  A list may stand at the column of the map it is a value in.  A key
stands on one line with its colon.

A node may be named with `&` and repeated by its name with `*`.  The names seen
so far go along with the cursor.
-/

namespace Flotilla.Yaml

/-- A place with the nodes named so far, the newest first. -/
structure Place where
  /-- The place. -/
  cursor : Cursor
  /-- The named nodes. -/
  names : List (String × Node) := []

/-- What a reader of nodes has read and the place behind it. -/
abbrev NodeReader (α : Type) := Place → Option (α × Place)

/-- The place with another cursor. -/
def Place.to (p : Place) (cursor : Cursor) : Place := { p with cursor }

/-! ## Properties -/

/-- What stands in front of a node: a tag and a name. -/
structure Properties where
  /-- The tag. -/
  tag : Option String := none
  /-- The name. -/
  name : Option String := none

namespace Properties

/-- Whether there are none. -/
def isEmpty (p : Properties) : Bool := p.tag.isNone && p.name.isNone

/-- The node with the tag, and the place with the name. -/
def apply (p : Properties) (node : Node) (place : Place) : Node × Place :=
  let node := node.tagged p.tag
  match p.name with
  | none => (node, place)
  | some name => (node, { place with names := (name, node) :: place.names })

end Properties

/-- A character of a name. -/
def isNameChar (c : Char) : Bool := c.isAlphanum || c = '_' || c = '-'

/-- A name, behind its mark. -/
def name : Reader String := fun c =>
  let letters := c.rest.takeWhile isNameChar
  let behind := c.skips letters.length
  let ended := blankNext behind.rest ||
    (match behind.rest with
      | ch :: _ => ch ∈ ['?', ':', ',', ']', '}', '%', '@', '\x60']
      | [] => true)
  if letters.isEmpty || !ended then none else some (String.ofList letters, behind)

/-- A character of a tag. -/
def isTagChar (c : Char) : Bool :=
  c.isAlphanum ||
    c ∈ ['_', '-', ';', '/', '?', ':', '@', '&', '=', '+', '$', '.', '%', '!', '~', '*', '\'', '(',
      ')', '#']

/-- A tag.  A short one may have no handle but `!` and `!!`. -/
def tag (inBrackets : Bool) : Reader String := fun c =>
  let ended (cs : List Char) : Bool :=
    blankNext cs || (inBrackets && (match cs with | ',' :: _ => true | _ => false))
  match c.rest with
  | '!' :: '<' :: cs =>
    let uri := cs.takeWhile (· ≠ '>')
    let behind := c.skips (uri.length + 3)
    if uri.isEmpty || !(uri.all isTagChar) || !((cs.drop uri.length).head? == some '>') ||
        !ended behind.rest
    then none
    else some ("!<" ++ String.ofList uri ++ ">", behind)
  | '!' :: cs =>
    let text := cs.takeWhile isTagChar
    let behind := c.skips (text.length + 1)
    let marks := text.count '!'
    let known := marks = 0 || (marks = 1 && text.head? == some '!' && 1 < text.length)
    if !known || !ended behind.rest then none else some (String.ofList ('!' :: text), behind)
  | _ => none

/-- The properties that stand here on one line, with the blanks behind them. -/
def properties (inBrackets : Bool) : (fuel : Nat) → Properties → Reader Properties
  | 0, _, _ => none
  | fuel + 1, p, c =>
    match c.rest with
    | '&' :: _ =>
      if p.name.isSome then none
      else do
        let (n, c) ← name c.skip
        properties inBrackets fuel { p with name := some n } c.skipBlanks
    | '!' :: _ =>
      if p.tag.isSome then none
      else do
        let (t, c) ← tag inBrackets c
        properties inBrackets fuel { p with tag := some t } c.skipBlanks
    | _ => some (p, c)

/-- A repeated node. -/
def repeated : NodeReader Node := fun p => do
  let (n, c) ← name p.cursor.skip
  let (_, node) ← p.names.find? fun (known, _) => known == n
  some (node, p.to c)

/-- A text in quotes, if one starts here. -/
def quoted? : Reader (Option Node) := fun c =>
  let fuel := c.rest.length + 1
  match c.rest with
  | '"' :: _ =>
    (doubleQuoted fuel c.skip).map fun (text, c) =>
      (some (.scalar none false (String.ofList text)), c)
  | '\'' :: _ =>
    (singleQuoted fuel c.skip).map fun (text, c) =>
      (some (.scalar none false (String.ofList text)), c)
  | _ => some (none, c)

/-! ## Within brackets -/

/-- Whether a colon that gives a value stands here. -/
def atColon (c : Cursor) : Bool := c.sees ':'

/-- The place of the colon behind a key, if the key began on the same line and is not too long. -/
def colonAfter (start : Cursor) (c : Cursor) : Option Cursor :=
  let behind := c.skipBlanks
  if behind.line = start.line && behind.column ≤ start.column + 1024 && atColon behind
  then some behind
  else none

mutual

/-- A node within brackets.  A missing node is absent. -/
def bracketNode : (fuel : Nat) → NodeReader Node
  | 0, _ => none
  | fuel + 1, p => do
    let (props, c) ← properties true 3 {} p.cursor
    let c := if props.isEmpty then c else c.toNext true false
    let p := p.to c
    if c.atMarker then none
    else
      match c.rest with
      | '[' :: _ => do
        let (items, p) ← bracketItems fuel (p.to c.skip)
        some (props.apply (.list items) p)
      | '{' :: _ => do
        let (entries, p) ← bracketEntries fuel (p.to c.skip)
        some (props.apply (.map entries) p)
      | '*' :: _ => if props.isEmpty then repeated p else none
      | _ => do
        let (text, c') ← quoted? c
        match text with
        | some node => some (props.apply node (p.to c'))
        | none =>
          if startsPlain true c.rest then do
            let (text, c) ← plainText none fuel c
            some (props.apply (.scalar none true (String.ofList text)) (p.to c))
          else if props.isEmpty then none
          else some (props.apply .absent p)

/-- A key and its value within brackets.  The flag tells whether there was a colon. -/
def bracketPair : (fuel : Nat) → NodeReader ((Node × Node) × Bool)
  | 0, _ => none
  | fuel + 1, p => do
    let start := p.cursor
    let explicit := start.sees '?' && blankNext start.skip.rest
    let p := if explicit then p.to (start.skip.toNext true false) else p
    let (key, p) ←
      if atColon p.cursor ||
          (explicit && (p.cursor.sees ',' || p.cursor.sees '}' || p.cursor.sees ']'))
      then some (Node.absent, p)
      else bracketNode fuel p
    let colon := if explicit then
        (let next := p.cursor.toNext true false; if atColon next then some next else none)
      else colonAfter start p.cursor
    match colon with
    | none => some (((key, .absent), explicit), p)
    | some c => do
      let p := p.to (c.skip.toNext true false)
      if p.cursor.sees ',' || p.cursor.sees '}' || p.cursor.sees ']' then
        some (((key, .absent), true), p)
      else
        let (value, p) ← bracketNode fuel p
        some (((key, value), true), p)

/-- The items of a list, from behind its bracket. -/
def bracketItems : (fuel : Nat) → NodeReader (List Node)
  | 0, _ => none
  | fuel + 1, p => do
    let c := p.cursor.toNext true false
    if c.sees ']' then some ([], p.to c.skip)
    else
      let (((key, value), paired), p) ← bracketPair fuel (p.to c)
      let item := if paired then .map [(key, value)] else key
      let c := p.cursor.toNext true false
      if c.sees ',' then
        let (items, p) ← bracketItems fuel (p.to c.skip)
        some (item :: items, p)
      else if c.sees ']' then some ([item], p.to c.skip)
      else none

/-- The entries of a map, from behind its bracket. -/
def bracketEntries : (fuel : Nat) → NodeReader (List (Node × Node))
  | 0, _ => none
  | fuel + 1, p => do
    let c := p.cursor.toNext true false
    if c.sees '}' then some ([], p.to c.skip)
    else
      let ((entry, _), p) ← bracketPair fuel (p.to c)
      let c := p.cursor.toNext true false
      if c.sees ',' then
        let (entries, p) ← bracketEntries fuel (p.to c.skip)
        some (entry :: entries, p)
      else if c.sees '}' then some ([entry], p.to c.skip)
      else none

end

/-! ## Blocks -/

/-- A key that stands here on one line, with the place behind its colon. -/
def blockKey? (fuel : Nat) (p : Place) : Option (Node × Place) :=
  let start := p.cursor
  match properties false 3 {} start with
  | none => none
  | some (props, c) =>
    let finish (node : Node) (p : Place) : Option (Node × Place) :=
      match colonAfter start p.cursor with
      | some c => if c.atMark ':' then some (node, p.to c.skip) else none
      | none => none
    let p := p.to c
    match c.rest with
    | '*' :: _ => if props.isEmpty then (repeated p).bind fun (node, p) => finish node p else none
    | '[' :: _ | '{' :: _ =>
      (bracketNode fuel p).bind fun (node, p) =>
        let (node, p) := props.apply node p
        finish node p
    | '"' :: _ | '\'' :: _ =>
      (quoted? c).bind fun (node, c) =>
        let (node, p) := props.apply (node.getD .absent) (p.to c)
        finish node p
    | _ =>
      if startsPlain false c.rest then
        (plainLine false c).bind fun (text, c) =>
          let (node, p) := props.apply (.scalar none true (String.ofList text)) (p.to c)
          finish node p
      else if c.atMark ':' then
        let (node, p) := props.apply .absent p
        finish node p
      else none

/-- A node of a block that is no block itself: a scalar, a repeated node, or one in brackets. -/
def blockLeaf (fuel : Nat) (parent : Int) (p : Place) : Option (Node × Place) :=
  let c := p.cursor
  match c.rest with
  | '*' :: _ => repeated p
  | '[' :: _ | '{' :: _ => bracketNode fuel p
  | '"' :: _ | '\'' :: _ => (quoted? c).map fun (node, c) => (node.getD .absent, p.to c)
  | '|' :: _ =>
    (blockText true parent c.skip).map fun (text, c) =>
      (.scalar none false (String.ofList text), p.to c)
  | '>' :: _ =>
    (blockText false parent c.skip).map fun (text, c) =>
      (.scalar none false (String.ofList text), p.to c)
  | _ =>
    if startsPlain false c.rest then
      (plainText (some parent) fuel c).map fun (text, c) =>
        (.scalar none true (String.ofList text), p.to c)
    else none

mutual

/-- A node of a block at `parent`.  `inline` says that a block may start on this line, `level` that
a list may start at the column of the parent. -/
def blockNode : (fuel : Nat) → (parent : Int) → (inline level : Bool) → NodeReader Node
  | 0, _, _, _, _ => none
  | fuel + 1, parent, inline, level, p => do
    let here := p.cursor.line
    let c := p.cursor.toNext false inline
    let inline := inline || here < c.line
    let p := p.to c
    let column : Int := c.column
    if c.atEnd || c.atMarker then some (.absent, p)
    else if level && column = parent && inline && c.atMark '-' then do
      let (items, p) ← blockItems fuel c.column true p
      some (.list items, p)
    else if column ≤ parent then some (.absent, p)
    else if inline && c.atMark '-' then do
      let (items, p) ← blockItems fuel c.column false p
      some (.list items, p)
    else if inline && (c.atMark '?' || (blockKey? fuel p).isSome) then do
      let (entries, p) ← blockEntries fuel c.column p
      some (.map entries, p)
    else
      let (props, behind) ← properties false 3 {} c
      if props.isEmpty then blockLeaf fuel parent p
      else if (behind.toNext false false).line = c.line &&
          !(behind.toNext false false).atEnd then do
        let (node, p) ← blockLeaf fuel parent (p.to behind)
        some (props.apply node p)
      else do
        let (node, p) ← blockNode fuel parent true level (p.to behind)
        some (props.apply node p)

/-- The items of a list at a column.  A list that is `level` with its map ends at a key. -/
def blockItems : (fuel : Nat) → (column : Nat) → (level : Bool) → NodeReader (List Node)
  | 0, _, _, _ => none
  | fuel + 1, column, level, p => do
    let c := p.cursor
    if !c.atEnd && !c.atMarker && c.column = column && c.atMark '-' then do
      let (item, p) ← blockNode fuel column true false (p.to c.skip)
      let (items, p) ← blockItems fuel column level (p.to (p.cursor.toNext false false))
      some (item :: items, p)
    else if c.atEnd || c.atMarker || c.column < column || (level && c.column = column)
    then some ([], p)
    else none

/-- The entries of a map at a column. -/
def blockEntries : (fuel : Nat) → (column : Nat) → NodeReader (List (Node × Node))
  | 0, _, _ => none
  | fuel + 1, column, p => do
    let c := p.cursor
    if c.atEnd || c.atMarker || c.column < column then some ([], p)
    else if c.column ≠ column then none
    else
      let (entry, p) ←
        if c.atMark '?' then do
          let (key, p) ← blockNode fuel column true true (p.to c.skip)
          let next := p.cursor.toNext false false
          if next.column = column && next.atMark ':' && !next.atMarker then do
            let (value, p) ← blockNode fuel column true true (p.to next.skip)
            some ((key, value), p)
          else some ((key, .absent), p)
        else do
          let (key, p) ← blockKey? fuel p
          let (value, p) ← blockNode fuel column false true p
          some ((key, value), p)
      let (entries, p) ← blockEntries fuel column (p.to (p.cursor.toNext false false))
      some (entry :: entries, p)

end

/-! ## The stream -/

/-- Whether a directive line is one of the two that are known. -/
def knownDirective (line : List Char) : Bool :=
  let words := ((String.ofList (line.takeWhile (· ≠ '#'))).splitOn " ").filter (· ≠ "")
  match words with
  | ["%YAML", version] => version == "1.1" || version == "1.2"
  | ["%TAG", _, _] => true
  | _ => false

/-- The place behind directives, comments and empty lines, and whether there were directives. -/
def directives : (fuel : Nat) → (seen : Bool) → Reader Bool
  | 0, _, _ => none
  | fuel + 1, seen, c =>
    let c := c.toNext false true
    if c.column = 0 && c.sees '%' then
      if knownDirective (c.rest.takeWhile (· ≠ '\n')) then directives fuel true c.skipLine else none
    else some (seen, c)

/-- The place behind end marks, comments and empty lines. -/
def skipEnds : (fuel : Nat) → Cursor → Cursor
  | 0, c => c
  | fuel + 1, c =>
    let c := c.toNext false false
    if c.atMarker && c.sees '.' then skipEnds fuel (c.skips 3) else c

/-- The root of the one document of a text. -/
def parse (text : String) : Option Node := do
  let c ← Cursor.start? text
  let fuel := 4 * c.rest.length + 16
  let (seen, c) ← directives fuel false (skipEnds fuel c)
  if c.atEnd then (if seen then none else some .absent)
  else if c.atMarker && c.sees '.' then none
  else if seen && !c.atMarker then none
  else
    let explicit := c.atMarker
    let c := if explicit then c.skips 3 else c
    let (root, p) ← blockNode fuel (-1) (!explicit) false { cursor := c }
    let next := p.cursor.toNext false false
    if !next.atEnd && !next.atMarker then none
    else if (skipEnds fuel next).atEnd then some root
    else none

end Flotilla.Yaml
