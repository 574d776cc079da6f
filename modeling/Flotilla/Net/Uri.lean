import Flotilla.Text.Split

/-!
# Addresses of resources

A URI in one of four forms: a path alone, an authority alone, an asterisk, or a
scheme, an authority and a path.  `text` writes it again.  The schemes `http`
and `https` are written in lower case, a missing path behind an authority with a
scheme is written as `/`, and a fragment is left away.
-/

namespace Flotilla.Net

/-- The address of a resource. -/
inductive Uri where
  /-- An asterisk. -/
  | asterisk
  /-- A path and a query. -/
  | path (target : String)
  /-- A host and a port. -/
  | authority (host : String)
  /-- All parts. -/
  | absolute (scheme host target : String)
deriving Repr, DecidableEq

namespace Uri

/-- A character of an authority. -/
def isAuthorityChar (c : Char) : Bool :=
  c.isAlphanum ||
    c ∈ ['!', '#', '$', '&', '\'', '(', ')', '*', '+', ',', '-', '.', '/', ':', ';', '=', '?', '@',
      '[', ']', '_', '~']

/-- What was seen of an authority. -/
structure AuthorityScan where
  /-- Colons since the last bracket or at sign. -/
  colons : Nat := 0
  /-- A bracket was opened. -/
  opened : Bool := false
  /-- It was closed. -/
  closed : Bool := false
  /-- A percent sign since the last bracket or at sign. -/
  percent : Bool := false
  /-- The last character was an at sign. -/
  endsAt : Bool := false

/-- One character of an authority. -/
def AuthorityScan.step (s : AuthorityScan) (c : Char) : Option AuthorityScan :=
  let s := { s with endsAt := false }
  if c = ':' then
    if 8 ≤ s.colons then none else some { s with colons := s.colons + 1 }
  else if c = '[' then
    if s.percent || s.opened then none else some { s with opened := true }
  else if c = ']' then
    if !s.opened || s.closed then none
    else some { s with closed := true, colons := 0, percent := false }
  else if c = '@' then some { s with colons := 0, percent := false, endsAt := true }
  else if c = '%' then some { s with percent := true }
  else if isAuthorityChar c then some s
  else none

/-- Whether a text, with none of the marks that end one, is an authority. -/
def isAuthority (cs : List Char) : Bool :=
  match cs.foldlM AuthorityScan.step {} with
  | none => false
  | some s => s.opened == s.closed && s.colons ≤ 1 && !s.endsAt && !s.percent

/-- Whether an authority ends before a character. -/
def endsAuthority (c : Char) : Bool := c = '/' || c = '?' || c = '#'

/-- A character of a path. -/
def isPathChar (c : Char) : Bool :=
  let n := c.toNat
  n == 0x21 || n == 0x22 || (0x24 ≤ n && n ≤ 0x3B) || n == 0x3D || (0x40 ≤ n && n ≤ 0x5F) ||
    (0x61 ≤ n && n ≤ 0x7E) || 0x7F ≤ n

/-- A character of a query. -/
def isQueryChar (c : Char) : Bool :=
  let n := c.toNat
  n == 0x21 || (0x24 ≤ n && n ≤ 0x3B) || n == 0x3D || 0x3F ≤ n

/-- A path and a query without the fragment. -/
def target? (cs : List Char) : Option (List Char) :=
  let cs := cs.takeWhile (· ≠ '#')
  let path := cs.takeWhile (· ≠ '?')
  let query := cs.drop path.length
  if path.all isPathChar && query.all isQueryChar then some cs else none

/-- A character of a scheme. -/
def isSchemeChar (c : Char) : Bool := c.isAlphanum || c = '+' || c = '-' || c = '.'

/-- The scheme a text begins with, as it is written, and what stands behind `://`. -/
def scheme? (cs : List Char) : Option (String × List Char) :=
  let word := cs.takeWhile isSchemeChar
  match cs.drop word.length with
  | ':' :: '/' :: '/' :: rest =>
    let lower := String.ofList (word.map Char.toLower)
    some (if lower == "http" || lower == "https" then lower else String.ofList word, rest)
  | _ => none

/-- The greatest length of a scheme. -/
def schemeBound : Nat := 64

/-- Reads an address. -/
def parse? (s : String) : Option Uri :=
  let cs := s.toList
  match cs with
  | [] => none
  | ['*'] => some .asterisk
  | '/' :: _ => (target? cs).map fun t => .path (String.ofList t)
  | _ =>
    match scheme? cs with
    | none =>
      if cs.all (fun c => !endsAuthority c) && isAuthority cs then some (.authority s) else none
    | some (scheme, rest) =>
      let host := rest.takeWhile fun c => !endsAuthority c
      if schemeBound < scheme.length || host.isEmpty || !isAuthority host then none
      else
        (target? (rest.drop host.length)).map fun t =>
          .absolute scheme (String.ofList host) (String.ofList t)

/-- A path and a query, with `/` for an empty path. -/
def targetText (target : String) : String :=
  match target.toList with
  | '/' :: _ => target
  | _ => "/" ++ target

/-- The address as it is written. -/
def text : Uri → String
  | .asterisk => "*"
  | .path target => targetText target
  | .authority host => host
  | .absolute scheme host target => scheme ++ "://" ++ host ++ targetText target

/-- Whether the connection is encrypted. -/
def isSecure : Uri → Bool
  | .absolute scheme _ _ => scheme == "https"
  | _ => false

end Uri

end Flotilla.Net
