import Flotilla.Text.Blank
import Flotilla.Text.Split

/-!
# A network with scripted servers

Servers answer requests on a network.  A server gives its answers in turn, one for
each connection, the last for every later one, and closes the connection behind
it.  It may also keep silent.  On a network that is down there is no connection to
anyone.

An answer counts when it has a whole head: a status line, header lines, and the
blank line that ends them.
-/

namespace Flotilla.Net

/-- What a server does on a connection. -/
inductive Reply where
  /-- It sends these bytes and closes. -/
  | bytes (content : List UInt8)
  /-- It sends nothing and holds the connection. -/
  | silence
deriving Repr, DecidableEq

/-- A server. -/
structure Server where
  /-- The host and port where it listens. -/
  host : String
  /-- What it does on its connections in turn. -/
  replies : List Reply

/-- A network. -/
structure Network where
  /-- Whether connections can be made. -/
  isUp : Bool := true
  /-- Who listens. -/
  servers : List Server := []

/-- A request that a server saw. -/
structure Request where
  /-- The host and port of the server. -/
  host : String
  /-- The path and query. -/
  target : String
deriving Repr, DecidableEq

/-- The first line of the request. -/
def Request.line (r : Request) : String := s!"GET {r.target} HTTP/1.1"

namespace Network

/-- The server that listens at a host and port, if it can be reached. -/
def server? (net : Network) (host : String) : Option Server :=
  if net.isUp then net.servers.find? (·.host == host) else none

/-- What a server does on the connection after these requests. -/
def reply (s : Server) (earlier : List Request) : Reply :=
  let n := (earlier.filter fun r => r.host == s.host).length
  match s.replies[n]? with
  | some r => r
  | none => s.replies.getLast?.getD (.bytes [])

end Network

/-- The head of an answer. -/
structure Head where
  /-- The status. -/
  status : Nat
  /-- Where the resource has gone, if the answer says so. -/
  location : Option String := none
deriving Repr, DecidableEq

namespace Head

/-- The status of a status line. -/
def status? (line : List Char) : Option Nat :=
  match line with
  | 'H' :: 'T' :: 'T' :: 'P' :: '/' :: '1' :: '.' :: minor :: ' ' :: a :: b :: c :: rest =>
    let digit (d : Char) := d.toNat - 48
    if (minor == '0' || minor == '1') && a.isDigit && b.isDigit && c.isDigit && a != '0' &&
        (rest.isEmpty || rest.head? == some ' ') then
      some (digit a * 100 + digit b * 10 + digit c)
    else none
  | _ => none

/-- The name and value of a header line.  The name is in lower case. -/
def header? (line : List Char) : Option (String × String) :=
  match Text.cutAt ':' line with
  | none => none
  | some (name, value) =>
    if name.isEmpty || name.any fun c => c == ' ' || c.toNat < 0x20 then none
    else some (String.ofList (name.map Char.toLower), String.ofList (Text.trimList value))

/-- The headers up to the blank line.  None if there is no blank line or a line is none. -/
def headers? : List (List Char) → Option (List (String × String))
  | [] => none
  | [] :: _ :: _ => some []
  | line :: rest => do
    let header ← header? line
    let more ← headers? rest
    some (header :: more)

/-- The lines of an answer, each byte a character. -/
def linesOf (content : List UInt8) : List (List Char) :=
  (Text.splitOn '\n' (content.map fun b => Char.ofNat b.toNat)).map fun line =>
    if line.getLast? == some '\r' then line.dropLast else line

/-- Reads the head of an answer. -/
def ofBytes? (content : List UInt8) : Option Head :=
  match linesOf content with
  | [] => none
  | first :: rest => do
    let status ← status? first
    let headers ← headers? rest
    some { status, location := (headers.find? fun (name, _) => name == "location").map (·.2) }

/-- Whether the answer sends the asker elsewhere. -/
def redirects (h : Head) : Bool := [301, 302, 303, 307, 308].contains h.status

end Head

example : Head.status? "HTTP/1.1 302 Found".toList = some 302 := by decide
example : Head.status? "HTTP/1.1 99 X".toList = none := by decide
example : Head.headers? ["Location: /a".toList, [], []] = some [("location", "/a")] := by decide
example : Head.headers? ["Location: /a".toList, []] = none := by decide

end Flotilla.Net
