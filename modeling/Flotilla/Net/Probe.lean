import Flotilla.Net.Network
import Flotilla.Net.Uri

/-!
# Probing a server

A probe asks whether anything answers at an address.  Any answer counts, whatever
its status.  An answer that sends the asker elsewhere is followed, ten times at
most.  An address that is none, a server that cannot be reached, an answer without
a whole head and silence all count as no answer.
-/

namespace Flotilla.Net.Probe

/-- How often a probe lets itself be sent elsewhere. -/
def redirectBound : Nat := 10

/-- An address on a server that speaks plain HTTP: its host and port, and the path and query. -/
def request? (url : String) : Option Request :=
  match Uri.parse? url with
  | some (.absolute "http" host target) => some { host, target := Uri.targetText target }
  | _ => none

/-- The path without its last segment, up to the last slash. -/
def directory (target : String) : String :=
  let path := target.toList.takeWhile (· ≠ '?')
  String.ofList (path.reverse.dropWhile (· ≠ '/')).reverse

/-- The address that another, found in an answer to a request, stands for. -/
def resolve (r : Request) (location : String) : String :=
  match location.toList with
  | '/' :: '/' :: _ => "http:" ++ location
  | '/' :: _ => "http://" ++ r.host ++ location
  | _ =>
    if (Uri.scheme? location.toList).isSome then location
    else "http://" ++ r.host ++ directory r.target ++ location

/-- What came of a probe. -/
structure Result where
  /-- Whether anything answered. -/
  reachable : Bool
  /-- The requests that servers saw. -/
  requests : List Request
deriving Repr, DecidableEq

/-- Follow an address, at most so many times, after these requests. -/
def follow (net : Network) : (room : Nat) → (earlier : List Request) → (url : String) → Result
  | room, earlier, url =>
    match request? url with
    | none => ⟨false, earlier⟩
    | some request =>
      match net.server? request.host with
      | none => ⟨false, earlier⟩
      | some server =>
        let requests := earlier ++ [request]
        match Network.reply server earlier with
        | .silence => ⟨false, requests⟩
        | .bytes content =>
          match Head.ofBytes? content with
          | none => ⟨false, requests⟩
          | some head =>
            match head.redirects, head.location, room with
            | true, some _, 0 => ⟨false, requests⟩
            | true, some location, room + 1 => follow net room requests (resolve request location)
            | _, _, _ => ⟨true, requests⟩

/-- Probe an address. -/
def run (net : Network) (url : String) : Result := follow net redirectBound [] url

end Flotilla.Net.Probe
