import Flotilla.Metrics.Exposition
import Flotilla.Net.Uri

/-!
# The metrics server's answers

Three paths are known.  `/metrics` answers with the text of the metrics,
`/healthz` and `/readyz` with `ok`.  What stands behind a question mark does
not count, and a path is compared as it is, without decoding.  A known path
answers to `GET` and, without a body, to `HEAD`.
-/

namespace Flotilla.Server

/-- An answer. -/
structure Response where
  /-- The status. -/
  status : Nat
  /-- The type of the body. -/
  contentType : Option String := none
  /-- The methods the path answers to, when the method is none of them. -/
  allow : Option String := none
  /-- The body. -/
  body : String := ""
deriving Repr, DecidableEq

/-- The path of a request target, without what stands behind a question mark.  The target may be a
whole address. -/
def pathOf (target : String) : String :=
  let target := match Net.Uri.parse? target with
    | some (.absolute _ _ target) => Net.Uri.targetText target
    | _ => target
  String.ofList (target.toList.takeWhile fun c => c != '?' && c != '#')

/-- What a path holds: the type and the body. -/
def content (metrics : Metrics.Store) (path : String) : Option (String × String) :=
  if path = "/metrics" then some ("text/plain; version=0.0.4", metrics.exposition)
  else if path = "/healthz" ∨ path = "/readyz" then some ("text/plain; charset=utf-8", "ok")
  else none

/-- The answer to a request. -/
def respond (metrics : Metrics.Store) (method target : String) : Response :=
  match content metrics (pathOf target) with
  | none => { status := 404 }
  | some (contentType, body) =>
    if method = "GET" then { status := 200, contentType := some contentType, body }
    else if method = "HEAD" then { status := 200, contentType := some contentType }
    else { status := 405, allow := some "GET,HEAD" }

end Flotilla.Server
