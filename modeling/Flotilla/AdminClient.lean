import Flotilla.Text.Quoted

/-!
# Administrative clients

A cluster's apiserver can be reached from the host, at its *external* endpoint,
and from the containers' network, at its *internal* one.  The external endpoint
is preferred.  An administrative client belongs to one cluster, endpoint and
server.
-/

namespace Flotilla

/-- Where an apiserver is reached. -/
inductive Endpoint where
  /-- From the host. -/
  | external
  /-- From the containers' network. -/
  | internal
deriving Repr, DecidableEq

namespace Endpoint

/-- The endpoint's name. -/
def name : Endpoint → String
  | .external => "external"
  | .internal => "internal"

/-- The endpoint's name in a description. -/
def title : Endpoint → String
  | .external => "External"
  | .internal => "Internal"

/-- The endpoints in the order in which they are tried. -/
def preference : List Endpoint := [.external, .internal]

end Endpoint

/-- A client of one cluster. -/
structure AdminClient where
  /-- The cluster. -/
  cluster : String
  /-- The endpoint. -/
  endpoint : Endpoint
  /-- The address of the apiserver. -/
  server : String
deriving Repr, DecidableEq

/-- A description on one line. -/
def AdminClient.description (c : AdminClient) : String :=
  "AdminClient \x7b cluster: " ++ Text.quoted c.cluster ++ ", endpoint: " ++ c.endpoint.title ++
    ", server: " ++ Text.quoted c.server ++ ", .. \x7d"

end Flotilla
