import Flotilla.AdminClient
import Flotilla.Text.Lines
import Flotilla.Text.Split
import Flotilla.Tools.Outcome

/-!
# The `kind` tool

`kind` lists the clusters there are, one to a line, and renders the kubeconfig of
a cluster for either endpoint.  A list may be empty: the tool says so on its error
stream and ends well.  A kubeconfig may not be blank.  A tool that ended
unsuccessfully with `noNodes` on its error stream does not know the cluster.
-/

namespace Flotilla.Tools

/-- The `kind` tool. -/
structure Kind where
  /-- The binary. -/
  binary : String := "kind"

/-- What the tool says of a cluster it does not know. -/
def noNodes : String := "could not locate any control plane nodes"

namespace Kind

/-- The arguments that list the clusters. -/
def listArgs : List String := ["get", "clusters"]

/-- The arguments that render a kubeconfig. -/
def kubeconfigArgs (cluster : String) (endpoint : Endpoint) : List String :=
  ["get", "kubeconfig", "--name", cluster] ++ match endpoint with
    | .external => []
    | .internal => ["--internal"]

/-- The clusters there are. -/
def clusters (k : Kind) (machine : Machine) : Except CommandFailure (List String) :=
  (machine.ask k.binary listArgs).map Text.nonEmptyLines

/-- A failure to render a kubeconfig, told apart from a cluster that is not known. -/
def classify (cluster : String) : CommandFailure → CommandFailure
  | .unsuccessful command status stderr =>
    if Text.hasWord noNodes.toList stderr.toList then .notFound cluster
    else .unsuccessful command status stderr
  | other => other

/-- The kubeconfig of a cluster. -/
def kubeconfig (k : Kind) (machine : Machine) (cluster : String) (endpoint : Endpoint) :
    Except CommandFailure String :=
  let args := kubeconfigArgs cluster endpoint
  match machine.ask k.binary args with
  | .error failure => .error (classify cluster failure)
  | .ok text =>
    if Text.allBlank text then
      .error (.invalidOutput (commandLine k.binary args) "empty kubeconfig")
    else .ok text

end Kind

end Flotilla.Tools
