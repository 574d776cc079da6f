import Flotilla.Encoding.Base64
import Flotilla.Encoding.Pem
import Flotilla.Failure
import Flotilla.Kubeconfig.Basic
import Flotilla.Net.Uri
import Flotilla.Text.Utf8

/-!
# From a kubeconfig to a client

`ClientConfig.ofText` reads a kubeconfig and follows its current context to a
cluster and a user.  The settings of a client come of it, or one of two faults:
the text is no kubeconfig, or the settings cannot be made of it.  A user that is
named but not there counts as one without credentials.

`ClientConfig.canConnect` tells whether a client can be built with the settings.
No file is at hand, so what stands in a file cannot be had.
-/

namespace Flotilla.Kubeconfig

/-- Why there are no settings. -/
inductive ConfigError where
  /-- The text is no kubeconfig. -/
  | malformed
  /-- The settings cannot be made of it. -/
  | unusable
deriving Repr, DecidableEq

/-- The wording. -/
def ConfigError.message : ConfigError → String
  | .malformed => "invalid kubeconfig YAML"
  | .unusable => "failed to build config"

/-- The settings of a client. -/
structure ClientConfig where
  /-- The apiserver. -/
  server : Net.Uri
  /-- The namespace unless one is given. -/
  defaultNamespace : String
  /-- Certificates of authorities. -/
  rootCertificates : Option (List (List UInt8))
  /-- The apiserver's certificate is not checked. -/
  acceptInvalidCertificates : Bool
  /-- The name the apiserver's certificate must have. -/
  tlsServerName : Option String
  /-- A proxy. -/
  proxy : Option Net.Uri
  /-- The credentials. -/
  user : User
deriving Repr, DecidableEq

namespace ClientConfig

/-- The text that bytes in base64 stand for, each byte a character. -/
def bytesOfBase64 (data : String) : Option (List Char) :=
  (Encoding.Base64.decode data.toList).map fun bytes => bytes.map fun b => Char.ofNat b.toNat

/-- The certificates of the authorities of a cluster. -/
def authorities (cluster : Cluster) : Option (Option (List (List UInt8))) :=
  match cluster.authorityData, cluster.authorityFile with
  | some data, _ => do
    let text ← bytesOfBase64 data
    let certificates ← Encoding.Pem.certificates text
    some (some certificates)
  | none, some _ => none
  | none, none => some none

/-- The proxy of a cluster.  An empty one is none. -/
def proxyOf (cluster : Cluster) : Option (Option Net.Uri) :=
  match cluster.proxyUrl with
  | none => some none
  | some "" => some none
  | some url => (Net.Uri.parse? url).map some

/-- The settings for the current context. -/
def ofKubeconfig? (k : Kubeconfig) : Option ClientConfig := do
  let context ← find? (← k.currentContext) k.contexts
  let cluster ← find? context.cluster k.clusters
  let user := ((context.user.bind fun name => find? name k.users)).getD {}
  let server ← Net.Uri.parse? (← cluster.server)
  let rootCertificates ← authorities cluster
  let proxy ← proxyOf cluster
  some {
    server
    defaultNamespace := context.namespaceName.getD "default"
    rootCertificates
    acceptInvalidCertificates := cluster.insecure.getD false
    tlsServerName := cluster.tlsServerName
    proxy
    user
  }

/-- The settings that a text gives. -/
def ofText (text : String) : Except ConfigError ClientConfig :=
  match parse? text with
  | none => .error .malformed
  | some k =>
    match ofKubeconfig? k with
    | none => .error .unusable
    | some config => .ok config

/-- The failure that tells of an error. -/
def failure (cluster : String) (e : ConfigError) : ControllerFailure :=
  .kubeconfig cluster e.message

/-! ## Building a client -/

/-- Whether a named way hands out a token.  Two are known, and both need one that is stored. -/
def providerWorks (p : AuthProvider) : Bool :=
  (p.name == "oidc" || p.name == "gcp") && p.config.any fun (key, _) => key == "id-token"

/-- Whether the credentials can be had, in the order in which they are looked for.  No program can
be run for them. -/
def credentialsWork (user : User) : Bool :=
  match user.authProvider with
  | some p => providerWorks p
  | none =>
    if user.username.isSome && user.password.isSome then true
    else if user.token.isSome then true
    else user.tokenFile.isNone && user.exec.isNone

/-- Whether the certificate of a user and its key, if both are given, hold a certificate and a
key. -/
def identityWorks (user : User) : Bool :=
  match user.certificateData.bind bytesOfBase64, user.keyData.bind bytesOfBase64 with
  | some certificate, some key =>
    match Encoding.Pem.blocks certificate, Encoding.Pem.blocks key with
    | some certificates, some keys =>
      certificates.any (fun b => b.tag == "CERTIFICATE") &&
        keys.any fun b => b.tag ∈ ["PRIVATE KEY", "RSA PRIVATE KEY", "EC PRIVATE KEY"]
    | _, _ => false
  | _, _ => true

/-- Whether a client can be built. -/
def canConnect (c : ClientConfig) : Bool :=
  c.proxy.isNone && credentialsWork c.user && (!c.server.isSecure || identityWorks c.user)

end ClientConfig

end Flotilla.Kubeconfig
