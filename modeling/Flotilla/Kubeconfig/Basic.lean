import Flotilla.Kubeconfig.Fields
import Flotilla.Yaml.Document

/-!
# Kubeconfigs

A kubeconfig is a YAML document with named clusters, users and contexts, and the
name of the context in use.  An empty document is one without any of them.

`Kubeconfig.parse?` reads it.  Of several entries of one name the first counts
(`find?`).
-/

namespace Flotilla.Kubeconfig

open Yaml (Node)

/-- How a cluster is reached. -/
structure Cluster where
  /-- The address of the apiserver. -/
  server : Option String := none
  /-- The apiserver's certificate is not checked. -/
  insecure : Option Bool := none
  /-- A file with certificates of authorities. -/
  authorityFile : Option String := none
  /-- Certificates of authorities, in base64. -/
  authorityData : Option String := none
  /-- A proxy. -/
  proxyUrl : Option String := none
  /-- The name the apiserver's certificate must have. -/
  tlsServerName : Option String := none
deriving Repr, DecidableEq

/-- A program that hands out credentials. -/
structure Exec where
  /-- The program. -/
  command : Option String := none
deriving Repr, DecidableEq

/-- A named way to get credentials. -/
structure AuthProvider where
  /-- The name. -/
  name : String
  /-- The settings. -/
  config : List (String × String) := []
deriving Repr, DecidableEq

/-- The credentials of a user. -/
structure User where
  /-- The name for a password. -/
  username : Option String := none
  /-- The password. -/
  password : Option String := none
  /-- A token. -/
  token : Option String := none
  /-- A file with a token. -/
  tokenFile : Option String := none
  /-- A file with a certificate. -/
  certificateFile : Option String := none
  /-- A certificate, in base64. -/
  certificateData : Option String := none
  /-- A file with the certificate's key. -/
  keyFile : Option String := none
  /-- The certificate's key, in base64. -/
  keyData : Option String := none
  /-- A named way. -/
  authProvider : Option AuthProvider := none
  /-- A program. -/
  exec : Option Exec := none
deriving Repr, DecidableEq

/-- A cluster, a user and a namespace. -/
structure Context where
  /-- The name of the cluster. -/
  cluster : String
  /-- The name of the user. -/
  user : Option String := none
  /-- The namespace. -/
  namespaceName : Option String := none
deriving Repr, DecidableEq

/-- Something with a name that may be left away. -/
structure Named (α : Type) where
  /-- The name. -/
  name : String
  /-- What has the name. -/
  value : Option α
deriving Repr, DecidableEq

end Flotilla.Kubeconfig

namespace Flotilla

open Kubeconfig (Named Cluster User Context)

/-- A kubeconfig. -/
structure Kubeconfig where
  /-- The clusters. -/
  clusters : List (Named Cluster) := []
  /-- The users. -/
  users : List (Named User) := []
  /-- The contexts. -/
  contexts : List (Named Context) := []
  /-- The name of the context in use. -/
  currentContext : Option String := none
deriving Repr, DecidableEq

end Flotilla

namespace Flotilla.Kubeconfig

open Yaml (Node)

/-- What has a name; the first entry of the name decides. -/
def find? {α : Type} (name : String) (entries : List (Named α)) : Option α :=
  (entries.find? fun e => e.name == name).bind (·.value)

/-! ## Reading -/

/-- An extension is only looked at for its form. -/
def readExtension (node : Node) : Option Unit := do
  let fields ← Fields.ofNode ["name", "extension"] node
  let _ ← fields.required "name" Node.text?
  let _ ← fields.required "extension" some
  some ()

/-- A cluster. -/
def readCluster (node : Node) : Option Cluster := do
  let fields ← Fields.ofNode
    ["server", "insecure-skip-tls-verify", "certificate-authority", "certificate-authority-data",
      "proxy-url", "disable-compression", "tls-server-name", "extensions"] node
  let server ← fields.optional "server" Node.text?
  let insecure ← fields.optional "insecure-skip-tls-verify" Node.bool?
  let authorityFile ← fields.optional "certificate-authority" Node.text?
  let authorityData ← fields.optional "certificate-authority-data" Node.text?
  let proxyUrl ← fields.optional "proxy-url" Node.text?
  let _ ← fields.optional "disable-compression" Node.bool?
  let tlsServerName ← fields.optional "tls-server-name" Node.text?
  let _ ← fields.optional "extensions" (listOf readExtension)
  some { server, insecure, authorityFile, authorityData, proxyUrl, tlsServerName }

/-- When a program may ask the user. -/
def readInteractiveMode (node : Node) : Option String :=
  node.text?.bind fun text => if text ∈ ["Never", "IfAvailable", "Always"] then some text else none

/-- A program. -/
def readExec (node : Node) : Option Exec := do
  let fields ← Fields.ofNode
    ["apiVersion", "args", "command", "env", "interactiveMode", "provideClusterInfo"] node
  let _ ← fields.optional "apiVersion" Node.text?
  let _ ← fields.optional "args" (listOf Node.text?)
  let command ← fields.optional "command" Node.text?
  let _ ← fields.optional "env" (listOf textMap)
  let _ ← fields.optional "interactiveMode" readInteractiveMode
  let _ ← fields.defaulted "provideClusterInfo" Node.bool? false
  some { command }

/-- A named way. -/
def readAuthProvider (node : Node) : Option AuthProvider := do
  let fields ← Fields.ofNode ["name", "config"] node
  let name ← fields.required "name" Node.text?
  let config ← fields.defaulted "config" textMap []
  some { name, config }

/-- Credentials. -/
def readUser (node : Node) : Option User := do
  let fields ← Fields.ofNode
    ["username", "password", "token", "tokenFile", "client-certificate", "client-certificate-data",
      "client-key", "client-key-data", "as", "as-groups", "auth-provider", "exec"] node
  let username ← fields.optional "username" Node.text?
  let password ← fields.optional "password" Node.text?
  let token ← fields.optional "token" Node.text?
  let tokenFile ← fields.optional "tokenFile" Node.text?
  let certificateFile ← fields.optional "client-certificate" Node.text?
  let certificateData ← fields.optional "client-certificate-data" Node.text?
  let keyFile ← fields.optional "client-key" Node.text?
  let keyData ← fields.optional "client-key-data" Node.text?
  let _ ← fields.optional "as" Node.text?
  let _ ← fields.optional "as-groups" (listOf Node.text?)
  let authProvider ← fields.optional "auth-provider" readAuthProvider
  let exec ← fields.optional "exec" readExec
  some { username, password, token, tokenFile, certificateFile, certificateData, keyFile, keyData,
         authProvider, exec }

/-- A context. -/
def readContext (node : Node) : Option Context := do
  let fields ← Fields.ofNode ["cluster", "user", "namespace", "extensions"] node
  let cluster ← fields.required "cluster" Node.text?
  let user ← fields.optional "user" Node.text?
  let namespaceName ← fields.optional "namespace" Node.text?
  let _ ← fields.optional "extensions" (listOf readExtension)
  some { cluster, user, namespaceName }

/-- Something with a name, under a key of its own. -/
def readNamed {α : Type} (key : String) (read : Node → Option α) (node : Node) :
    Option (Named α) := do
  let fields ← Fields.ofNode ["name", key] node
  let name ← fields.required "name" Node.text?
  let value ← fields.optional key read
  some { name, value }

/-- Preferences are only looked at for their form. -/
def readPreferences (node : Node) : Option Unit := do
  let fields ← Fields.ofNode ["colors", "extensions"] node
  let _ ← fields.optional "colors" Node.bool?
  let _ ← fields.optional "extensions" (listOf readExtension)
  some ()

/-- A kubeconfig. -/
def readRoot (node : Node) : Option Kubeconfig := do
  let fields ← Fields.ofNode
    ["preferences", "clusters", "users", "contexts", "current-context", "extensions", "kind",
      "apiVersion"] node
  let _ ← fields.optional "preferences" readPreferences
  let clusters ← fields.optional "clusters" (listOf (readNamed "cluster" readCluster))
  let users ← fields.optional "users" (listOf (readNamed "user" readUser))
  let contexts ← fields.optional "contexts" (listOf (readNamed "context" readContext))
  let currentContext ← fields.optional "current-context" Node.text?
  let _ ← fields.optional "extensions" (listOf readExtension)
  let _ ← fields.optional "kind" Node.text?
  let _ ← fields.optional "apiVersion" Node.text?
  some { clusters := clusters.getD [], users := users.getD [], contexts := contexts.getD [],
         currentContext }

/-- Reads a text. -/
def parse? (text : String) : Option Kubeconfig := (Yaml.parse text).bind readRoot

end Flotilla.Kubeconfig
