import Provisioning.Text.Base64
import Provisioning.Text.Blank
import Provisioning.Text.Quoted
import Provisioning.Text.Utf8
import Provisioning.Yaml.Node

/-!
The clusters of a kubeconfig. A new node needs the address of the API server and the certificate of
the cluster's authority, and both are there only if the kubeconfig has exactly one cluster.
-/

namespace Provisioning

open Provisioning.Text

structure Cluster where
  name : String
  server : String
  authorityData : Option String
  deriving DecidableEq, Repr

structure Kubeconfig where
  clusters : List Cluster
  deriving DecidableEq, Repr

/-- Why a kubeconfig does not give what is asked of it. -/
inductive KubeconfigError where
  | clusterCount (found : Nat)
  | missingAuthorityData (cluster : String)
  | invalidAuthorityData
  deriving DecidableEq, Repr

namespace KubeconfigError

def message : KubeconfigError → String
  | .clusterCount found => s!"kubeconfig does not contain exactly one cluster (found {found})"
  | .missingAuthorityData cluster =>
      "cluster " ++ quote cluster ++ " has no certificate authority data"
  | .invalidAuthorityData => "invalid certificate authority data"

end KubeconfigError

namespace Kubeconfig

open Yaml

/-- The entries of a mapping; an empty plain scalar is an empty mapping. -/
def entries (d : Document) (node : Node) : Reading (List (Node × Node)) := do
  match ← d.resolve node with
  | .mapping entries => pure entries
  | .scalar text plain _ => if text.isEmpty && plain then pure [] else failure
  | _ => failure

/-- The items of a sequence; an empty plain scalar is an empty sequence. -/
def items (d : Document) (node : Node) : Reading (List Node) := do
  match ← d.resolve node with
  | .sequence items => pure items
  | .scalar text plain _ => if text.isEmpty && plain then pure [] else failure
  | _ => failure

/-- The text of a scalar of any kind. -/
def scalarText (d : Document) (node : Node) : Reading String := do
  match ← d.resolve node with
  | .scalar text _ _ => pure text
  | _ => failure

def nullWords : List String := ["null", "Null", "NULL", "~"]

/-- The text of a scalar, or nothing for one that stands for null. -/
def optionalText (d : Document) (node : Node) : Reading (Option String) := do
  match ← d.resolve node with
  | .scalar text plain tag =>
      if !plain then pure (some text)
      else match tag with
        | some "tag:yaml.org,2002:null" => if nullWords.contains text then pure none else failure
        | some _ => pure (some text)
        | none => pure (if text.isEmpty || nullWords.contains text then none else some text)
  | _ => failure

/-- The values of the wanted keys. Keys are scalars, a wanted key stands only once, and all other
keys are skipped. -/
def wanted (d : Document) (names : List String) :
    List (Node × Node) → Reading (List (String × Node))
  | [] => pure []
  | (key, value) :: rest => do
      let name ← scalarText d key
      let others ← wanted d names rest
      if names.contains name then
        if others.any fun o => o.1 == name then failure else pure ((name, value) :: others)
      else pure others

/-- The value of a key. -/
def value? (name : String) (found : List (String × Node)) : Option Node :=
  (found.find? fun f => f.1 == name).map (·.2)

/-- The value of a key that has to be there. -/
def value (name : String) (found : List (String × Node)) : Reading Node :=
  match value? name found with
  | some node => pure node
  | none => failure

def cluster (d : Document) (node : Node) : Reading Cluster := do
  let found ← wanted d ["name", "cluster"] (← entries d node)
  let inner ← value "cluster" found
  let settings ← wanted d ["server", "certificate-authority-data"] (← entries d inner)
  let name ← scalarText d (← value "name" found)
  let server ← scalarText d (← value "server" settings)
  let authorityData ← match value? "certificate-authority-data" settings with
    | some node => optionalText d node
    | none => pure none
  pure ⟨name, server, authorityData⟩

def ofDocument (d : Document) : Reading Kubeconfig := do
  let found ← wanted d ["clusters"] (← entries d (d.root.getD .absent))
  match value? "clusters" found with
  | none => pure ⟨[]⟩
  | some node => do
      let clusters ← (← items d node).mapM (cluster d)
      pure ⟨clusters⟩

/-- Reads a kubeconfig from YAML text. -/
def parse? (text : String) : Option Kubeconfig := do
  let d ← Yaml.document? text
  (ofDocument d).run' 0

/-- The only cluster. -/
def soleCluster (k : Kubeconfig) : Except KubeconfigError Cluster :=
  match k.clusters with
  | [cluster] => .ok cluster
  | clusters => .error (.clusterCount clusters.length)

/-- Drops every occurrence of the scheme. -/
def dropScheme : List Char → List Char
  | 'h' :: 't' :: 't' :: 'p' :: 's' :: ':' :: '/' :: '/' :: rest => dropScheme rest
  | c :: rest => c :: dropScheme rest
  | [] => []

/-- The address of the API server without the scheme. -/
def serverAddress (k : Kubeconfig) : Except KubeconfigError String := do
  let cluster ← k.soleCluster
  .ok (String.ofList (dropScheme cluster.server.toList))

/-- The certificate of the authority as text. -/
def authorityCertificate (k : Kubeconfig) : Except KubeconfigError String := do
  let cluster ← k.soleCluster
  match cluster.authorityData with
  | none => .error (.missingAuthorityData cluster.name)
  | some data =>
      match Base64.decode? (trim data) with
      | none => .error .invalidAuthorityData
      | some bytes => .ok (Utf8.decode bytes)

end Kubeconfig

end Provisioning
