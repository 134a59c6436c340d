import BrokerHarness.Operator.Profile

/-!
# Install manifests

Before they are applied, the install manifests of an operator are placed in its namespace, unless
their kind belongs to the whole cluster. The deployment of an operator that watches the whole
cluster is told the namespaces to watch through an environment variable of its containers.
-/

namespace BrokerHarness

/-- Whether objects of a kind belong to the whole cluster and never to a namespace. -/
def ObjectKind.belongsToCluster (kind : ObjectKind) : Bool :=
  ["CustomResourceDefinition", "ClusterRole", "ClusterRoleBinding", "Namespace",
    "ValidatingWebhookConfiguration", "MutatingWebhookConfiguration"].contains kind.name

namespace Installation

/-- The environment variable that tells an operator what to watch. -/
def watchVariable : String := "WATCH_NAMESPACE"

/-- Whether an entry of an environment list is for a variable. -/
def isNamed (name : String) (entry : Json) : Bool :=
  (entry.get? "name").bind Json.string? = some name

/-- An environment list with the watch variable set: entries for it go, and the new one comes
last. -/
def watchEnv (value : String) (entries : List Json) : List Json :=
  entries.filter (fun entry => ¬ isNamed watchVariable entry) ++
    [.ofFields [("name", .string watchVariable), ("value", .string value)]]

/-- A container with the watch variable set. Its environment has to be a list, or missing. -/
def watchContainer (value : String) : Json → Json
  | .object fields =>
    match (Json.lookup "env" fields).getD (.array []) with
    | .array entries => .object (Json.insertField "env" (.array (watchEnv value entries)) fields)
    | _ => .object fields
  | container => container

/-- Where a deployment lists its containers. -/
def containersPath : List String := ["spec", "template", "spec", "containers"]

/-- The body of a deployment with the watch variable set in every container. -/
def watchBody (value : String) (body : Json) : Json :=
  body.modifyAt containersPath fun containers =>
    match containers with
    | .array items => .array (items.map (watchContainer value))
    | other => other

/-- A manifest in the operator's namespace, unless its kind belongs to the whole cluster. -/
def place (profile : OperatorProfile) (manifest : Manifest) : Manifest :=
  if manifest.kind.belongsToCluster then manifest
  else manifest.movedTo profile.deploymentNamespace

/-- Whether a manifest is a deployment that has to be told what to watch. -/
def isWatching (profile : OperatorProfile) (manifest : Manifest) : Bool :=
  ¬ profile.isNamespaced ∧ profile.installMethod = .manifestFile ∧
    manifest.kind = ObjectKind.deployment

/-- A manifest as it is applied. -/
def prepare (profile : OperatorProfile) (manifest : Manifest) : Manifest :=
  let placed := place profile manifest
  if isWatching profile placed then
    { placed with body := watchBody profile.watchText placed.body }
  else placed

end Installation

end BrokerHarness
