import BrokerHarness.Condition.Basic
import BrokerHarness.CustomResource.Metadata
import BrokerHarness.Label
import BrokerHarness.Object.Manifest

/-!
# Brokers

The typed form of the broker resource, as far as tests set it. What is not set is omitted when it is
written, so that the operator applies its own defaults.
-/

namespace BrokerHarness

/-- Storage for the data of a broker: the size that each claim asks for, as a quantity, and the
class of the storage. -/
structure Storage where
  size : Option String := none
  storageClassName : Option String := none
deriving DecidableEq, Repr

/-- What a container may use at most, and what is kept free for it, by resource, as quantities. -/
structure ResourceRequirements where
  limits : TextMap := .empty
  requests : TextMap := .empty
deriving DecidableEq, Repr

/-- How the pods of a broker are deployed. The size is the number of replicas. -/
structure DeploymentPlan where
  size : Option Int32 := none
  image : Option String := none
  persistenceEnabled : Option Bool := none
  storage : Option Storage := none
  resources : Option ResourceRequirements := none
  requireLogin : Option Bool := none
  messageMigration : Option Bool := none
deriving DecidableEq, Repr

/-- A port at which a broker accepts clients. -/
structure Acceptor where
  name : String
  protocols : Option String := none
  port : Option Int32 := none
  expose : Option Bool := none
  sslEnabled : Option Bool := none
  sslSecret : Option String := none
  needClientAuth : Option Bool := none
deriving DecidableEq, Repr

/-- The management console of a broker. -/
structure Console where
  expose : Option Bool := none
  sslEnabled : Option Bool := none
  sslSecret : Option String := none
deriving DecidableEq, Repr

/-- An environment variable of a container. -/
structure EnvVar where
  name : String
  value : Option String := none
deriving DecidableEq, Repr

/-- The desired state of a broker: how its pods are deployed, where it accepts clients, its
management console, additional environment variables of its containers, and additional settings, one
in each text. -/
structure BrokerSpec where
  deploymentPlan : Option DeploymentPlan := none
  acceptors : List Acceptor := []
  console : Option Console := none
  env : List EnvVar := []
  brokerProperties : List String := []
deriving DecidableEq, Repr

/-- What the operator reports about a broker. -/
structure BrokerStatus where
  conditions : List Condition := []
deriving DecidableEq, Repr

/-- A broker resource. -/
structure Broker where
  metadata : ObjectMetadata
  spec : BrokerSpec
  status : Option BrokerStatus := none
deriving DecidableEq, Repr

/-! ### Reading -/

/-- Reads storage. -/
def Storage.ofJson? (v : Json) : Option Storage := do
  let r ← v.record? ["size", "storageClassName"]
  return {
    size := ← r.optional "size" Json.string?
    storageClassName := ← r.optional "storageClassName" Json.string? }

/-- Reads resource requirements. -/
def ResourceRequirements.ofJson? (v : Json) : Option ResourceRequirements := do
  let r ← v.record? ["limits", "requests"]
  return {
    limits := ← r.withDefault "limits" TextMap.empty TextMap.ofJson?
    requests := ← r.withDefault "requests" TextMap.empty TextMap.ofJson? }

/-- Reads a deployment plan. -/
def DeploymentPlan.ofJson? (v : Json) : Option DeploymentPlan := do
  let r ← v.record? ["size", "image", "persistenceEnabled", "storage", "resources", "requireLogin",
    "messageMigration"]
  return {
    size := ← r.optional "size" Json.int32?
    image := ← r.optional "image" Json.string?
    persistenceEnabled := ← r.optional "persistenceEnabled" Json.bool?
    storage := ← r.optional "storage" Storage.ofJson?
    resources := ← r.optional "resources" ResourceRequirements.ofJson?
    requireLogin := ← r.optional "requireLogin" Json.bool?
    messageMigration := ← r.optional "messageMigration" Json.bool? }

/-- Reads an acceptor. -/
def Acceptor.ofJson? (v : Json) : Option Acceptor := do
  let r ← v.record? ["name", "protocols", "port", "expose", "sslEnabled", "sslSecret",
    "needClientAuth"]
  return {
    name := ← r.required "name" Json.string?
    protocols := ← r.optional "protocols" Json.string?
    port := ← r.optional "port" Json.int32?
    expose := ← r.optional "expose" Json.bool?
    sslEnabled := ← r.optional "sslEnabled" Json.bool?
    sslSecret := ← r.optional "sslSecret" Json.string?
    needClientAuth := ← r.optional "needClientAuth" Json.bool? }

/-- Reads a console. -/
def Console.ofJson? (v : Json) : Option Console := do
  let r ← v.record? ["expose", "sslEnabled", "sslSecret"]
  return {
    expose := ← r.optional "expose" Json.bool?
    sslEnabled := ← r.optional "sslEnabled" Json.bool?
    sslSecret := ← r.optional "sslSecret" Json.string? }

/-- Reads an environment variable. -/
def EnvVar.ofJson? (v : Json) : Option EnvVar := do
  let r ← v.record? ["name", "value"]
  return {
    name := ← r.required "name" Json.string?
    value := ← r.optional "value" Json.string? }

/-- Reads the desired state of a broker. -/
def BrokerSpec.ofJson? (v : Json) : Option BrokerSpec := do
  let r ← v.record? ["deploymentPlan", "acceptors", "console", "env", "brokerProperties"]
  return {
    deploymentPlan := ← r.optional "deploymentPlan" DeploymentPlan.ofJson?
    acceptors := ← r.withDefault "acceptors" [] (Json.listOf? Acceptor.ofJson?)
    console := ← r.optional "console" Console.ofJson?
    env := ← r.withDefault "env" [] (Json.listOf? EnvVar.ofJson?)
    brokerProperties := ← r.withDefault "brokerProperties" [] (Json.listOf? Json.string?) }

/-- Reads the status of a broker. -/
def BrokerStatus.ofJson? (v : Json) : Option BrokerStatus := do
  let r ← v.record? ["conditions"]
  return { conditions := ← r.withDefault "conditions" [] (Json.listOf? Condition.ofJson?) }

/-- Reads a broker resource. A list has to hold all of its members. -/
def Broker.ofJson? (v : Json) : Option Broker := do
  let names := ["metadata", "spec", "status"]
  let r ← v.record? names
  if (v.array?.map List.length).any (· < names.length) then none
  else
    return {
      metadata := ← r.required "metadata" ObjectMetadata.ofJson?
      spec := ← r.required "spec" BrokerSpec.ofJson?
      status := ← r.optional "status" BrokerStatus.ofJson? }

/-! ### Writing -/

/-- Storage as a value. -/
def Storage.toJson (s : Storage) : Json :=
  .ofPresent [
    ("size", s.size.map .string),
    ("storageClassName", s.storageClassName.map .string)]

/-- Resource requirements as a value. -/
def ResourceRequirements.toJson (r : ResourceRequirements) : Json :=
  .ofPresent [
    ("limits", r.limits.toJsonUnlessEmpty),
    ("requests", r.requests.toJsonUnlessEmpty)]

/-- A deployment plan as a value. -/
def DeploymentPlan.toJson (p : DeploymentPlan) : Json :=
  .ofPresent [
    ("size", p.size.map .ofInt32),
    ("image", p.image.map .string),
    ("persistenceEnabled", p.persistenceEnabled.map .bool),
    ("storage", p.storage.map Storage.toJson),
    ("resources", p.resources.map ResourceRequirements.toJson),
    ("requireLogin", p.requireLogin.map .bool),
    ("messageMigration", p.messageMigration.map .bool)]

/-- An acceptor as a value. -/
def Acceptor.toJson (a : Acceptor) : Json :=
  .ofPresent [
    ("name", some (.string a.name)),
    ("protocols", a.protocols.map .string),
    ("port", a.port.map .ofInt32),
    ("expose", a.expose.map .bool),
    ("sslEnabled", a.sslEnabled.map .bool),
    ("sslSecret", a.sslSecret.map .string),
    ("needClientAuth", a.needClientAuth.map .bool)]

/-- A console as a value. -/
def Console.toJson (c : Console) : Json :=
  .ofPresent [
    ("expose", c.expose.map .bool),
    ("sslEnabled", c.sslEnabled.map .bool),
    ("sslSecret", c.sslSecret.map .string)]

/-- An environment variable as a value. -/
def EnvVar.toJson (e : EnvVar) : Json :=
  .ofPresent [("name", some (.string e.name)), ("value", e.value.map .string)]

/-- The desired state of a broker as a value. -/
def BrokerSpec.toJson (s : BrokerSpec) : Json :=
  .ofPresent [
    ("deploymentPlan", s.deploymentPlan.map DeploymentPlan.toJson),
    ("acceptors", Json.unlessEmpty (fun l => .array (l.map Acceptor.toJson)) s.acceptors),
    ("console", s.console.map Console.toJson),
    ("env", Json.unlessEmpty (fun l => .array (l.map EnvVar.toJson)) s.env),
    ("brokerProperties", Json.unlessEmpty .ofStrings s.brokerProperties)]

/-- The status of a broker as a value; the list of conditions is always there. -/
def BrokerStatus.toJson (s : BrokerStatus) : Json :=
  .ofFields [("conditions", .array (s.conditions.map Condition.toJson))]

namespace Broker

/-- A broker resource as a value, under its kind and API version. -/
def toJson (b : Broker) : Json :=
  .ofPresent [
    ("apiVersion", some (.string ObjectKind.broker.apiVersion)),
    ("kind", some (.string ObjectKind.broker.name)),
    ("metadata", some b.metadata.toJson),
    ("spec", some b.spec.toJson),
    ("status", b.status.map BrokerStatus.toJson)]

/-! ### What a broker asks for -/

/-- The broker resource with a name and a desired state. -/
def named (name : String) (spec : BrokerSpec) : Broker :=
  { metadata := { name := some name }, spec }

/-- The number of replicas, one if it is not set. -/
def replicas (b : Broker) : Int32 := (b.spec.deploymentPlan.bind (·.size)).getD 1

/-- The size of storage, if it is set. -/
def storageSize (b : Broker) : Option String :=
  (b.spec.deploymentPlan.bind (·.storage)).bind (·.size)

/-- The name of the pod of a replica. -/
def podName (b : Broker) (ordinal : Nat) : String := Label.brokerPod b.metadata.anyName ordinal

/-- The manifest of a broker resource, which needs a name. -/
def desired (b : Broker) : Except Failure Manifest :=
  (Manifest.ofBody b.toJson).map (·.asKind .broker)

end Broker

end BrokerHarness
