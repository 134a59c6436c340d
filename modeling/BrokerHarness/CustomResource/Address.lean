import BrokerHarness.CustomResource.Metadata
import BrokerHarness.Object.Manifest

/-!
# Broker addresses

The typed form of the resource that declares an address and its queue on the brokers of a namespace.
-/

namespace BrokerHarness

/-- The desired state of a broker address: its name, the queue at it, whether messages go to one or
to all of the consumers, and whether the address goes from the brokers with the resource. -/
structure AddressSpec where
  addressName : String
  queueName : Option String := none
  routingType : Option String := none
  removeFromBrokerOnDelete : Option Bool := none
deriving DecidableEq, Repr

/-- A broker address resource. -/
structure BrokerAddress where
  metadata : ObjectMetadata
  spec : AddressSpec
deriving DecidableEq, Repr

namespace AddressSpec

/-- Reads the desired state of a broker address. -/
def ofJson? (v : Json) : Option AddressSpec := do
  let r ← v.record? ["addressName", "queueName", "routingType", "removeFromBrokerOnDelete"]
  return {
    addressName := ← r.required "addressName" Json.string?
    queueName := ← r.optional "queueName" Json.string?
    routingType := ← r.optional "routingType" Json.string?
    removeFromBrokerOnDelete := ← r.optional "removeFromBrokerOnDelete" Json.bool? }

/-- The desired state of a broker address as a value. -/
def toJson (s : AddressSpec) : Json :=
  .ofPresent [
    ("addressName", some (.string s.addressName)),
    ("queueName", s.queueName.map .string),
    ("routingType", s.routingType.map .string),
    ("removeFromBrokerOnDelete", s.removeFromBrokerOnDelete.map .bool)]

end AddressSpec

namespace BrokerAddress

/-- Reads a broker address resource. -/
def ofJson? (v : Json) : Option BrokerAddress := do
  let r ← v.record? ["metadata", "spec"]
  return {
    metadata := ← r.required "metadata" ObjectMetadata.ofJson?
    spec := ← r.required "spec" AddressSpec.ofJson? }

/-- A broker address resource as a value, under its kind and API version. -/
def toJson (a : BrokerAddress) : Json :=
  .ofFields [
    ("apiVersion", .string ObjectKind.brokerAddress.apiVersion),
    ("kind", .string ObjectKind.brokerAddress.name),
    ("metadata", a.metadata.toJson),
    ("spec", a.spec.toJson)]

/-- The manifest of a broker address resource, which needs a name. -/
def desired (a : BrokerAddress) : Except Failure Manifest :=
  (Manifest.ofBody a.toJson).map (·.asKind .brokerAddress)

end BrokerAddress

end BrokerHarness
