import BrokerHarness.CustomResource.Ownership
import BrokerHarness.CustomResource.TextMap

/-!
# Object metadata

The typed metadata of objects. Reading drops every other field; writing omits what is missing, but
keeps maps and lists that are empty. Where a field is written more than once, each of the places has
to be readable, and the last counts.
-/

namespace BrokerHarness

/-- The metadata of an object. The version of the stored object changes with every write, and the
generation with every change of the desired state. An object that is to be removed has the time of
its deletion, and stays until all of its finalizers agree. -/
structure ObjectMetadata where
  name : Option String := none
  generateName : Option String := none
  ns : Option String := none
  labels : Option TextMap := none
  annotations : Option TextMap := none
  uid : Option String := none
  resourceVersion : Option String := none
  generation : Option Int64 := none
  finalizers : Option (List String) := none
  ownerReferences : Option (List OwnerReference) := none
  managedFields : Option (List ManagedFields) := none
  creationTimestamp : Option Timestamp := none
  deletionTimestamp : Option Timestamp := none
  deletionGracePeriodSeconds : Option Int64 := none
  selfLink : Option String := none
deriving DecidableEq, Repr

namespace ObjectMetadata

/-- Reads metadata as it is written, which has to be an object. -/
def ofDocument? (d : Json.Document) : Option ObjectMetadata := do
  let fields ← d.fields?
  let text (key : String) : Option (Option String) :=
    Json.Document.last? fields key (·.read? Json.string?)
  let texts (key : String) : Option (Option TextMap) :=
    Json.Document.last? fields key TextMap.ofDocument?
  let number (key : String) : Option (Option Int64) :=
    Json.Document.last? fields key (·.read? Json.int64?)
  let time (key : String) : Option (Option Timestamp) :=
    Json.Document.last? fields key Timestamp.ofDocument?
  return {
    name := ← text "name"
    generateName := ← text "generateName"
    ns := ← text "namespace"
    labels := ← texts "labels"
    annotations := ← texts "annotations"
    uid := ← text "uid"
    resourceVersion := ← text "resourceVersion"
    generation := ← number "generation"
    finalizers :=
      ← Json.Document.last? fields "finalizers" (·.read? (Json.listOf? Json.string?))
    ownerReferences :=
      ← Json.Document.last? fields "ownerReferences"
        (Json.Document.listOf? OwnerReference.ofDocument?)
    managedFields :=
      ← Json.Document.last? fields "managedFields" (Json.Document.listOf? ManagedFields.ofDocument?)
    creationTimestamp := ← time "creationTimestamp"
    deletionTimestamp := ← time "deletionTimestamp"
    deletionGracePeriodSeconds := ← number "deletionGracePeriodSeconds"
    selfLink := ← text "selfLink" }

/-- Reads metadata from a value. -/
def ofJson? (v : Json) : Option ObjectMetadata := ofDocument? (.ofJson v)

/-- The metadata as a value. -/
def toJson (m : ObjectMetadata) : Json :=
  .ofPresent [
    ("name", m.name.map .string),
    ("generateName", m.generateName.map .string),
    ("namespace", m.ns.map .string),
    ("labels", m.labels.map TextMap.toJson),
    ("annotations", m.annotations.map TextMap.toJson),
    ("uid", m.uid.map .string),
    ("resourceVersion", m.resourceVersion.map .string),
    ("generation", m.generation.map .ofInt64),
    ("finalizers", m.finalizers.map .ofStrings),
    ("ownerReferences", m.ownerReferences.map fun l => .array (l.map OwnerReference.toJson)),
    ("managedFields", m.managedFields.map fun l => .array (l.map ManagedFields.toJson)),
    ("creationTimestamp", m.creationTimestamp.map Timestamp.toJson),
    ("deletionTimestamp", m.deletionTimestamp.map Timestamp.toJson),
    ("deletionGracePeriodSeconds", m.deletionGracePeriodSeconds.map .ofInt64),
    ("selfLink", m.selfLink.map .string)]

/-- The name of the object, or else what its name will start with, or else nothing. -/
def anyName (m : ObjectMetadata) : String := (m.name.orElse fun _ => m.generateName).getD ""

end ObjectMetadata

end BrokerHarness
