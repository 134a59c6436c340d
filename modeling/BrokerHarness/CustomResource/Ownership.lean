import BrokerHarness.Json.Document
import BrokerHarness.Timestamp.Printer
import BrokerHarness.Timestamp.Reader

/-!
# Owners and managers of objects

Object metadata tells which objects own an object, so that it goes when they go, and which clients
manage which of its fields. A text that an owner needs and that is missing or null is empty. Moments
in metadata have no fraction of a second.
-/

namespace BrokerHarness

/-- Reads a moment in metadata, to the second. -/
def Timestamp.ofDocument? (d : Json.Document) : Option Timestamp :=
  (d.read? fun v => v.string?.bind Timestamp.read?).map Timestamp.wholeSecond

/-- A moment as a value. -/
def Timestamp.toJson (t : Timestamp) : Json := .string t.text

/-- An object that owns another: its address and what tells it from others of its name, whether it
manages the object, and whether it stays until the object is removed. -/
structure OwnerReference where
  apiVersion : String
  kind : String
  name : String
  uid : String
  controller : Option Bool := none
  blockOwnerDeletion : Option Bool := none
deriving DecidableEq, Repr

namespace OwnerReference

/-- Reads an owner. -/
def ofDocument? (d : Json.Document) : Option OwnerReference := do
  let fields ← d.fields?
  let text (key : String) : Option String :=
    (Json.Document.last? fields key (·.read? Json.string?)).map (·.getD "")
  let flag (key : String) : Option (Option Bool) :=
    Json.Document.last? fields key (·.read? Json.bool?)
  return {
    apiVersion := ← text "apiVersion"
    kind := ← text "kind"
    name := ← text "name"
    uid := ← text "uid"
    controller := ← flag "controller"
    blockOwnerDeletion := ← flag "blockOwnerDeletion" }

/-- The owner as a value. -/
def toJson (o : OwnerReference) : Json :=
  .ofPresent [
    ("apiVersion", some (.string o.apiVersion)),
    ("kind", some (.string o.kind)),
    ("name", some (.string o.name)),
    ("uid", some (.string o.uid)),
    ("controller", o.controller.map .bool),
    ("blockOwnerDeletion", o.blockOwnerDeletion.map .bool)]

end OwnerReference

/-- The fields of an object that one client manages: the client, what it did and when, by which API
version and on which part of the object, and the fields in one of several forms. -/
structure ManagedFields where
  manager : Option String := none
  operation : Option String := none
  apiVersion : Option String := none
  time : Option Timestamp := none
  fieldsType : Option String := none
  fieldsV1 : Option Json := none
  subresource : Option String := none
deriving DecidableEq, Repr

namespace ManagedFields

/-- Reads what one client manages. -/
def ofDocument? (d : Json.Document) : Option ManagedFields := do
  let fields ← d.fields?
  let text (key : String) : Option (Option String) :=
    Json.Document.last? fields key (·.read? Json.string?)
  return {
    manager := ← text "manager"
    operation := ← text "operation"
    apiVersion := ← text "apiVersion"
    time := ← Json.Document.last? fields "time" Timestamp.ofDocument?
    fieldsType := ← text "fieldsType"
    fieldsV1 := ← Json.Document.last? fields "fieldsV1" Json.Document.value?
    subresource := ← text "subresource" }

/-- What one client manages as a value. -/
def toJson (m : ManagedFields) : Json :=
  .ofPresent [
    ("manager", m.manager.map .string),
    ("operation", m.operation.map .string),
    ("apiVersion", m.apiVersion.map .string),
    ("time", m.time.map Timestamp.toJson),
    ("fieldsType", m.fieldsType.map .string),
    ("fieldsV1", m.fieldsV1),
    ("subresource", m.subresource.map .string)]

end ManagedFields

end BrokerHarness
