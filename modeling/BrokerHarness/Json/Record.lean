import BrokerHarness.Json.Basic

/-!
# Records as JSON values

A record is an object with a field for each of its members, or a list that holds the members in the
order of their declaration and may end early. Members that no record declares are passed over in an
object. The readers of this module fail with `none` on a value of the wrong shape.
-/

namespace BrokerHarness.Json

/-- The members of a record by name, which are values or parts of a document. -/
abbrev Record (Part : Type) := String → Option Part

/-- The members `names` of a record, from an object by name or from a list by position. A list with
more items than the record has members is no record. -/
def record? (names : List String) : Json → Option (Record Json)
  | .object fields => some fun name => lookup name fields
  | .array items =>
    if items.length ≤ names.length then some fun name => items[names.idxOf name]? else none
  | _ => none

/-- Reads a member that must be there. -/
def Record.required {Part α : Type} (r : Record Part) (name : String) (read : Part → Option α) :
    Option α :=
  (r name).bind read

/-- Reads a member that has a value of its own when it is missing. -/
def Record.withDefault {Part α : Type} (r : Record Part) (name : String) (value : α)
    (read : Part → Option α) : Option α :=
  match r name with
  | none => some value
  | some v => read v

/-- Reads a member that may be missing or null. -/
def Record.optional {α : Type} (r : Record Json) (name : String) (read : Json → Option α) :
    Option (Option α) :=
  match r name with
  | none => some none
  | some .null => some none
  | some v => (read v).map some

/-- Reads a list item by item. -/
def listOf? {α : Type} (read : Json → Option α) (v : Json) : Option (List α) :=
  v.array?.bind fun items => items.mapM read

/-- The list of texts as a value. -/
def ofStrings (l : List String) : Json := .array (l.map .string)

/-- A list, or nothing if it is empty. -/
def unlessEmpty {α : Type} (write : List α → Json) (l : List α) : Option Json :=
  if l.isEmpty then none else some (write l)

end BrokerHarness.Json
