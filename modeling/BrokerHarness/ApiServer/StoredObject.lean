import BrokerHarness.ApiServer.Status
import BrokerHarness.CustomResource.Metadata

/-!
# Objects as the API server stores them

An object of any kind on its way to or from the API server: its metadata is typed, everything else
is kept as it is. Metadata that has no place in `ObjectMetadata` is therefore lost on the way. The
marks of the type, `apiVersion` and `kind`, are kept as a pair of texts only.
-/

namespace BrokerHarness

/-- An object of any kind: its metadata, and all other fields. -/
structure StoredObject where
  metadata : ObjectMetadata
  rest : List (String × Json)
deriving Repr

namespace StoredObject

/-- Looks for the marks of the type among fields, in the order in which they are written. Returns
the marks, and the fields without them. The first mark that is no text or comes again ends the
search without a result; the marks up to there are taken away, and the fields behind it are left. -/
def takeMarks (found : List (String × String)) :
    List (String × Json) → Option (List (String × String)) × List (String × Json)
  | [] => (some found, [])
  | (key, v) :: rest =>
    if key = "apiVersion" ∨ key = "kind" then
      match v, found.lookup key with
      | .string text, none => takeMarks ((key, text) :: found) rest
      | _, _ => (none, rest)
    else
      let (marks, others) := takeMarks found rest
      (marks, (key, v) :: others)

/-- Fields without incomplete marks of the type: both marks stay, or none of those that were
looked at. -/
def withoutPartialType (fields : List (String × Json)) : List (String × Json) :=
  match takeMarks [] fields with
  | (some [a, b], others) => (a.1, .string a.2) :: (b.1, .string b.2) :: others
  | (_, others) => others

/-- Reads an object as it is written. Metadata may be missing, but not be written twice. Every other
field has to denote a value. -/
def ofDocument? (d : Json.Document) : Option StoredObject := do
  let fields ← d.fields?
  let r ← Json.Document.members? ["metadata"] fields
  let metadata ← r.withDefault "metadata" {} ObjectMetadata.ofDocument?
  let others ← Json.Document.otherValues? ["metadata"] fields
  return { metadata, rest := Json.sortFields (withoutPartialType others) }

/-- Reads an object from a value. -/
def ofJson? (v : Json) : Option StoredObject := ofDocument? (.ofJson v)

/-- The object as a value. -/
def toJson (object : StoredObject) : Json :=
  .object (Json.insertField "metadata" object.metadata.toJson object.rest)

/-- The object at a version, or for a first writing if there is none. -/
def atVersion (object : StoredObject) (version : Option String) : StoredObject :=
  { object with metadata := { object.metadata with resourceVersion := version } }

/-- Whether the name of an object starts with a text. -/
def isNamedFrom (stem : String) (object : StoredObject) : Bool :=
  object.metadata.name.any (Text.startsWith stem)

/-- Whether a document has the form of the metadata of a list. -/
def isListMetadata (d : Json.Document) : Bool :=
  Option.isSome do
    let fields ← d.fields?
    let _ ← Json.Document.last? fields "continue" Json.Document.string?
    let _ ← Json.Document.last? fields "remainingItemCount" (·.read? Json.int64?)
    let _ ← Json.Document.last? fields "resourceVersion" Json.Document.string?
    Json.Document.last? fields "selfLink" Json.Document.string?

/-- Reads the items of a list of objects; null is the empty list. -/
def list? (d : Json.Document) : Option (List StoredObject) := do
  let fields ← d.fields?
  let r ← Json.Document.members? ["metadata", "items"] fields
  let _ ← Json.Document.otherValues? ["metadata", "items"] fields
  let _ ← r.withDefault "metadata" () (StatusObject.formOf isListMetadata)
  let items ← r.required "items" (Json.Document.orNull? (Json.Document.listOf? ofDocument?))
  return items.getD []

/-- Whether a document is an answer to a deletion: a status object, or else the object. It has to
denote a value, which tells which of both. -/
def isDeletionAnswer (d : Json.Document) : Bool :=
  match d.value? with
  | some v =>
    if v.get? "kind" = some (.string "Status") then StatusObject.isStatus d
    else (ofDocument? d).isSome
  | none => false

end StoredObject

end BrokerHarness
