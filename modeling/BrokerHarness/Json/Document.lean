import BrokerHarness.Json.Record

/-!
# JSON texts as they are written

A *document* is what a JSON text says before it is taken as a value: the fields of an object stand
in the order in which they are written, a key may be repeated, and parts may follow the grammar
without denoting a value. Whoever reads a document decides what becomes of these. A value takes the
last of the fields with one key and has no unreadable part.
-/

namespace BrokerHarness

/-- What a JSON text says. -/
inductive Json.Document where
  /-- The null value. -/
  | null
  /-- A truth value. -/
  | bool (value : Bool)
  /-- A number. -/
  | number (value : Json.Number)
  /-- A text. -/
  | string (value : String)
  /-- A list. -/
  | array (items : List Json.Document)
  /-- Fields in the order in which they are written. A key is missing if it denotes no text. -/
  | object (fields : List (Option String × Json.Document))
  /-- A part that denotes no value: a text with half of a surrogate pair, a number that is too
  great, a list or an object that is nested too deeply. -/
  | unreadable
deriving Inhabited, Repr

namespace Json.Document

/-! ### Documents and values -/

mutual

/-- The value that a document denotes, if all of its parts denote one. -/
def value? : Document → Option Json
  | .null => some .null
  | .bool b => some (.bool b)
  | .number n => some (.number n)
  | .string s => some (.string s)
  | .array items => (itemValues? items).map .array
  | .object fields => (fieldValues? fields).map ofFields
  | .unreadable => none

/-- The values of the items of a list. -/
def itemValues? : List Document → Option (List Json)
  | [] => some []
  | d :: items => do return (← value? d) :: (← itemValues? items)

/-- The values of fields, with their keys. -/
def fieldValues? : List (Option String × Document) → Option (List (String × Json))
  | [] => some []
  | (key, d) :: fields => do return (← key, ← value? d) :: (← fieldValues? fields)

end

mutual

/-- The document that a value is written as. -/
def ofJson : Json → Document
  | .null => .null
  | .bool b => .bool b
  | .number n => .number n
  | .string s => .string s
  | .array items => .array (ofItems items)
  | .object fields => .object (ofFieldList fields)

/-- The documents of the items of a list. -/
def ofItems : List Json → List Document
  | [] => []
  | v :: items => ofJson v :: ofItems items

/-- The documents of fields. -/
def ofFieldList : List (String × Json) → List (Option String × Document)
  | [] => []
  | (key, v) :: fields => (some key, ofJson v) :: ofFieldList fields

end

/-! ### Views -/

/-- Reads a document that has to denote a value. -/
def read? {α : Type} (read : Json → Option α) (d : Document) : Option α := d.value?.bind read

/-- The text that a document is. -/
def string? : Document → Option String
  | .string s => some s
  | _ => none

/-- Reads a document that may be null. -/
def orNull? {α : Type} (read : Document → Option α) : Document → Option (Option α)
  | .null => some none
  | d => (read d).map some

/-- Reads a list item by item. -/
def listOf? {α : Type} (read : Document → Option α) : Document → Option (List α)
  | .array items => items.mapM read
  | _ => none

/-- A field whose key denotes a text. -/
abbrev Field := String × Document

/-- The fields of an object, all keys of which have to denote texts. -/
def fields? : Document → Option (List Field)
  | .object fields => fields.mapM fun (key, d) => key.map (·, d)
  | _ => none

/-- The documents of fields are made one by one. -/
theorem ofFieldList_eq_map (fields : List (String × Json)) :
    ofFieldList fields = fields.map fun field => (some field.1, ofJson field.2) := by
  induction fields with
  | nil => rfl
  | cons field rest ih => rw [ofFieldList, ih, List.map_cons]

/-- The fields of the document that an object is written as are the fields of the object. -/
theorem fields?_ofJson_object (fields : List (String × Json)) :
    (ofJson (.object fields)).fields? =
      some (fields.map fun field => (field.1, ofJson field.2)) := by
  rw [ofJson, ofFieldList_eq_map, fields?]
  induction fields with
  | nil => rfl
  | cons field rest ih =>
    rw [List.map_cons, List.mapM_cons, ih]
    rfl

/-- A value is written as a text if and only if it is one. -/
theorem read?_string?_ofJson (v : Json) : (ofJson v).read? Json.string? = v.string? := by
  cases v with
  | array items =>
    cases h : itemValues? (ofItems items) <;> simp [ofJson, read?, value?, h, Json.string?]
  | object fields =>
    cases h : fieldValues? (ofFieldList fields) <;>
      simp [ofJson, read?, value?, h, ofFields, Json.string?]
  | _ => rfl

/-- What stands under a key, in the order in which it is written. -/
def occurrences (key : String) (fields : List Field) : List Document :=
  (fields.filter fun field => field.1 = key).map Prod.snd

/-- Reads what stands under a key, which may be missing or null. All of it has to be readable, and
the last counts. -/
def last? {α : Type} (fields : List Field) (key : String) (read : Document → Option α) :
    Option (Option α) :=
  ((occurrences key fields).mapM (orNull? read)).map fun found => found.getLast?.join

/-- Whether a key stands among fields more than once. -/
def isRepeated (key : String) (fields : List Field) : Bool := 1 < (occurrences key fields).length

/-- The members with the given names among fields, none of which is repeated. -/
def members? (names : List String) (fields : List Field) : Option (Record Document) :=
  if names.any fun name => isRepeated name fields then none
  else some fun name => (occurrences name fields).head?

/-- The values of the fields whose keys are not among the given names, all of which have to denote
one. -/
def otherValues? (names : List String) (fields : List Field) : Option (List (String × Json)) :=
  (fields.filter fun field => ¬ names.contains field.1).mapM fun field =>
    field.2.value?.map (field.1, ·)

/-- The members `names` of a record, from an object by name or from a list by position. No member
stands in an object twice, and a list has no more items than the record has members. -/
def record? (names : List String) : Document → Option (Record Document)
  | .array items =>
    if items.length ≤ names.length then some fun name => items[names.idxOf name]? else none
  | d => d.fields?.bind (members? names)

end Json.Document

end BrokerHarness
