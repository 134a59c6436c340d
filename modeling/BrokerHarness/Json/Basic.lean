import BrokerHarness.Json.Number

/-!
# JSON values

The dynamic values that object bodies are made of. The fields of an object are kept in ascending
order of their keys, one for each key, so two objects with the same fields are the same value.
-/

namespace BrokerHarness

/-- A JSON value. -/
inductive Json where
  /-- The null value. -/
  | null
  /-- A truth value. -/
  | bool (value : Bool)
  /-- A number. -/
  | number (value : Json.Number)
  /-- A text. -/
  | string (value : String)
  /-- A list of values. -/
  | array (items : List Json)
  /-- Values by key, in ascending order of the keys. -/
  | object (fields : List (String × Json))
deriving Inhabited, Repr

namespace Json

/-! ### Equality -/

mutual

/-- Equality of values, by recursion on the first. -/
def same : Json → Json → Bool
  | .null, .null => true
  | .bool a, .bool b => a == b
  | .number a, .number b => decide (a = b)
  | .string a, .string b => a == b
  | .array as, .array bs => sameItems as bs
  | .object as, .object bs => sameFields as bs
  | _, _ => false

/-- Equality of lists of values. -/
def sameItems : List Json → List Json → Bool
  | [], [] => true
  | a :: as, b :: bs => same a b && sameItems as bs
  | _, _ => false

/-- Equality of lists of fields. -/
def sameFields : List (String × Json) → List (String × Json) → Bool
  | [], [] => true
  | (k, a) :: as, (l, b) :: bs => k == l && same a b && sameFields as bs
  | _, _ => false

end

instance : BEq Json := ⟨same⟩

mutual

/-- Values are the same if and only if they are equal. -/
theorem same_iff : (a b : Json) → (same a b = true ↔ a = b)
  | .null, b => by cases b <;> simp [same]
  | .bool _, b => by cases b <;> simp [same]
  | .number _, b => by cases b <;> simp [same]
  | .string _, b => by cases b <;> simp [same]
  | .array as, b => by
    cases b with
    | array bs => simp [same, sameItems_iff as bs]
    | _ => simp [same]
  | .object as, b => by
    cases b with
    | object bs => simp [same, sameFields_iff as bs]
    | _ => simp [same]

/-- Items are compared one by one. -/
theorem sameItems_iff : (as bs : List Json) → (sameItems as bs = true ↔ as = bs)
  | [], bs => by cases bs <;> simp [sameItems]
  | a :: as, [] => by simp [sameItems]
  | a :: as, b :: bs => by simp [sameItems, same_iff a b, sameItems_iff as bs]

/-- Fields are compared one by one, keys and values. -/
theorem sameFields_iff : (as bs : List (String × Json)) → (sameFields as bs = true ↔ as = bs)
  | [], bs => by cases bs <;> simp [sameFields]
  | (k, a) :: as, [] => by simp [sameFields]
  | (k, a) :: as, (l, b) :: bs => by
    simp [sameFields, same_iff a b, sameFields_iff as bs, and_assoc]

end

instance : DecidableEq Json := fun a b => decidable_of_iff _ (same_iff a b)

instance : LawfulBEq Json where
  eq_of_beq := (same_iff _ _).1
  rfl := (same_iff _ _).2 rfl

/-! ### Fields -/

/-- The value of a key among fields. -/
def lookup (key : String) : List (String × Json) → Option Json
  | [] => none
  | (k, v) :: rest => if k = key then some v else lookup key rest

/-- The fields with `value` under `key`: in place of the value that the key has, or else before the
first greater key. -/
def insertField (key : String) (value : Json) : List (String × Json) → List (String × Json)
  | [] => [(key, value)]
  | (k, v) :: rest =>
    if k = key then (key, value) :: rest
    else if key < k then (key, value) :: (k, v) :: rest
    else (k, v) :: insertField key value rest

/-- The fields without the one under `key`. -/
def eraseField (key : String) (fields : List (String × Json)) : List (String × Json) :=
  fields.filter fun field => field.1 ≠ key

/-- The fields with the value under `key` replaced by its image under `f`. -/
def modifyField (key : String) (f : Json → Json) : List (String × Json) → List (String × Json)
  | [] => []
  | (k, v) :: rest => if k = key then (k, f v) :: rest else (k, v) :: modifyField key f rest

/-- An inserted field is found. -/
theorem lookup_insertField_self (key : String) (value : Json) (fields : List (String × Json)) :
    lookup key (insertField key value fields) = some value := by
  induction fields with
  | nil => simp [insertField, lookup]
  | cons field rest ih =>
    rw [insertField]
    split
    · simp [lookup]
    · split
      · simp [lookup]
      · rename_i h _
        simp [lookup, h, ih]

/-- The other fields are found as before an insertion. -/
theorem lookup_insertField_of_ne {key other : String} (h : other ≠ key) (value : Json)
    (fields : List (String × Json)) :
    lookup other (insertField key value fields) = lookup other fields := by
  induction fields with
  | nil => simp [insertField, lookup, h.symm]
  | cons field rest ih =>
    rw [insertField]
    split
    · rename_i hk
      simp [lookup, hk, h.symm]
    · split
      · simp [lookup, h.symm]
      · simp [lookup, ih]

/-- An erased field is not found. -/
theorem lookup_eraseField_self (key : String) (fields : List (String × Json)) :
    lookup key (eraseField key fields) = none := by
  induction fields with
  | nil => rfl
  | cons field rest ih =>
    rw [eraseField, List.filter_cons]
    split
    · rename_i hk
      simp only [lookup, of_decide_eq_true hk, if_false]
      exact ih
    · exact ih

/-- The other fields are found as before an erasure. -/
theorem lookup_eraseField_of_ne {key other : String} (h : other ≠ key)
    (fields : List (String × Json)) :
    lookup other (eraseField key fields) = lookup other fields := by
  induction fields with
  | nil => rfl
  | cons field rest ih =>
    rw [eraseField, List.filter_cons]
    split
    · simp only [lookup]
      rw [← ih, eraseField]
    · rename_i hk
      have hk : field.1 = key := by simpa using hk
      rw [lookup, if_neg (by rw [hk]; exact h.symm), ← ih, eraseField]

/-- The given fields in the order of their keys; of several values for one key the last counts. -/
def sortFields (fields : List (String × Json)) : List (String × Json) :=
  fields.foldl (fun acc field => insertField field.1 field.2 acc) []

/-- The object with the given fields; of several values for one key the last counts. -/
def ofFields (fields : List (String × Json)) : Json := .object (sortFields fields)

/-- The object with those of the given fields that have a value. -/
def ofPresent (fields : List (String × Option Json)) : Json :=
  ofFields (fields.filterMap fun field => field.2.map (field.1, ·))

/-- The integer `n` as a value. -/
def int (n : Int) : Json := .number (.int n)

/-- An integer of 64 bits with sign as a value. -/
def ofInt64 (n : Int64) : Json := int n.toInt

/-- An integer of 32 bits with sign as a value. -/
def ofInt32 (n : Int32) : Json := int n.toInt

/-- The value itself, or null if there is none. -/
def orNull : Option Json → Json
  | some v => v
  | none => .null

/-! ### Views -/

/-- The value under a key of an object. -/
def get? (key : String) : Json → Option Json
  | .object fields => lookup key fields
  | _ => none

/-- The value at the end of a path of keys. -/
def at? : List String → Json → Option Json
  | [], v => some v
  | key :: path, v => (v.get? key).bind (at? path)

/-- The text that a value is. -/
def string? : Json → Option String
  | .string s => some s
  | _ => none

/-- The truth value that a value is. -/
def bool? : Json → Option Bool
  | .bool b => some b
  | _ => none

/-- The integer that a value is, if it lies between the bounds. -/
def intBetween? (least greatest : Int) : Json → Option Int
  | .number (.int n) => if least ≤ n ∧ n ≤ greatest then some n else none
  | _ => none

/-- The integer of 64 bits with sign that a value is. -/
def int64? (v : Json) : Option Int64 :=
  (v.intBetween? (-9223372036854775808) 9223372036854775807).map Int64.ofInt

/-- The integer of 32 bits with sign that a value is. -/
def int32? (v : Json) : Option Int32 :=
  (v.intBetween? (-2147483648) 2147483647).map Int32.ofInt

/-- Every number of 64 bits is read back. -/
theorem int64?_ofInt64 (n : Int64) : (ofInt64 n).int64? = some n := by
  have hl := n.le_toInt
  have hr := n.toInt_lt
  rw [ofInt64, int, int64?, intBetween?, if_pos (by omega), Option.map_some, Int64.ofInt_toInt]

/-- Every number of 32 bits is read back. -/
theorem int32?_ofInt32 (n : Int32) : (ofInt32 n).int32? = some n := by
  have hl := n.le_toInt
  have hr := n.toInt_lt
  rw [ofInt32, int, int32?, intBetween?, if_pos (by omega), Option.map_some, Int32.ofInt_toInt]

/-- The list that a value is. -/
def array? : Json → Option (List Json)
  | .array items => some items
  | _ => none

/-- The text at the end of a path of keys. -/
def stringAt? (path : List String) (v : Json) : Option String := (v.at? path).bind string?

/-- The integer of 64 bits with sign at the end of a path of keys. -/
def int64At? (path : List String) (v : Json) : Option Int64 := (v.at? path).bind int64?

/-! ### Changes -/

/-- An object with `value` under `key`; any other value unchanged. -/
def insert (v : Json) (key : String) (value : Json) : Json :=
  match v with
  | .object fields => .object (insertField key value fields)
  | v => v

/-- An object without the field under `key`; any other value unchanged. -/
def erase (key : String) : Json → Json
  | .object fields => .object (eraseField key fields)
  | v => v

/-- An object with the value under `key` replaced by its image; unchanged if there is none. -/
def modify (key : String) (f : Json → Json) : Json → Json
  | .object fields => .object (modifyField key f fields)
  | v => v

/-- The value with what stands at the end of a path of keys replaced by its image; unchanged if the
path leads nowhere. -/
def modifyAt : List String → (Json → Json) → Json → Json
  | [], f, v => f v
  | key :: path, f, v => v.modify key (modifyAt path f)

end Json

end BrokerHarness
