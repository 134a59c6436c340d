import BrokerHarness.Json.Record
import Mathlib.Tactic.Common

/-!
# Records that are written and read back

A record is written by listing its members, each with its value or with nothing.  `Json.written` is
the value that a member has then, and `Json.record?_ofPresent` says that this is what is read of the
record.  So reading a written record goes through the members one after the other: each lemma on
`required`, `optional` and `withDefault` takes one member off the front of what is still to be read.

A member that may be null is told from a missing one only by its value, so what is written for a
value must not be null (`Json.RoundTrips`).
-/

namespace BrokerHarness.Json

variable {α β : Type}

/-! ### Values that are read back -/

/-- What is written for a value is not null, and is read as this value. -/
structure RoundTrips (read : Json → Option α) (write : α → Json) (a : α) : Prop where
  read_write : read (write a) = some a
  ne_null : write a ≠ .null

lemma roundTrips_string (s : String) : RoundTrips string? string s :=
  ⟨rfl, nofun⟩

lemma roundTrips_bool (b : Bool) : RoundTrips bool? bool b :=
  ⟨rfl, nofun⟩

lemma roundTrips_int32 (n : Int32) : RoundTrips int32? ofInt32 n :=
  ⟨int32?_ofInt32 n, nofun⟩

lemma roundTrips_int64 (n : Int64) : RoundTrips int64? ofInt64 n :=
  ⟨int64?_ofInt64 n, nofun⟩

/-- A list is read back if its items are. -/
lemma listOf?_array {read : Json → Option α} {write : α → Json} {l : List α}
    (h : ∀ a ∈ l, read (write a) = some a) : listOf? read (.array (l.map write)) = some l := by
  have hitems : (l.map write).mapM read = some l := by
    induction l with
    | nil => rfl
    | cons a l ih =>
      obtain ⟨ha, hl⟩ := List.forall_mem_cons.mp h
      rw [List.map_cons, List.mapM_cons, ha, ih hl]
      rfl
  exact hitems

/-- What is read from a value is read back, if everything that can be read from it is. -/
lemma bind_read_eq {read : Json → Option α} {write : α → Json} {v : Json}
    (h : ∀ a, read v = some a → read (write a) = some a) :
    ((read v).bind fun a => read (write a)) = read v := by
  cases hv : read v with
  | none => rfl
  | some a => rw [Option.bind_some, h a hv]

/-! ### Members of written records -/

/-- The value of a key among fields of which some have none: of several values the last counts. -/
def written (fields : List (String × Option Json)) (key : String) : Option Json :=
  fields.foldl (fun found field => if field.1 = key then field.2.or found else found) none

/-- Of a record the fields that are present are found. -/
lemma get?_ofPresent (key : String) (fields : List (String × Option Json)) :
    (ofPresent fields).get? key = written fields key := by
  have hfold : ∀ acc : List (String × Json),
      lookup key ((fields.filterMap fun field => field.2.map (field.1, ·)).foldl
          (fun acc field => insertField field.1 field.2 acc) acc) =
        fields.foldl (fun found field => if field.1 = key then field.2.or found else found)
          (lookup key acc) := by
    induction fields with
    | nil => exact fun _ => rfl
    | cons field fields ih =>
      intro acc
      obtain ⟨k, value⟩ := field
      cases value with
      | none => simpa using ih acc
      | some v =>
        refine (ih (insertField k v acc)).trans ?_
        by_cases hk : k = key
        · subst hk
          simp [lookup_insertField_self]
        · simp [hk, lookup_insertField_of_ne (Ne.symm hk)]
  exact hfold []

/-- Fields with values are fields of which none is missing. -/
lemma ofFields_eq_ofPresent (fields : List (String × Json)) :
    ofFields fields = ofPresent (fields.map fun field => (field.1, some field.2)) := by
  unfold ofPresent
  rw [List.filterMap_map]
  exact congrArg ofFields (List.filterMap_some (l := fields)).symm

/-- What is written of a record is read as that record. -/
lemma record?_ofPresent (names : List String) (fields : List (String × Option Json)) :
    (ofPresent fields).record? names = some (written fields) :=
  congrArg some (funext fun key => get?_ofPresent key fields)

/-- What is read of a written record is read of its written members. -/
lemma record?_ofPresent_bind (names : List String) (fields : List (String × Option Json))
    (next : Record Json → Option α) :
    ((ofPresent fields).record? names >>= next) = next (written fields) := by
  rw [record?_ofPresent]
  rfl

/-- A record is written as an object, also without a field. -/
lemma ofPresent_ne_null (fields : List (String × Option Json)) : ofPresent fields ≠ .null :=
  nofun

section Reading

variable {r : Record Json} {name : String} {read : Json → Option α} {write : α → Json}
  {v : Json} {next : α → Option β} {b : β}

/-- A member that must be there is read, and the rest of the record goes on with it. -/
lemma required_bind_eq (a : α) (hwritten : r name = some v) (hread : read v = some a)
    (hnext : next a = some b) :
    (r.required name read >>= next) = some b := by
  unfold Record.required
  rw [hwritten, Option.bind_some, hread]
  exact hnext

/-- A member that may be missing is written if it is there. -/
lemma optional_bind_eq {next : Option α → Option β} (a : Option α)
    (hwritten : r name = a.map write) (hread : ∀ x ∈ a, RoundTrips read write x)
    (hnext : next a = some b) : (r.optional name read >>= next) = some b := by
  have hmember : r.optional name read = some a := by
    unfold Record.optional
    rw [hwritten]
    cases a with
    | none => rfl
    | some x =>
      obtain ⟨hx, hnull⟩ := hread x rfl
      simp [hx]
  rw [hmember]
  exact hnext

/-- A member that may be null is written as null if it is not there. -/
lemma optional_orNull_bind_eq {next : Option α → Option β} (a : Option α)
    (hwritten : r name = some (orNull (a.map write))) (hread : ∀ x ∈ a, RoundTrips read write x)
    (hnext : next a = some b) : (r.optional name read >>= next) = some b := by
  have hmember : r.optional name read = some a := by
    unfold Record.optional
    rw [hwritten]
    cases a with
    | none => rfl
    | some x =>
      obtain ⟨hx, hnull⟩ := hread x rfl
      simp [orNull, hx]
  rw [hmember]
  exact hnext

/-- A member with a default is written unless it is the default. -/
lemma withDefault_bind_eq {default : α} (a : α) (isDefault : Bool)
    (hwritten : r name = if isDefault then none else some v)
    (hdefault : isDefault = true → default = a) (hread : read v = some a)
    (hnext : next a = some b) : (r.withDefault name default read >>= next) = some b := by
  have hmember : r.withDefault name default read = some a := by
    unfold Record.withDefault
    rw [hwritten]
    cases isDefault with
    | true => exact congrArg some (hdefault rfl)
    | false => exact hread
  rw [hmember]
  exact hnext

/-- A list is written unless it is empty. -/
lemma withDefault_nil_bind_eq {next : List α → Option β} (l : List α)
    (hwritten : r name = unlessEmpty (fun l => .array (l.map write)) l)
    (hitems : ∀ a ∈ l, read (write a) = some a) (hnext : next l = some b) :
    (r.withDefault name [] (listOf? read) >>= next) = some b :=
  withDefault_bind_eq l l.isEmpty hwritten (fun h => (List.isEmpty_iff.mp h).symm)
    (listOf?_array hitems) hnext

end Reading

end BrokerHarness.Json
