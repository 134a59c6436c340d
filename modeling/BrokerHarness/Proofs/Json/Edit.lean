import BrokerHarness.Json.Basic
import Mathlib.Tactic.Common

/-!
# Laws of changes

How the changes of a value (`insert`, `erase`, `modify`, `modifyAt`) meet each other and the views.
A change that is made twice is made once, and changes under different keys can be made in either
order.  Both are equalities of values and not only of what is seen under the keys.

None of the laws asks for fields that are in order: a new field finds its place by the keys alone,
and the other changes keep the keys of the fields that stay (`insertField_modifyField_of_ne`).
-/

namespace BrokerHarness.Json

variable {key other : String} {value value' : Json} {fields : List (String × Json)}
  {f g : Json → Json} {v : Json}

/-! ### Fields -/

/-- A field that is changed has the changed value, if it is there. -/
lemma lookup_modifyField_self :
    lookup key (modifyField key f fields) = (lookup key fields).map f := by
  induction fields with
  | nil => rfl
  | cons field rest ih =>
    obtain ⟨k, v⟩ := field
    by_cases hk : k = key
    · simp [modifyField, lookup, hk]
    · simpa [modifyField, lookup, hk] using ih

/-- Changing a field leaves the other fields alone. -/
lemma lookup_modifyField_of_ne (h : other ≠ key) :
    lookup other (modifyField key f fields) = lookup other fields := by
  induction fields with
  | nil => rfl
  | cons field rest ih =>
    obtain ⟨k, v⟩ := field
    by_cases hk : k = key
    · subst hk
      simp [modifyField, lookup, h.symm]
    · simp only [modifyField, lookup, hk, if_false, ih]

/-- Of two values of a field the last one counts. -/
lemma insertField_insertField :
    insertField key value' (insertField key value fields) = insertField key value' fields := by
  induction fields with
  | nil => simp [insertField]
  | cons field rest ih =>
    obtain ⟨k, v⟩ := field
    by_cases hk : k = key
    · simp [insertField, hk]
    · by_cases hlt : key < k
      · simp [insertField, hk, hlt]
      · simp [insertField, hk, hlt, ih]

/-- The place of a new field is found by the keys alone. -/
lemma insertField_modifyField_of_ne (h : key ≠ other) :
    insertField key value (modifyField other f fields) =
      modifyField other f (insertField key value fields) := by
  induction fields with
  | nil => simp [insertField, modifyField, h]
  | cons field rest ih =>
    obtain ⟨k, v⟩ := field
    by_cases hother : k = other
    · subst hother
      by_cases hlt : key < k <;> simp [insertField, modifyField, hlt, h, h.symm]
    · by_cases hk : k = key
      · simp [insertField, modifyField, hk, h]
      · by_cases hlt : key < k
        · simp [insertField, modifyField, hother, hk, hlt, h]
        · simp [insertField, modifyField, hother, hk, hlt, ih]

/-- Two changes of one field are one change. -/
lemma modifyField_modifyField :
    modifyField key g (modifyField key f fields) = modifyField key (fun v => g (f v)) fields := by
  induction fields with
  | nil => rfl
  | cons field rest ih =>
    obtain ⟨k, v⟩ := field
    by_cases hk : k = key <;> simp [modifyField, hk, ih]

/-- Changes of different fields may be made in either order. -/
lemma modifyField_comm_of_ne (h : key ≠ other) :
    modifyField key f (modifyField other g fields) =
      modifyField other g (modifyField key f fields) := by
  induction fields with
  | nil => rfl
  | cons field rest ih =>
    obtain ⟨k, v⟩ := field
    by_cases hk : k = key
    · subst hk
      simp [modifyField, h]
    · by_cases hother : k = other <;> simp [modifyField, hk, hother, h.symm, ih]

/-- Only what a change does to the value of the field counts. -/
lemma modifyField_congr (h : ∀ v, lookup key fields = some v → f v = g v) :
    modifyField key f fields = modifyField key g fields := by
  induction fields with
  | nil => rfl
  | cons field rest ih =>
    obtain ⟨k, v⟩ := field
    by_cases hk : k = key
    · have hv : f v = g v := h v (by simp [lookup, hk])
      simp [modifyField, hk, hv]
    · have hrest : modifyField key f rest = modifyField key g rest :=
        ih fun v hv => h v (by simpa [lookup, hk] using hv)
      simp [modifyField, hk, hrest]

/-- A field that is not there is not missed. -/
lemma eraseField_eq_self (h : lookup key fields = none) : eraseField key fields = fields := by
  induction fields with
  | nil => rfl
  | cons field rest ih =>
    obtain ⟨k, v⟩ := field
    by_cases hk : k = key
    · simp [lookup, hk] at h
    · have hrest : eraseField key rest = rest := ih (by simpa [lookup, hk] using h)
      simpa [eraseField, List.filter_cons, hk] using hrest

/-! ### What is seen behind a change -/

/-- Only objects have something under a key. -/
lemma exists_fields_of_get? (h : v.get? key = some value) : ∃ fields, v = .object fields := by
  cases v with
  | object fields => exact ⟨fields, rfl⟩
  | _ => cases h

/-- Only an object has a text below a key. -/
lemma exists_fields_of_stringAt? {path : List String} {text : String}
    (h : v.stringAt? (key :: path) = some text) : ∃ fields, v = .object fields := by
  obtain ⟨found, hfound, -⟩ := Option.bind_eq_some_iff.mp h
  obtain ⟨value, hvalue, -⟩ := Option.bind_eq_some_iff.mp hfound
  exact exists_fields_of_get? hvalue

/-- What stands under a key of a member. -/
lemma at?_pair (outer inner : String) (v : Json) :
    v.at? [outer, inner] = (v.get? outer).bind fun w => w.get? inner := by
  refine Option.bind_congr fun w _ => ?_
  cases h : w.get? inner <;> simp [at?, h]

@[simp] lemma get?_insert_self (fields : List (String × Json)) :
    ((object fields).insert key value).get? key = some value :=
  lookup_insertField_self key value fields

/-- Inserting a field leaves the other fields alone. -/
lemma get?_insert_of_ne (h : other ≠ key) : (v.insert key value).get? other = v.get? other := by
  cases v with
  | object fields => exact lookup_insertField_of_ne h value fields
  | _ => rfl

@[simp] lemma get?_erase_self : (v.erase key).get? key = none := by
  cases v with
  | object fields => exact lookup_eraseField_self key fields
  | _ => rfl

/-- Erasing a field leaves the other fields alone. -/
lemma get?_erase_of_ne (h : other ≠ key) : (v.erase key).get? other = v.get? other := by
  cases v with
  | object fields => exact lookup_eraseField_of_ne h fields
  | _ => rfl

@[simp] lemma get?_modify_self : (v.modify key f).get? key = (v.get? key).map f := by
  cases v with
  | object fields => exact lookup_modifyField_self
  | _ => rfl

/-- Changing a field leaves the other fields alone. -/
lemma get?_modify_of_ne (h : other ≠ key) : (v.modify key f).get? other = v.get? other := by
  cases v with
  | object fields => exact lookup_modifyField_of_ne h
  | _ => rfl

/-- Erasing fields one after the other leaves exactly the others. -/
lemma get?_foldl_erase (keys : List String) (v : Json) :
    (keys.foldl (fun acc key => acc.erase key) v).get? other =
      if other ∈ keys then none else v.get? other := by
  induction keys generalizing v with
  | nil => simp
  | cons key keys ih =>
    rw [List.foldl_cons, ih]
    by_cases hkey : other = key
    · simp [hkey]
    · simp [hkey, get?_erase_of_ne hkey]

/-- A change at a path changes what is found there. -/
lemma at?_modifyAt (path : List String) : (v.modifyAt path f).at? path = (v.at? path).map f := by
  induction path generalizing v with
  | nil => rfl
  | cons key path ih =>
    rw [modifyAt, at?, at?, get?_modify_self]
    cases v.get? key with
    | none => rfl
    | some w => exact ih

/-! ### Two changes -/

/-- Of two values that are inserted under one key the last one counts. -/
lemma insert_insert : (v.insert key value).insert key value' = v.insert key value' := by
  cases v with
  | object fields => exact congrArg object insertField_insertField
  | _ => rfl

/-- An insertion and a change of another field may be made in either order. -/
lemma insert_modify_of_ne (h : key ≠ other) :
    (v.modify other f).insert key value = (v.insert key value).modify other f := by
  cases v with
  | object fields => exact congrArg object (insertField_modifyField_of_ne h)
  | _ => rfl

/-- Two changes under one key are one change. -/
lemma modify_modify : (v.modify key f).modify key g = v.modify key fun w => g (f w) := by
  cases v with
  | object fields => exact congrArg object modifyField_modifyField
  | _ => rfl

/-- Changes under different keys may be made in either order. -/
lemma modify_comm_of_ne (h : key ≠ other) :
    (v.modify other g).modify key f = (v.modify key f).modify other g := by
  cases v with
  | object fields => exact congrArg object (modifyField_comm_of_ne h)
  | _ => rfl

/-- Only what a change does to the value under the key counts. -/
lemma modify_congr (h : ∀ w, v.get? key = some w → f w = g w) :
    v.modify key f = v.modify key g := by
  cases v with
  | object fields => exact congrArg object (modifyField_congr h)
  | _ => rfl

/-- Two changes at one path are one change. -/
lemma modifyAt_modifyAt (path : List String) :
    (v.modifyAt path f).modifyAt path g = v.modifyAt path fun w => g (f w) := by
  induction path generalizing v with
  | nil => rfl
  | cons key path ih =>
    rw [modifyAt, modifyAt, modify_modify, modifyAt]
    exact modify_congr fun w _ => ih

/-! ### Changes that change nothing -/

/-- Erasing a field that is not there changes nothing. -/
lemma erase_eq_self (h : v.get? key = none) : v.erase key = v := by
  cases v with
  | object fields => exact congrArg object (eraseField_eq_self h)
  | _ => rfl

/-- Erasing fields that are not there changes nothing. -/
lemma foldl_erase_eq_self {keys : List String} (h : ∀ key ∈ keys, v.get? key = none) :
    keys.foldl (fun acc key => acc.erase key) v = v := by
  induction keys with
  | nil => rfl
  | cons key keys ih =>
    obtain ⟨hkey, hkeys⟩ := List.forall_mem_cons.mp h
    rw [List.foldl_cons, erase_eq_self hkey]
    exact ih hkeys

end BrokerHarness.Json
