import BrokerHarness.Json.Document

/-!
# Maps of texts

Labels, annotations and resource amounts are texts by key. A map holds one text for each key, in
ascending order of the keys, so maps with the same texts are equal, and writing a map and reading it
back gives the same map.
-/

namespace BrokerHarness

/-- Texts by key, in ascending order of the keys. -/
structure TextMap where
  entries : List (String × String) := []
  ascending : entries.Pairwise fun a b => a.1 < b.1 := by exact List.Pairwise.nil
deriving DecidableEq, Repr

namespace TextMap

/-! ### Building maps -/

/-- Entries with one more, in place of the one that has its key, or else before the first that has a
greater one. -/
def insertEntry (key value : String) : List (String × String) → List (String × String)
  | [] => [(key, value)]
  | e :: rest =>
    if key < e.1 then (key, value) :: e :: rest
    else if e.1 < key then e :: insertEntry key value rest
    else (key, value) :: rest

/-- An inserted entry is the only new one. -/
theorem mem_insertEntry {key value : String} {l : List (String × String)} {e : String × String}
    (h : e ∈ insertEntry key value l) : e = (key, value) ∨ e ∈ l := by
  induction l with
  | nil => exact Or.inl (List.mem_singleton.1 h)
  | cons a rest ih =>
    rw [insertEntry] at h
    split at h
    · exact List.mem_cons.1 h
    · split at h
      · rcases List.mem_cons.1 h with rfl | h
        · exact Or.inr List.mem_cons_self
        · exact (ih h).imp_right (List.mem_cons_of_mem a)
      · exact (List.mem_cons.1 h).imp_right (List.mem_cons_of_mem a)

/-- Inserting keeps the order. -/
theorem insertEntry_ascending (key value : String) {l : List (String × String)}
    (h : l.Pairwise fun a b => a.1 < b.1) :
    (insertEntry key value l).Pairwise fun a b => a.1 < b.1 := by
  induction l with
  | nil => exact List.pairwise_singleton ..
  | cons a rest ih =>
    obtain ⟨ha, hrest⟩ := List.pairwise_cons.1 h
    rw [insertEntry]
    split
    · next hlt =>
      refine List.pairwise_cons.2 ⟨fun b hb => ?_, h⟩
      rcases List.mem_cons.1 hb with rfl | hb
      · exact hlt
      · exact String.lt_trans hlt (ha b hb)
    · next hle =>
      split
      · next hlt =>
        refine List.pairwise_cons.2 ⟨fun b hb => ?_, ih hrest⟩
        rcases mem_insertEntry hb with rfl | hb
        · exact hlt
        · exact ha b hb
      · next hge =>
        have heq : a.1 = key := String.le_antisymm (String.not_lt.1 hle) (String.not_lt.1 hge)
        exact List.pairwise_cons.2 ⟨fun b hb => heq ▸ ha b hb, hrest⟩

/-- The map without texts. -/
def empty : TextMap := {}

/-- The map with a text under a key. -/
def insert (m : TextMap) (key value : String) : TextMap :=
  ⟨insertEntry key value m.entries, insertEntry_ascending key value m.ascending⟩

/-- The map of a list of keys and texts; of several texts for one key the last counts. -/
def ofList (l : List (String × String)) : TextMap := l.foldl (fun m e => m.insert e.1 e.2) empty

/-- Whether a map holds no text. -/
def isEmpty (m : TextMap) : Bool := m.entries.isEmpty

/-- A key behind all others is inserted at the end. -/
theorem insertEntry_eq_append {key value : String} {l : List (String × String)}
    (h : ∀ e ∈ l, e.1 < key) : insertEntry key value l = l ++ [(key, value)] := by
  induction l with
  | nil => rfl
  | cons a rest ih =>
    have ha : a.1 < key := h a List.mem_cons_self
    rw [insertEntry, if_neg (String.lt_asymm ha), if_pos ha,
      ih fun e he => h e (List.mem_cons_of_mem a he)]
    rfl

/-- Inserting ascending entries behind all others appends them. -/
theorem entries_foldl_insert (l : List (String × String)) (m : TextMap)
    (h : (m.entries ++ l).Pairwise fun a b => a.1 < b.1) :
    (l.foldl (fun m e => m.insert e.1 e.2) m).entries = m.entries ++ l := by
  induction l generalizing m with
  | nil => exact (List.append_nil _).symm
  | cons a rest ih =>
    have hlast : (m.insert a.1 a.2).entries = m.entries ++ [a] :=
      insertEntry_eq_append fun e he => (List.pairwise_append.1 h).2.2 e he a List.mem_cons_self
    rw [List.foldl_cons, ih _ (by rw [hlast, List.append_assoc]; exact h), hlast,
      List.append_assoc]
    rfl

/-- A map is the map of its entries. -/
theorem ofList_entries (m : TextMap) : ofList m.entries = m := by
  have h : (ofList m.entries).entries = m.entries :=
    entries_foldl_insert m.entries empty m.ascending
  cases m
  cases hl : ofList _
  simp_all

/-! ### Maps as values -/

/-- Reads one field, whose value has to be a text. -/
def entry? (field : String × Json) : Option (String × String) :=
  field.2.string?.map fun text => (field.1, text)

/-- Reads a map: an object whose values are texts. -/
def ofJson? : Json → Option TextMap
  | .object fields => (fields.mapM entry?).map ofList
  | _ => none

/-- Reads a map as it is written: each of the fields has to hold a text, also one whose key comes
again. -/
def ofDocument? (d : Json.Document) : Option TextMap := do
  let fields ← d.fields?
  let entries ← fields.mapM fun field => (field.2.read? Json.string?).map (field.1, ·)
  return ofList entries

/-- The map as a value. -/
def toJson (m : TextMap) : Json := .object (m.entries.map fun e => (e.1, .string e.2))

/-- The map as a value, or nothing if it is empty. -/
def toJsonUnlessEmpty (m : TextMap) : Option Json := if m.isEmpty then none else some m.toJson

/-- Entries that are written as fields are read back as themselves. -/
theorem mapM_entry? (l : List (String × String)) :
    (l.map fun e => (e.1, Json.string e.2)).mapM entry? = some l := by
  induction l with
  | nil => rfl
  | cons e rest ih =>
    rw [List.map_cons, List.mapM_cons, ih]
    rfl

/-- A value is read as a map in the same way as the document that it is written as. -/
theorem ofDocument?_ofJson (v : Json) : ofDocument? (.ofJson v) = ofJson? v := by
  cases v with
  | object fields =>
    rw [ofDocument?, Json.Document.fields?_ofJson_object, ofJson?, Option.bind_eq_bind,
      Option.bind_some]
    have h : (fields.map fun field => (field.1, Json.Document.ofJson field.2)).mapM
        (fun field => (field.2.read? Json.string?).map (field.1, ·)) = fields.mapM entry? := by
      induction fields with
      | nil => rfl
      | cons field rest ih =>
        rw [List.map_cons, List.mapM_cons, List.mapM_cons, ih, Json.Document.read?_string?_ofJson]
        rfl
    rw [h]
    cases fields.mapM entry? <;> rfl
  | _ => rfl

/-- A map that is written is read back as itself. -/
theorem ofJson?_toJson (m : TextMap) : ofJson? m.toJson = some m := by
  rw [toJson, ofJson?, mapM_entry?, Option.map_some, ofList_entries]

end TextMap

end BrokerHarness
