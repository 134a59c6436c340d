import BrokerHarness.ControlPlane

/-!
# Object stores

A store holds objects by kind, namespace and name, one under each key, in the order of the keys.
-/

namespace BrokerHarness

/-- Where a store holds an object: by the name of its kind, its namespace, which is empty for an
object of the whole cluster, and its name. -/
structure StoreKey where
  kind : String
  ns : String
  name : String
deriving DecidableEq, Repr

namespace StoreKey

/-- The order of keys: by kind, then by namespace, then by name. -/
def before (a b : StoreKey) : Bool :=
  if a.kind ≠ b.kind then decide (a.kind < b.kind)
  else if a.ns ≠ b.ns then decide (a.ns < b.ns)
  else decide (a.name < b.name)

/-- The text of a key: kind, namespace and name. -/
def text (key : StoreKey) : String := s!"{key.kind} {key.ns}/{key.name}"

/-- The key that a body tells; what it does not tell counts as empty. -/
def ofBody (body : Json) : StoreKey where
  kind := (body.stringAt? ["kind"]).getD ""
  ns := (body.stringAt? Manifest.namespacePath).getD ""
  name := (body.stringAt? ["metadata", "name"]).getD ""

/-- The key of an address. -/
def ofAddress (target : ObjectAddress) : StoreKey :=
  ⟨target.kind.name, target.scope.getD "", target.name⟩

end StoreKey

/-- An object in a store, under the kind that it was stored under. -/
structure StoreEntry where
  key : StoreKey
  kind : ObjectKind
  body : Json
deriving Repr

namespace StoreEntry

/-- The entry for a body alone, whose kind is the one that the body tells. -/
def ofBody (body : Json) : StoreEntry where
  key := .ofBody body
  kind :=
    .ofApiVersion ((body.stringAt? ["apiVersion"]).getD "") ((body.stringAt? ["kind"]).getD "")
  body := body

/-- What a look at the entry shows. -/
def snapshot (entry : StoreEntry) : Except Failure Snapshot :=
  Snapshot.ofBody entry.kind entry.body

end StoreEntry

/-- A store of objects, in the order of their keys. -/
structure Store where
  entries : List StoreEntry := []
deriving Repr

namespace Store

/-- The object under a key. -/
def get? (store : Store) (key : StoreKey) : Option StoreEntry :=
  store.entries.find? (·.key = key)

/-- Entries with one more, in place of the one that has its key, or else before the first that has a
greater one. -/
def insertEntry (entry : StoreEntry) : List StoreEntry → List StoreEntry
  | [] => [entry]
  | e :: rest =>
    if e.key = entry.key then entry :: rest
    else if entry.key.before e.key then entry :: e :: rest
    else e :: insertEntry entry rest

/-- The store with an object put in. -/
def put (store : Store) (entry : StoreEntry) : Store :=
  { entries := insertEntry entry store.entries }

/-- The store without the object under a key. -/
def remove (store : Store) (key : StoreKey) : Store :=
  { entries := store.entries.filter (·.key ≠ key) }

/-- The store with the body under a key, if there is one, replaced by its image. -/
def modify (store : Store) (key : StoreKey) (f : Json → Json) : Store :=
  { entries := store.entries.map fun e => if e.key = key then { e with body := f e.body } else e }

/-- What is put into a store is found there. -/
theorem get?_put_self (store : Store) (entry : StoreEntry) :
    (store.put entry).get? entry.key = some entry := by
  rw [get?, put]
  induction store.entries with
  | nil => simp [insertEntry]
  | cons e rest ih =>
    rw [insertEntry]
    split
    · simp
    · split
      · simp
      · rename_i h _
        simp [h, ih]

/-- What is under other keys is found as before. -/
theorem get?_put_of_ne {store : Store} {entry : StoreEntry} {key : StoreKey}
    (h : key ≠ entry.key) : (store.put entry).get? key = store.get? key := by
  rw [get?, get?, put]
  induction store.entries with
  | nil => simp [insertEntry, h.symm]
  | cons e rest ih =>
    rw [insertEntry]
    split
    · rename_i he
      simp [he, h.symm]
    · split
      · simp [h.symm]
      · by_cases hk : e.key = key <;> simp_all

/-- What is removed from a store is not found any more. -/
theorem get?_remove_self (store : Store) (key : StoreKey) : (store.remove key).get? key = none := by
  simp [get?, remove]

/-- What is under other keys is not removed. -/
theorem get?_remove_of_ne {store : Store} {key other : StoreKey} (h : other ≠ key) :
    (store.remove key).get? other = store.get? other := by
  rw [get?, get?, remove]
  induction store.entries with
  | nil => rfl
  | cons e rest ih =>
    by_cases hk : e.key = key
    · simp_all [h.symm]
    · by_cases ho : e.key = other <;> simp_all

/-- The objects of a kind in a namespace whose names start with `stem`, in their order. -/
def named (store : Store) (kind ns stem : String) : List StoreEntry :=
  store.entries.filter fun e =>
    e.key.kind = kind && e.key.ns = ns && Text.startsWith stem e.key.name

end Store

end BrokerHarness
