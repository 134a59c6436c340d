import BrokerHarness.Condition.Basic
import BrokerHarness.Json.Printer
import BrokerHarness.Object.Manifest

/-!
# Snapshots

A snapshot is the state of one object as the control plane showed it at one moment.
-/

namespace BrokerHarness

/-- The observed state of one object, under the kind that it was asked for. The generation is the
number of its desired state, which grows with every change of it. -/
structure Snapshot where
  kind : ObjectKind
  scope : Option String
  name : String
  generation : Option Int64
  body : Json
deriving Repr

namespace Snapshot

/-- The snapshot of a body under a kind. -/
def ofBody (kind : ObjectKind) (body : Json) : Except Failure Snapshot := do
  let name ← body.nonEmptyAt ["metadata", "name"]
  return {
    kind, name, body
    scope := body.stringAt? Manifest.namespacePath
    generation := body.int64At? ["metadata", "generation"] }

/-- The conditions that the status of the object lists, none before a status is written. -/
def statusConditions (snapshot : Snapshot) : Except Failure (List Condition) :=
  match snapshot.body.at? ["status", "conditions"] with
  | none => .ok []
  | some .null => .ok []
  | some v =>
    match v.listOf? Condition.ofJson? with
    | some conditions => .ok conditions
    | none => .error (.malformed v.render)

/-- The desired state in the narrow sense, if the body has one. -/
def spec (snapshot : Snapshot) : Option Json := snapshot.body.get? "spec"

/-- The address of the object. -/
def address (snapshot : Snapshot) : ObjectAddress :=
  { kind := snapshot.kind, scope := snapshot.scope, name := snapshot.name }

end Snapshot

end BrokerHarness
