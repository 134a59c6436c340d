import BrokerHarness.Object.Snapshot

/-!
# Resources

A resource is what a test holds of a namespaced object: its state at one moment, of which the
test may edit the spec before it submits the object again. It never changes behind the test's back.
-/

namespace BrokerHarness

/-- A namespaced object as it was at one moment, with a spec to be edited. Its conditions, the
number of its desired state and its body are those of that moment. -/
structure Resource where
  kind : ObjectKind
  ns : String
  name : String
  spec : Json
  conditions : List Condition
  generation : Option Int64
  body : Json
deriving Repr

namespace Resource

/-- The resource that a snapshot shows. -/
def ofSnapshot (snapshot : Snapshot) : Except Failure Resource :=
  match snapshot.scope with
  | none => .error (.badManifest (.notNamespaced snapshot.kind.name snapshot.name))
  | some ns => do
    let conditions ← snapshot.statusConditions
    return {
      kind := snapshot.kind
      ns
      name := snapshot.name
      spec := .orNull snapshot.spec
      conditions
      generation := snapshot.generation
      body := snapshot.body }

/-- The resource with another spec. -/
def withSpec (resource : Resource) (spec : Json) : Resource := { resource with spec }

/-- The spec as a typed structure. -/
def typedSpec {α : Type} (read : Json → Option α) (resource : Resource) : Except Failure α :=
  match read resource.spec with
  | some a => .ok a
  | none => .error (.malformed resource.spec.render)

/-- The address of the object. -/
def address (resource : Resource) : ObjectAddress :=
  { kind := resource.kind, scope := some resource.ns, name := resource.name }

/-- The metadata that only the cluster writes. -/
def serverFields : List String :=
  ["resourceVersion", "uid", "generation", "creationTimestamp", "managedFields"]

/-- The desired object: the body with the current spec, without status and without the metadata that
only the cluster writes. -/
def desired (resource : Resource) : Manifest where
  kind := resource.kind
  scope := some resource.ns
  name := resource.name
  body :=
    (((resource.body.erase "status").insert "spec" resource.spec).modify "metadata")
      fun metadata => serverFields.foldl (fun acc field => acc.erase field) metadata

end Resource

end BrokerHarness
