import BrokerHarness.Failure
import BrokerHarness.Json.Basic
import BrokerHarness.Object.Kind

/-!
# Manifests

A manifest is the desired state of one object: its body, as it is submitted, and the address that is
read from the body.
-/

namespace BrokerHarness

/-- The text at the end of a path in a body, which must be there and must not be empty. -/
def Json.nonEmptyAt (path : List String) (body : Json) : Except Failure String :=
  match body.stringAt? path with
  | some s => if s.isEmpty then .error (.badManifest (.missing path)) else .ok s
  | none => .error (.badManifest (.missing path))

/-- The desired state of one object: its address, and the body to be submitted. -/
structure Manifest where
  kind : ObjectKind
  scope : Option String
  name : String
  body : Json
deriving Repr

namespace Manifest

/-- Where a body tells its namespace. -/
def namespacePath : List String := ["metadata", "namespace"]

/-- The manifest with a body, addressed as the body says. -/
def ofBody (body : Json) : Except Failure Manifest := do
  let apiVersion ← body.nonEmptyAt ["apiVersion"]
  let kind ← body.nonEmptyAt ["kind"]
  let name ← body.nonEmptyAt ["metadata", "name"]
  return {
    kind := .ofApiVersion apiVersion kind
    scope := body.stringAt? namespacePath
    name, body }

/-- The manifest under a known kind, in place of one whose plural was guessed. -/
def asKind (manifest : Manifest) (kind : ObjectKind) : Manifest := { manifest with kind }

/-- The manifest placed in a namespace, in its address and in its body. -/
def movedTo (manifest : Manifest) (ns : String) : Manifest :=
  { manifest with
    scope := some ns
    body := manifest.body.modify "metadata" (·.insert "namespace" (.string ns)) }

/-- The address of the object. -/
def address (manifest : Manifest) : ObjectAddress :=
  { kind := manifest.kind, scope := manifest.scope, name := manifest.name }

/-- The desired state in the narrow sense, if the body has one. -/
def spec (manifest : Manifest) : Option Json := manifest.body.get? "spec"

end Manifest

end BrokerHarness
