import BrokerHarness.Object.Snapshot
import BrokerHarness.Polling

/-!
# The control plane

The requests that the operations ask of a cluster: applying and deleting objects, and looking them
up by name or by the start of their names. Every answer may be a failure.
-/

namespace BrokerHarness

/-- A request to the control plane of a cluster. -/
inductive ControlPlaneRequest where
  /-- Creates the object, or replaces it as a whole. -/
  | apply (manifest : Manifest)
  /-- Asks for the deletion of the object. -/
  | delete (target : ObjectAddress)
  /-- Looks an object up by its name. -/
  | get (kind : ObjectKind) (ns name : String)
  /-- Lists the objects whose names start with `stem`. -/
  | list (kind : ObjectKind) (ns stem : String)

/-- The answers of the control plane. An applied object is answered as it is stored. -/
def ControlPlaneRequest.Answer : ControlPlaneRequest → Type
  | apply _ => Except Failure Snapshot
  | delete _ => Except Failure Unit
  | get .. => Except Failure (Option Snapshot)
  | list .. => Except Failure (List Snapshot)

/-- The control plane of a cluster. -/
def controlPlane : Interface := ⟨ControlPlaneRequest, ControlPlaneRequest.Answer⟩

namespace ControlPlane

/-- Creates an object, or replaces it as a whole. -/
def apply (manifest : Manifest) : Action controlPlane Snapshot :=
  ExceptT.mk (Program.request (I := controlPlane) (.apply manifest))

/-- Asks for the deletion of an object. -/
def delete (target : ObjectAddress) : Action controlPlane Unit :=
  ExceptT.mk (Program.request (I := controlPlane) (.delete target))

/-- Looks an object up by its name. -/
def get (kind : ObjectKind) (ns name : String) : Action controlPlane (Option Snapshot) :=
  ExceptT.mk (Program.request (I := controlPlane) (.get kind ns name))

/-- Lists the objects whose names start with `stem`. -/
def list (kind : ObjectKind) (ns stem : String) : Action controlPlane (List Snapshot) :=
  ExceptT.mk (Program.request (I := controlPlane) (.list kind ns stem))

/-- Whether an object is on the cluster. -/
def isPresent (kind : ObjectKind) (ns name : String) : Action controlPlane Bool := do
  return (← get kind ns name).isSome

/-- The status conditions of an object, if it is on the cluster. -/
def statusConditions (kind : ObjectKind) (ns name : String) :
    Action controlPlane (Option (List Condition)) := do
  match ← get kind ns name with
  | none => return none
  | some snapshot => some <$> Action.ofExcept snapshot.statusConditions

end ControlPlane

end BrokerHarness
