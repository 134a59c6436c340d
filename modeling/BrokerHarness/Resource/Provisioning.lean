import BrokerHarness.Condition.Expectation
import BrokerHarness.ControlPlane
import BrokerHarness.Label
import BrokerHarness.Resource.Basic
import BrokerHarness.Resource.Quantity
import BrokerHarness.Settings

/-!
# Creating, updating and watching resources

A resource is *ready* when its conditions `Deployed` and `Ready` both hold. A generation that the
status, or one of these conditions, was reported for must not be behind the object's: an update is
not taken for ready on what was reported about the spec before it.

A change of storage size does not reach volume claims that exist already. An update reports the
claims of the broker whose size is now another than the spec's, and changes none of them.
-/

namespace BrokerHarness

/-- How to wait behind a creation or an update: whether to wait until the resource is ready, and the
deadline, if not the one of the settings. -/
structure WaitOptions where
  awaitReady : Bool := true
  timeout : Option Nat := none
deriving DecidableEq, Repr

/-- What an update leads to: the resource behind it, and the names of the claims whose size is
another than the spec's. -/
structure Update where
  resource : Resource
  unresizedClaims : List String
deriving Repr

/-- How resources are brought onto a cluster: the time between two looks at a resource, and the
deadlines for a resource that is created or updated to get ready. -/
structure Provisioning where
  pollInterval : Nat
  readyTimeout : Nat
  updateTimeout : Nat
deriving DecidableEq, Repr

/-- The provisioning that the settings ask for. -/
def Provisioning.ofSettings (settings : Settings) : Provisioning where
  pollInterval := settings.pollInterval
  readyTimeout := settings.readyTimeout
  updateTimeout := settings.updateTimeout

/-! ### Readiness -/

namespace Readiness

/-- Whether what was observed for one generation is behind another; a missing one is not. -/
def isBehind (observed current : Option Int64) : Option (Int64 × Int64) :=
  match observed, current with
  | some o, some c => if o < c then some (o, c) else none
  | _, _ => none

/-- The conditions that a ready resource has to meet. -/
def requiredTypes : List String := ["Deployed", "Ready"]

/-- Why conditions do not show a resource of a generation as ready, if they do not: the first
required type that is not met, or is met by a condition that was reported for an older
generation. -/
def missing (generation : Option Int64) (conditions : List Condition) : List String → Option String
  | [] => none
  | type :: rest =>
    match ({ type } : Expectation).judge conditions with
    | .matched c =>
      match isBehind c.observedGeneration generation with
      | some (o, g) => some (c.text ++ s!" observed generation {o}, current {g}")
      | none => missing generation conditions rest
    | _ => some (Condition.listText conditions)

/-- The finding whether a snapshot shows a ready resource. -/
def observe (snapshot : Snapshot) : Except Failure (Finding Snapshot) :=
  match isBehind (snapshot.body.int64At? ["status", "observedGeneration"]) snapshot.generation with
  | some (o, g) => .ok (.notYet s!"status observed generation {o}, current {g}")
  | none => do
    let conditions ← snapshot.statusConditions
    match missing snapshot.generation conditions requiredTypes with
    | some text => return .notYet text
    | none => return .reached snapshot

end Readiness

namespace Provisioning

/-- Looks at the readiness of an object. -/
def observeReadiness (kind : ObjectKind) (ns name : String) :
    Action controlPlane (Finding Snapshot) := do
  match ← ControlPlane.get kind ns name with
  | some snapshot => Action.ofExcept (Readiness.observe snapshot)
  | none => return .notYet "object not found"

/-- Waits until an object that was applied is ready, and gives the snapshot that shows it. -/
def awaitReadiness (provisioning : Provisioning) (applied : Snapshot) (timeout : Nat) :
    Action controlPlane.timed Snapshot :=
  let ns := applied.scope.getD ""
  poll s!"waiting for {applied.kind.name} {ns}/{applied.name} to be ready"
    provisioning.pollInterval timeout (observeReadiness applied.kind ns applied.name)

/-- Applies a manifest and waits, if asked to, until the object is ready. -/
def submit (provisioning : Provisioning) (manifest : Manifest) (options : WaitOptions)
    (defaultTimeout : Nat) : Action controlPlane.timed Snapshot := do
  let applied ← (ControlPlane.apply manifest).timed
  if options.awaitReady then
    provisioning.awaitReadiness applied (options.timeout.getD defaultTimeout)
  else return applied

/-! ### Operations -/

/-- Creates an object in a namespace. -/
def create (provisioning : Provisioning) (ns : String) (manifest : Manifest)
    (options : WaitOptions) : Action controlPlane.timed Resource := do
  let snapshot ← provisioning.submit (manifest.movedTo ns) options provisioning.readyTimeout
  Action.ofExcept (Resource.ofSnapshot snapshot)

/-- The size of storage that a broker's spec asks for. -/
def storageSize? (body : Json) : Option String :=
  body.stringAt? ["spec", "deploymentPlan", "storage", "size"]

/-- Whether a claim asks for another size than the given one. A claim that asks for none does
not. -/
def hasOtherSize (desired : String) (claim : Snapshot) : Bool :=
  match claim.body.stringAt? ["spec", "resources", "requests", "storage"] with
  | some size => ¬ Quantity.same size desired
  | none => false

/-- The claims of a broker whose size is another than the spec's. -/
def unresizedClaims (snapshot : Snapshot) : Action controlPlane (List String) :=
  if snapshot.kind ≠ ObjectKind.broker then return []
  else
    match storageSize? snapshot.body with
    | none => return []
    | some desired => do
      let claims ← ControlPlane.list .persistentVolumeClaim (snapshot.scope.getD "")
        (Label.volumeClaimStem snapshot.name)
      return (claims.filter (hasOtherSize desired)).map Snapshot.name

/-- Replaces an object by the resource with its current spec. -/
def update (provisioning : Provisioning) (resource : Resource) (options : WaitOptions) :
    Action controlPlane.timed Update := do
  let snapshot ← provisioning.submit resource.desired options provisioning.updateTimeout
  let unresizedClaims ← (unresizedClaims snapshot).timed
  let resource ← Action.ofExcept (Resource.ofSnapshot snapshot)
  return { resource, unresizedClaims }

/-- Asks for the deletion of an object, and does not wait for its end. -/
def delete (resource : Resource) : Action controlPlane Unit :=
  ControlPlane.delete resource.address

/-- Looks at the resource again. -/
def refresh (resource : Resource) : Action controlPlane Resource := do
  match ← ControlPlane.get resource.kind resource.ns resource.name with
  | some snapshot => Action.ofExcept (Resource.ofSnapshot snapshot)
  | none => throw (.notFound resource.kind.name resource.ns resource.name)

/-- Looks for a condition of a resource that is as expected. -/
def observeCondition (resource : Resource) (expected : Expectation) :
    Action controlPlane (Finding Condition) := do
  match ← ControlPlane.statusConditions resource.kind resource.ns resource.name with
  | none => return .notYet "object not found"
  | some conditions =>
    match expected.judge conditions with
    | .matched condition => return .reached condition
    | .mismatch condition => return .notYet condition.text
    | .absent =>
      return .notYet s!"no {expected.type} condition ({Condition.listText conditions})"

/-- Waits until the resource reports a condition as expected, which is the result. -/
def requireCondition (provisioning : Provisioning) (resource : Resource)
    (expected : Expectation) (timeout : Nat) : Action controlPlane.timed Condition :=
  poll
    (s!"waiting for {resource.kind.name} {resource.ns}/{resource.name} to report " ++ expected.text)
    provisioning.pollInterval timeout (observeCondition resource expected)

/-- Waits until the resource reports a condition as expected. That the deadline passed before is the
result `false`; every other failure fails the operation. -/
def awaitCondition (provisioning : Provisioning) (resource : Resource)
    (expected : Expectation) (timeout : Nat) : Action controlPlane.timed Bool :=
  tryCatch
    (do
      let _ ← provisioning.requireCondition resource expected timeout
      return true)
    fun failure => if failure.isDeadlinePassed then return false else throw failure

/-- Looks whether the resource is gone. -/
def observeRemoval (resource : Resource) : Action controlPlane (Finding Unit) := do
  let present ← ControlPlane.isPresent resource.kind resource.ns resource.name
  return .ofBool (!present) "still present"

/-- Waits until the resource is gone. -/
def awaitRemoval (provisioning : Provisioning) (resource : Resource) (timeout : Nat) :
    Action controlPlane.timed Unit :=
  poll s!"waiting for {resource.kind.name} {resource.ns}/{resource.name} to be removed"
    provisioning.pollInterval timeout (observeRemoval resource)

/-- Lists dependent objects by the start of their names. -/
def listByStem (kind : ObjectKind) (ns stem : String) : Action controlPlane (List Snapshot) :=
  ControlPlane.list kind ns stem

end Provisioning

end BrokerHarness
