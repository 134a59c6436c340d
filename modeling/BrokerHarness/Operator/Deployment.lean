import BrokerHarness.ControlPlane
import BrokerHarness.Operator.Installation
import BrokerHarness.Text.Quoted

/-!
# Deploying and undeploying the operator

The operator is deployed once and undeployed once in the life of a controller; its phase tells how
far it got. A phase is entered before the requests that it stands for, so a failure in between
leaves the operator in the phase of the attempt, and an undeployment that failed can be repeated.

Deploying waits in two stages with a deadline each: until some candidate's deployment exists, which
settles the operator's name, and until that deployment is ready. Undeploying waits until the
deployment and its pods are gone, all of them at the same evaluation.
-/

namespace BrokerHarness

/-- How far the life of an operator got. -/
inductive OperatorPhase where
  /-- Nothing was applied yet. -/
  | notDeployed
  /-- A deployment was begun. -/
  | deploying
  /-- A deployment was completed. -/
  | deployed
  /-- An undeployment was begun. -/
  | undeploying
  /-- An undeployment was completed. -/
  | undeployed
deriving DecidableEq, Repr

/-- The text of a phase. -/
def OperatorPhase.text : OperatorPhase → String
  | notDeployed => "not deployed"
  | deploying => "deploying"
  | deployed => "deployed"
  | undeploying => "undeploying"
  | undeployed => "undeployed"

/-- Whether an operator can be undeployed: a deployment was begun, and no undeployment completed. -/
def OperatorPhase.canUndeploy : OperatorPhase → Bool
  | .deploying | .deployed | .undeploying => true
  | .notDeployed | .undeployed => false

/-- An operator under control: where it runs and what it is called, its install manifests as they
are applied, how far its life got, and the time between two evaluations and the deadline of each
stage in which it is waited for. -/
structure Operator where
  profile : OperatorProfile
  manifests : List Manifest
  phase : OperatorPhase
  pollInterval : Nat
  timeout : Nat

/-- An operation on an operator: it asks the control plane, changes the operator, and may fail. What
it changed before a failure stays changed. -/
abbrev OperatorM := ExceptT Failure (StateT Operator (Program controlPlane.timed))

namespace Operator

/-- The operator before its deployment, with its install manifests prepared. -/
def ofManifests (profile : OperatorProfile) (manifests : List Manifest) (settings : Settings) :
    Operator where
  profile := profile
  manifests := manifests.map (Installation.prepare profile)
  phase := .notDeployed
  pollInterval := settings.pollInterval
  timeout := settings.operatorTimeout

/-- An action that leaves the operator unchanged. -/
def perform {α : Type} (action : Action controlPlane.timed α) : OperatorM α :=
  ExceptT.mk fun operator => action.run.bind fun result => .done (result, operator)

/-- Puts the operator into a phase. -/
def enter (phase : OperatorPhase) : OperatorM Unit :=
  modify fun operator => { operator with phase }

/-- Keeps the name of the operator's deployment. -/
def keepName (name : String) : OperatorM Unit :=
  modify fun operator =>
    { operator with
      profile :=
        { operator.profile with resolver := operator.profile.resolver.keep name } }

/-- The namespace that the operator runs in. -/
def deploymentNamespace (operator : Operator) : String := operator.profile.deploymentNamespace

/-! ### Deploying -/

/-- Applies manifests in their order. -/
def applyAll : List Manifest → Action controlPlane Unit
  | [] => return ()
  | manifest :: rest => do
    let _ ← ControlPlane.apply manifest
    applyAll rest

/-- Looks for the operator's deployment under its possible names. -/
def existingDeployment (operator : Operator) : Action controlPlane (Finding String) := do
  let attempt := operator.profile.resolver.attempt.interpret fun name =>
    (ControlPlane.isPresent .deployment operator.deploymentNamespace name).run
  match ← attempt with
  | some name => return .reached name
  | none =>
    return .notYet
      ("none of " ++ Text.quotedList operator.profile.resolver.candidates ++ " exist")

/-- Waits until the operator's deployment exists under some name, which is the result. -/
def awaitExistence (operator : Operator) : Action controlPlane.timed String :=
  poll s!"waiting for operator deployment in {operator.deploymentNamespace} to exist"
    operator.pollInterval operator.timeout operator.existingDeployment

/-- The text of a generation that may be missing. -/
def generationText : Option Int64 → String
  | some generation => s!"Some({generation})"
  | none => "None"

/-- Whether the body of a deployment shows that its status is about its current generation and that
as many replicas are ready as are desired. A generation that the body does not have is not
behind. -/
def rollout (body : Json) : Finding Unit :=
  let observed := body.int64At? ["status", "observedGeneration"]
  let desired := (body.int64At? ["spec", "replicas"]).getD 1
  let ready := (body.int64At? ["status", "readyReplicas"]).getD 0
  let replicas := Finding.ofBool (desired ≤ ready) s!"readyReplicas {ready} of {desired}"
  match body.int64At? ["metadata", "generation"] with
  | none => replicas
  | some generation =>
    if observed.all (· < generation) then
      .notYet ("observedGeneration " ++ generationText observed ++
        s!" behind generation {generation}")
    else replicas

/-- Looks at the readiness of the operator's deployment. -/
def readyDeployment (operator : Operator) (name : String) :
    Action controlPlane (Finding Unit) := do
  match ← ControlPlane.get .deployment operator.deploymentNamespace name with
  | some snapshot => return rollout snapshot.body
  | none => return .notYet "deployment not found"

/-- Waits until the operator's deployment is ready. -/
def awaitReadiness (operator : Operator) (name : String) : Action controlPlane.timed Unit :=
  poll
    s!"waiting for operator deployment {operator.deploymentNamespace}/{name} to be ready"
    operator.pollInterval operator.timeout (operator.readyDeployment name)

/-- Applies the install manifests in their order, and waits until the operator is ready if asked to.
An operator can be deployed only once, before anything else. -/
def deploy (awaitReady : Bool) : OperatorM Unit := do
  let operator ← get
  if operator.phase = .notDeployed then
    enter .deploying
    perform (applyAll operator.manifests).timed
    if awaitReady then
      let name ← perform operator.awaitExistence
      keepName name
      perform (operator.awaitReadiness name)
    enter .deployed
  else throw (.wrongPhase "deploy" operator.phase.text)

/-! ### Undeploying -/

/-- Asks for the deletion of an object; that it is not there any more is no failure. -/
def deleteIfPresent (target : ObjectAddress) : Action controlPlane Unit :=
  tryCatch (ControlPlane.delete target) fun failure =>
    if failure.isNotFound then return () else throw failure

/-- Asks for the deletion of objects in their order. -/
def deleteAll : List ObjectAddress → Action controlPlane Unit
  | [] => return ()
  | target :: rest => do
    deleteIfPresent target
    deleteAll rest

/-- The names that have to be gone: the name that was found, or else every possible one. -/
def awaitedNames (operator : Operator) : List String :=
  match operator.profile.resolvedName with
  | some name => [name]
  | none => operator.profile.resolver.candidates

/-- Looks for deployments of the given names and for their pods, up to the first that is left. -/
def stoppedUnder (ns : String) : List String → Action controlPlane (Finding Unit)
  | [] => return .reached ()
  | name :: rest => do
    if ← ControlPlane.isPresent .deployment ns name then
      return .notYet s!"deployment {name} still present"
    else
      let pods ← ControlPlane.list .pod ns name
      if pods.isEmpty then stoppedUnder ns rest
      else return .notYet s!"{pods.length} pods of {name} remain"

/-- Waits until no deployment and no pod of the operator is left. -/
def awaitStopped (operator : Operator) : Action controlPlane.timed Unit :=
  poll s!"waiting for operator in {operator.deploymentNamespace} to stop"
    operator.pollInterval operator.timeout
    (stoppedUnder operator.deploymentNamespace operator.awaitedNames)

/-- Asks for the deletion of the objects of the install manifests, the last first, and waits until
the operator has stopped if asked to. -/
def undeploy (awaitRemoval : Bool) : OperatorM Unit := do
  let operator ← get
  if operator.phase.canUndeploy then
    enter .undeploying
    perform (deleteAll (operator.manifests.reverse.map Manifest.address)).timed
    if awaitRemoval then perform operator.awaitStopped
    enter .undeployed
  else throw (.wrongPhase "undeploy" operator.phase.text)

/-! ### The operator's pod -/

/-- Looks up the first pod whose name starts with the name of the operator's deployment. -/
def firstPod (operator : Operator) : Action controlPlane Snapshot := do
  match operator.profile.resolvedName with
  | none => throw (.wrongPhase "look up operator pod" operator.phase.text)
  | some name =>
    match ← ControlPlane.list .pod operator.deploymentNamespace name with
    | snapshot :: _ => return snapshot
    | [] =>
      throw (.notFound ObjectKind.pod.name operator.deploymentNamespace name)

end Operator

end BrokerHarness
