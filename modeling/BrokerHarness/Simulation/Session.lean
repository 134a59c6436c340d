import BrokerHarness.Operator.Deployment
import BrokerHarness.Resource.Provisioning
import BrokerHarness.Simulation.Cluster

/-!
# Sessions on a simulated cluster

A session runs the operations of a test suite on a simulated cluster: an operator may be deployed
and undeployed, and resources are created, watched and deleted. A resource is kept in a slot, by
name, and later steps use what the slot holds. A step that fails leaves the slots as they were.
-/

namespace BrokerHarness

/-- A session on a simulated cluster, perhaps about an operator, with the resources that it keeps,
the latest of a slot first. -/
structure Session where
  cluster : SimulatedCluster
  provisioning : Provisioning
  operator : Option Operator
  slots : List (String × Resource) := []

/-- What to do with the resource of a slot. -/
inductive SlotStep where
  /-- Give it another spec. -/
  | withSpec (spec : Json)
  /-- Submit it again. -/
  | update (options : WaitOptions)
  /-- Ask for its deletion. -/
  | delete
  /-- Look at it again. -/
  | refresh
  /-- Wait for a condition, and tell whether it was met. -/
  | awaitCondition (expected : Expectation) (timeout : Nat)
  /-- Wait for a condition, which has to be met. -/
  | requireCondition (expected : Expectation) (timeout : Nat)
  /-- Wait until it is gone. -/
  | awaitRemoval (timeout : Nat)

/-- One step of a session. -/
inductive SessionStep where
  /-- Deploy the operator. -/
  | deploy (awaitReady : Bool)
  /-- Undeploy the operator. -/
  | undeploy (awaitRemoval : Bool)
  /-- Look up the operator's pod. -/
  | operatorPod
  /-- Show the operator's profile. -/
  | profile
  /-- Let time pass. -/
  | sleep (time : Nat)
  /-- Change what the cluster holds. -/
  | change (change : ClusterChange)
  /-- Show a body that the cluster holds. -/
  | body (key : StoreKey)
  /-- Show where the cluster holds objects. -/
  | keys
  /-- List objects by the start of their names. -/
  | list (kind : ObjectKind) (ns stem : String)
  /-- Keep an object that is on the cluster in a slot. -/
  | adopt (slot : String) (kind : ObjectKind) (ns name : String)
  /-- Create an object and keep it in a slot. -/
  | create (slot ns : String) (body : Json) (options : WaitOptions)
  /-- Do something with the resource of a slot. -/
  | onSlot (slot : String) (step : SlotStep)

/-- What a step that does not fail shows. -/
inductive StepOutcome where
  /-- Nothing but that it was done. -/
  | done
  /-- The session has no operator. -/
  | noOperator
  /-- The slot is empty. -/
  | emptySlot
  /-- The object is not on the cluster. -/
  | absent
  /-- The state of an object. -/
  | snapshot (snapshot : Snapshot)
  /-- The states of objects. -/
  | snapshots (snapshots : List Snapshot)
  /-- An operator's profile. -/
  | profile (profile : OperatorProfile)
  /-- A body, if the cluster holds it. -/
  | body (body : Option Json)
  /-- Where the cluster holds objects. -/
  | keys (keys : List StoreKey)
  /-- A resource. -/
  | resource (resource : Resource)
  /-- What an update leads to. -/
  | update (outcome : Update)
  /-- Whether a condition was met. -/
  | met (holds : Bool)
  /-- The condition that was met. -/
  | condition (condition : Condition)

namespace Session

variable {α : Type}

/-- The session at its start. -/
def start (settings : Settings) (operator : Option Operator) (cluster : SimulatedCluster) :
    Session where
  cluster := cluster
  provisioning := .ofSettings settings
  operator := operator

/-- The resource of a slot. -/
def slot? (session : Session) (slot : String) : Option Resource :=
  (session.slots.find? (·.1 = slot)).map Prod.snd

/-- The session with a resource kept in a slot. -/
def keep (session : Session) (slot : String) (resource : Resource) : Session :=
  { session with slots := (slot, resource) :: session.slots }

/-- Runs an action on the cluster, and goes on with its result unless it fails. -/
def perform (session : Session) (action : Action controlPlane.timed α)
    (next : α → Session → StepOutcome × Session) : Except Failure StepOutcome × Session :=
  match session.cluster.run action with
  | (.error failure, cluster) => (.error failure, { session with cluster })
  | (.ok a, cluster) =>
    let (outcome, session) := next a { session with cluster }
    (.ok outcome, session)

/-- Runs an operation of the operator on the cluster. -/
def performOnOperator (session : Session) (operator : Operator) (operation : OperatorM Unit) :
    Except Failure StepOutcome × Session :=
  let ((result, operator), cluster) :=
    (operation.run operator).runWith SimulatedCluster.answer session.cluster
  (result.map fun () => .done, { session with cluster, operator := some operator })

/-- Keeps a resource in a slot and shows it. -/
def showKept (slot : String) (resource : Resource) (session : Session) :
    StepOutcome × Session :=
  (.resource resource, session.keep slot resource)

/-- One step with the operator. -/
def operatorStep (session : Session) (step : Operator → Except Failure StepOutcome × Session) :
    Except Failure StepOutcome × Session :=
  match session.operator with
  | some operator => step operator
  | none => (.ok .noOperator, session)

/-- Looks an object up as a resource. -/
def find (kind : ObjectKind) (ns name : String) : Action controlPlane (Option Resource) := do
  match ← ControlPlane.get kind ns name with
  | some snapshot => some <$> Action.ofExcept (Resource.ofSnapshot snapshot)
  | none => return none

/-- Keeps the resource that was found in a slot, if one was found. -/
def showFound (slot : String) : Option Resource → Session → StepOutcome × Session
  | some resource, session => showKept slot resource session
  | none, session => (.absent, session)

/-- Creates an object from a body that has to be a manifest. -/
def createFrom (session : Session) (ns : String) (body : Json) (options : WaitOptions) :
    Action controlPlane.timed Resource := do
  let manifest ← Action.ofExcept (Manifest.ofBody body)
  session.provisioning.create ns manifest options

/-- One step with the resource of a slot. -/
def slotStep (session : Session) (slot : String) (resource : Resource) :
    SlotStep → Except Failure StepOutcome × Session
  | .withSpec spec =>
    let (outcome, session) := showKept slot (resource.withSpec spec) session
    (.ok outcome, session)
  | .update options =>
    session.perform (session.provisioning.update resource options) fun outcome session =>
      (.update outcome, session.keep slot outcome.resource)
  | .delete =>
    session.perform (Provisioning.delete resource).timed fun () session => (.done, session)
  | .refresh => session.perform (Provisioning.refresh resource).timed (showKept slot)
  | .awaitCondition expected timeout =>
    session.perform (session.provisioning.awaitCondition resource expected timeout)
      fun holds session => (.met holds, session)
  | .requireCondition expected timeout =>
    session.perform (session.provisioning.requireCondition resource expected timeout)
      fun condition session => (.condition condition, session)
  | .awaitRemoval timeout =>
    session.perform (session.provisioning.awaitRemoval resource timeout) fun () session =>
      (.done, session)

/-- One step of a session. -/
def step (session : Session) : SessionStep → Except Failure StepOutcome × Session
  | .deploy awaitReady =>
    session.operatorStep fun operator =>
      session.performOnOperator operator (Operator.deploy awaitReady)
  | .undeploy awaitRemoval =>
    session.operatorStep fun operator =>
      session.performOnOperator operator (Operator.undeploy awaitRemoval)
  | .operatorPod =>
    session.operatorStep fun operator =>
      session.perform operator.firstPod.timed fun snapshot session => (.snapshot snapshot, session)
  | .profile => session.operatorStep fun operator => (.ok (.profile operator.profile), session)
  | .sleep time => session.perform (Action.sleep time) fun () session => (.done, session)
  | .change change =>
    (.ok .done, { session with cluster := session.cluster.settle.change change })
  | .body key =>
    let cluster := session.cluster.settle
    (.ok (.body ((cluster.store.get? key).map StoreEntry.body)), { session with cluster })
  | .keys =>
    let cluster := session.cluster.settle
    (.ok (.keys (cluster.store.entries.map StoreEntry.key)), { session with cluster })
  | .list kind ns stem =>
    session.perform (Provisioning.listByStem kind ns stem).timed fun snapshots session =>
      (.snapshots snapshots, session)
  | .adopt slot kind ns name => session.perform (find kind ns name).timed (showFound slot)
  | .create slot ns body options =>
    session.perform (session.createFrom ns body options) (showKept slot)
  | .onSlot slot step =>
    match session.slot? slot with
    | some resource => session.slotStep slot resource step
    | none => (.ok .emptySlot, session)

/-- The requests that the session made since they were last taken. -/
def takeCalls (session : Session) : List ClusterCall × Session :=
  let (calls, cluster) := session.cluster.takeCalls
  (calls, { session with cluster })

end Session

/-- A list as runs of equal neighbours, with the length of each. -/
def runsOf {α : Type} [DecidableEq α] : List α → List (α × Nat)
  | [] => []
  | a :: rest =>
    match runsOf rest with
    | [] => [(a, 1)]
    | (b, n) :: runs => if a = b then (a, n + 1) :: runs else (a, 1) :: (b, n) :: runs

end BrokerHarness
