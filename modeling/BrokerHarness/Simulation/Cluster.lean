import BrokerHarness.Simulation.Store

/-!
# Simulated clusters

A cluster in memory, with a clock that only sleeps move. Objects change at planned times, as if
controllers worked on the cluster: a change is carried out as soon as a request looks at the cluster
at its time or later. Requests take time, deletions may take effect later and take pods with them,
and outages make requests fail.

`SimulatedCluster.answer` gives the answers of such a cluster to a program over
`controlPlane.timed`, so that every operation of the library runs against it.
-/

namespace BrokerHarness

/-- A change of what a cluster holds. -/
inductive ClusterChange where
  /-- An object appears, or gets another body. -/
  | put (body : Json)
  /-- An object disappears. -/
  | remove (key : StoreKey)
  /-- An object that is there gets another status. -/
  | setStatus (key : StoreKey) (status : Json)
deriving Repr

/-- The store after a change. -/
def ClusterChange.applyTo : ClusterChange → Store → Store
  | put body, store => store.put (.ofBody body)
  | remove key, store => store.remove key
  | setStatus key status, store => store.modify key (·.insert "status" status)

/-- A change that is to be seen from a time on. -/
structure PlannedChange where
  time : Nat
  change : ClusterChange
deriving Repr

/-- Planned changes, in the order in which they are carried out, with one more: behind all that are
planned for the same time or before. -/
def PlannedChange.insert (planned : PlannedChange) : List PlannedChange → List PlannedChange
  | [] => [planned]
  | p :: rest =>
    if planned.time < p.time then planned :: p :: rest else p :: planned.insert rest

/-- The operations of a control plane. -/
inductive ClusterOperation where
  /-- Applying an object. -/
  | apply
  /-- Deleting an object. -/
  | delete
  /-- Looking an object up. -/
  | get
  /-- Listing objects. -/
  | list
deriving DecidableEq, Repr

/-- The name of an operation. -/
def ClusterOperation.text : ClusterOperation → String
  | apply => "apply"
  | delete => "delete"
  | get => "get"
  | list => "list"

/-- A request as a cluster records it: the operation, and the object or the start of the names of
the objects. -/
structure ClusterCall where
  operation : ClusterOperation
  key : StoreKey
deriving DecidableEq, Repr

/-- The text of a recorded request. -/
def ClusterCall.text (call : ClusterCall) : String := call.operation.text ++ " " ++ call.key.text

/-- How a request is recorded. -/
def ClusterCall.ofRequest : ControlPlaneRequest → ClusterCall
  | .apply manifest => ⟨.apply, .ofAddress manifest.address⟩
  | .delete target => ⟨.delete, .ofAddress target⟩
  | .get kind ns name => ⟨.get, ⟨kind.name, ns, name⟩⟩
  | .list kind ns stem => ⟨.list, ⟨kind.name, ns, stem⟩⟩

/-- A time in which requests of one operation fail, for one name or for all. It may never be over.
-/
structure Outage where
  operation : ClusterOperation
  name : Option String := none
  start : Nat := 0
  stop : Option Nat := none
  failure : Failure
deriving Repr

/-- Whether an outage hits a request at a time. -/
def Outage.hits (outage : Outage) (call : ClusterCall) (time : Nat) : Bool :=
  outage.operation = call.operation && outage.name.all (· = call.key.name) &&
    outage.start ≤ time && outage.stop.all (time < ·)

/-- A cluster in memory, with the time on its clock. Each request takes the latency, and a deletion
has its effect only behind the deletion delay; the pods whose names start with the deleted name go
behind the cascade delay, if they go. Of several outages that hit a request the first counts. The
calls since the record was last taken are kept, the last first. -/
structure SimulatedCluster where
  now : Nat := 0
  store : Store := {}
  plan : List PlannedChange := []
  latency : Nat := 0
  deletionDelay : Nat := 0
  cascadeDelay : Option Nat := none
  outages : List Outage := []
  applied : Nat := 0
  calls : List ClusterCall := []
deriving Repr

namespace SimulatedCluster

/-- The cluster a time later. -/
def wait (cluster : SimulatedCluster) (time : Nat) : SimulatedCluster :=
  { cluster with now := cluster.now + time }

/-- The cluster with one more planned change. -/
def schedule (cluster : SimulatedCluster) (delay : Nat) (change : ClusterChange) :
    SimulatedCluster :=
  { cluster with plan := PlannedChange.insert ⟨cluster.now + delay, change⟩ cluster.plan }

/-- The cluster after a change. -/
def change (cluster : SimulatedCluster) (change : ClusterChange) : SimulatedCluster :=
  { cluster with store := change.applyTo cluster.store }

/-- The cluster with every change carried out whose time has come. -/
def settle (cluster : SimulatedCluster) : SimulatedCluster :=
  let (due, later) := cluster.plan.partition (·.time ≤ cluster.now)
  { cluster with
    store := due.foldl (fun store planned => planned.change.applyTo store) cluster.store
    plan := later }

/-! ### Operations -/

/-- The generation of an object that is replaced by a body: one more if the spec changes. -/
def nextGeneration (existing body : Json) : Int64 :=
  let generation := (existing.int64At? ["metadata", "generation"]).getD 1
  if existing.get? "spec" == body.get? "spec" then generation else generation + 1

/-- The body that is stored when `body` is applied, as the object's version `version`. What is there
keeps its status. -/
def storedBody (existing : Option Json) (body : Json) (version : Nat) : Json :=
  let generation := match existing with
    | some old => nextGeneration old body
    | none => 1
  let kept := match existing.bind (·.get? "status") with
    | some status => body.insert "status" status
    | none => body
  kept.modify "metadata" fun metadata =>
    (metadata.insert "generation" (.ofInt64 generation)).insert "resourceVersion"
      (.string (toString version))

/-- Applies a manifest. -/
def apply (cluster : SimulatedCluster) (manifest : Manifest) :
    Except Failure Snapshot × SimulatedCluster :=
  let key := StoreKey.ofAddress manifest.address
  let entry : StoreEntry := {
    key
    kind := manifest.kind
    body :=
      storedBody ((cluster.store.get? key).map StoreEntry.body) manifest.body
        (cluster.applied + 1) }
  (entry.snapshot,
    { cluster with store := cluster.store.put entry, applied := cluster.applied + 1 })

/-- The cluster with the pods of a deleted object planned to go. -/
def cascade (cluster : SimulatedCluster) (key : StoreKey) : SimulatedCluster :=
  match cluster.cascadeDelay with
  | none => cluster
  | some delay =>
    (cluster.store.named ObjectKind.pod.name key.ns key.name).foldl
      (fun acc pod => acc.schedule delay (.remove pod.key)) cluster

/-- Deletes an object, at once or later. -/
def delete (cluster : SimulatedCluster) (target : ObjectAddress) :
    Except Failure Unit × SimulatedCluster :=
  let key := StoreKey.ofAddress target
  if (cluster.store.get? key).isSome then
    let removal := ClusterChange.remove key
    let deleted :=
      if cluster.deletionDelay = 0 then cluster.change removal
      else cluster.schedule cluster.deletionDelay removal
    (.ok (), deleted.cascade key)
  else (.error (.notFound key.kind key.ns key.name), cluster)

/-- Carries out a request. -/
def perform (cluster : SimulatedCluster) :
    (request : ControlPlaneRequest) → request.Answer × SimulatedCluster
  | .apply manifest => cluster.apply manifest
  | .delete target => cluster.delete target
  | .get kind ns name =>
    (match cluster.store.get? ⟨kind.name, ns, name⟩ with
      | some entry => entry.snapshot.map some
      | none => .ok none,
      cluster)
  | .list kind ns stem =>
    ((cluster.store.named kind.name ns stem).mapM StoreEntry.snapshot, cluster)

/-- The answer to a request that fails. -/
def refuse (failure : Failure) : (request : ControlPlaneRequest) → request.Answer
  | .apply _ | .delete _ | .get .. | .list .. => Except.error failure

/-- Answers a request: time passes, changes that are due are carried out, the request is recorded,
and then it fails in an outage or else is carried out. -/
def answerRequest (request : ControlPlaneRequest) (cluster : SimulatedCluster) :
    request.Answer × SimulatedCluster :=
  let call := ClusterCall.ofRequest request
  let settled := (cluster.wait cluster.latency).settle
  let recorded := { settled with calls := call :: settled.calls }
  match recorded.outages.find? (·.hits call recorded.now) with
  | some outage => (refuse outage.failure request, recorded)
  | none => recorded.perform request

/-- Answers a request to the control plane or to the clock. -/
def answer :
    (request : controlPlane.timed.Request) → SimulatedCluster →
      controlPlane.timed.Answer request × SimulatedCluster
  | .clock since, cluster => (⟨max since cluster.now, Nat.le_max_left ..⟩, cluster)
  | .sleep time, cluster => ((), cluster.wait time)
  | .other request, cluster => answerRequest request cluster

/-- Runs an action on a cluster. -/
def run {α : Type} (action : Action controlPlane.timed α) (cluster : SimulatedCluster) :
    Except Failure α × SimulatedCluster :=
  Program.runWith answer action.run cluster

/-- The requests since the record was last taken, in their order, and the cluster with an empty
record. -/
def takeCalls (cluster : SimulatedCluster) : List ClusterCall × SimulatedCluster :=
  (cluster.calls.reverse, { cluster with calls := [] })

end SimulatedCluster

end BrokerHarness
