import BrokerHarness.Proofs.Operator.Lifetime

/-!
# The order of applications and deletions

A deployment applies the install manifests in their order, an undeployment deletes the objects of
the same manifests in the reverse order.  Both are a `Sweep` over a list: a loop with one exchange
for each item, up to the first that stops it, and look-ups behind the loop if it was not stopped.
Any failure stops the loop of applications, and any but that the object is not there that of
deletions.

What is swept over does not depend on how far earlier calls got: a call changes the phase of an
operator and the name that is kept (`OperatorStep.fresh_eq`), but not its manifests.
-/

namespace BrokerHarness

/-- The manifest is applied in the exchange. -/
inductive Applies : Manifest → Exchange controlPlane → Prop where
  | accepted (manifest : Manifest) (stored : Snapshot) :
      Applies manifest ⟨.apply manifest, .ok stored⟩

/-- The manifest cannot be applied in the exchange. -/
inductive FailsToApply : Manifest → Failure → Exchange controlPlane → Prop where
  | refused (manifest : Manifest) (e : Failure) :
      FailsToApply manifest e ⟨.apply manifest, .error e⟩

/-- The deletion of the object is asked for in the exchange, and is accepted or finds the object
absent. -/
inductive Deletes : ObjectAddress → Exchange controlPlane → Prop where
  | accepted (target : ObjectAddress) : Deletes target ⟨.delete target, .ok ()⟩
  | absent (target : ObjectAddress) (kind ns name : String) :
      Deletes target ⟨.delete target, .error (.notFound kind ns name)⟩

/-- The deletion of the object is asked for in the exchange, and fails for another reason than that
the object is absent. -/
inductive FailsToDelete : ObjectAddress → Failure → Exchange controlPlane → Prop where
  | refused (target : ObjectAddress) (e : Failure)
      (other : ∀ kind ns name, e ≠ .notFound kind ns name) :
      FailsToDelete target e ⟨.delete target, .error e⟩

/-- A loop over the items stops with a failure, which is the result; or it passes all of them, and
all further exchanges only look at the cluster. -/
inductive Sweep {ι : Type} (passes : ι → Exchange controlPlane → Prop)
    (stops : ι → Failure → Exchange controlPlane → Prop) (items : List ι) :
    List (Exchange controlPlane.timed) → Except Failure Unit → Prop where
  | stopped {asked : List (Exchange controlPlane)} {e : Failure}
      (loop : Action.LoopRun passes stops items asked (.error e)) :
      Sweep passes stops items (asked.map Exchange.timed) (.error e)
  | completed {asked : List (Exchange controlPlane)} {rest : List (Exchange controlPlane.timed)}
      {r : Except Failure Unit} (loop : Action.LoopRun passes stops items asked (.ok ()))
      (lookups : ∀ e ∈ rest, TimedRequest.Within ControlPlaneRequest.IsLookup e.request) :
      Sweep passes stops items (asked.map Exchange.timed ++ rest) r

/-- A sweep that ends well went through all items. -/
lemma Sweep.of_ok {ι : Type} {passes : ι → Exchange controlPlane → Prop}
    {stops : ι → Failure → Exchange controlPlane → Prop} {items : List ι}
    {t : List (Exchange controlPlane.timed)} (h : Sweep passes stops items t (.ok ())) :
    ∃ asked rest, t = asked.map Exchange.timed ++ rest ∧ List.Forall₂ passes items asked ∧
      ∀ e ∈ rest, TimedRequest.Within ControlPlaneRequest.IsLookup e.request := by
  cases h with
  | completed loop lookups => exact ⟨_, _, rfl, loop.forall₂, lookups⟩

namespace Operator

variable {operator before after : Operator} {manifests : List Manifest}
  {targets : List ObjectAddress} {asked : List (Exchange controlPlane)}
  {t : List (Exchange controlPlane.timed)} {r : Except Failure Unit}

/-! ### Runs of the two loops -/

/-- The applications are a loop over the manifests that stops with the first failure. -/
lemma applyAll_yields_iff :
    (applyAll manifests).Yields asked r ↔
      Action.LoopRun Applies FailsToApply manifests asked r := by
  refine Action.yields_loop_iff applyAll rfl (fun _ _ => rfl) ?_ ?_
  · intro manifest t
    constructor
    · rintro ⟨stored, h⟩
      exact ⟨_, ControlPlane.apply_yields_iff.mp h, .accepted manifest stored⟩
    · rintro ⟨x, rfl, happlies⟩
      cases happlies with
      | accepted stored => exact ⟨stored, ControlPlane.apply_yields_iff.mpr rfl⟩
  · intro manifest t e
    constructor
    · intro h
      exact ⟨_, ControlPlane.apply_yields_iff.mp h, .refused manifest e⟩
    · rintro ⟨x, rfl, hfails⟩
      cases hfails with
      | refused => exact ControlPlane.apply_yields_iff.mpr rfl

/-- A deletion passes if it is accepted or the object is absent, and fails otherwise. -/
lemma deleteIfPresent_yields_iff {target : ObjectAddress} :
    (deleteIfPresent target).Yields asked r ↔
      (∃ e, asked = [e] ∧ Deletes target e ∧ r = .ok ()) ∨
        ∃ e failure, asked = [e] ∧ FailsToDelete target failure e ∧ r = .error failure := by
  refine Action.yields_tryCatch_iff.trans ?_
  constructor
  · rintro (⟨⟨⟩, h, rfl⟩ | ⟨t₁, t₂, e, rfl, h, hhandle⟩)
    · exact .inl ⟨_, ControlPlane.delete_yields_iff.mp h, .accepted target, rfl⟩
    obtain rfl := ControlPlane.delete_yields_iff.mp h
    by_cases hfound : e.isNotFound = true
    · rw [if_pos hfound] at hhandle
      obtain ⟨rfl, rfl⟩ := Action.yields_pure_iff.mp hhandle
      cases e with
      | notFound kind ns name => exact .inl ⟨_, rfl, .absent target kind ns name, rfl⟩
      | _ => cases hfound
    · rw [if_neg hfound] at hhandle
      obtain ⟨rfl, rfl⟩ := Action.yields_throw_iff.mp hhandle
      refine .inr ⟨_, e, rfl, .refused target e ?_, rfl⟩
      rintro kind ns name rfl
      exact hfound rfl
  · rintro (⟨e, rfl, hdeletes, rfl⟩ | ⟨e, failure, rfl, hfails, rfl⟩)
    · cases hdeletes with
      | accepted => exact .inl ⟨(), ControlPlane.delete_yields_iff.mpr rfl, rfl⟩
      | absent kind ns name =>
        refine .inr ⟨[_], [], _, rfl, ControlPlane.delete_yields_iff.mpr rfl, ?_⟩
        exact Action.yields_pure_iff.mpr ⟨rfl, rfl⟩
    · cases hfails with
      | refused other =>
        refine .inr ⟨[_], [], failure, rfl, ControlPlane.delete_yields_iff.mpr rfl, ?_⟩
        have hfound : ¬ failure.isNotFound = true := by
          cases failure with
          | notFound kind ns name => exact absurd rfl (other kind ns name)
          | _ => exact Bool.false_ne_true
        rw [if_neg hfound]
        exact Action.yields_throw_iff.mpr ⟨rfl, rfl⟩

/-- The deletions are a loop over the objects that stops with the first failure but absence. -/
lemma deleteAll_yields_iff :
    (deleteAll targets).Yields asked r ↔
      Action.LoopRun Deletes FailsToDelete targets asked r := by
  refine Action.yields_loop_iff deleteAll rfl (fun _ _ => rfl) ?_ ?_
  · intro target t
    simp [deleteIfPresent_yields_iff]
  · intro target t e
    simp [deleteIfPresent_yields_iff]

lemma applyAll_timed_yields_iff :
    (applyAll manifests).timed.Yields t r ↔ ∃ asked, t = asked.map Exchange.timed ∧
      Action.LoopRun Applies FailsToApply manifests asked r := by
  simp only [Action.yields_timed_iff, applyAll_yields_iff]

lemma deleteAll_timed_yields_iff :
    (deleteAll targets).timed.Yields t r ↔ ∃ asked, t = asked.map Exchange.timed ∧
      Action.LoopRun Deletes FailsToDelete targets asked r := by
  simp only [Action.yields_timed_iff, deleteAll_yields_iff]

/-! ### Runs of the two operations -/

/-- An accepted deployment applies the manifests in their order and then only looks at the
cluster. -/
theorem DeployRun.sweep {awaitReady : Bool} (h : DeployRun before awaitReady t r after) :
    Sweep Applies FailsToApply before.manifests t r := by
  have hexistence : Action.AsksOnly (I := controlPlane.timed)
      (TimedRequest.Within ControlPlaneRequest.IsLookup) before.awaitExistence :=
    poll_asksOnly (existingDeployment_asksOnly before)
  have hreadiness : ∀ name, Action.AsksOnly (I := controlPlane.timed)
      (TimedRequest.Within ControlPlaneRequest.IsLookup) (before.awaitReadiness name) :=
    fun name => poll_asksOnly (readyDeployment_asksOnly before name)
  cases h with
  | applyFailed apply =>
    obtain ⟨asked, rfl, hloop⟩ := applyAll_timed_yields_iff.mp apply
    exact .stopped hloop
  | applied apply =>
    obtain ⟨asked, rfl, hloop⟩ := applyAll_timed_yields_iff.mp apply
    rw [← List.append_nil (asked.map Exchange.timed)]
    exact .completed hloop (by simp)
  | nameless apply existence =>
    obtain ⟨asked, rfl, hloop⟩ := applyAll_timed_yields_iff.mp apply
    exact .completed hloop (hexistence _ _ existence)
  | unready apply existence readiness | ready apply existence readiness =>
    obtain ⟨asked, rfl, hloop⟩ := applyAll_timed_yields_iff.mp apply
    refine .completed hloop (List.forall_mem_append.mpr ⟨?_, ?_⟩)
    · exact hexistence _ _ existence
    · exact hreadiness _ _ _ readiness

/-- An accepted undeployment deletes the objects of the manifests in the reverse order and then only
looks at the cluster. -/
theorem UndeployRun.sweep {awaitRemoval : Bool} (h : UndeployRun before awaitRemoval t r after) :
    Sweep Deletes FailsToDelete (before.manifests.reverse.map Manifest.address) t r := by
  have hremoval : Action.AsksOnly (I := controlPlane.timed)
      (TimedRequest.Within ControlPlaneRequest.IsLookup) before.awaitStopped :=
    poll_asksOnly (stoppedUnder_asksOnly _ _)
  cases h with
  | deleteFailed delete =>
    obtain ⟨asked, rfl, hloop⟩ := deleteAll_timed_yields_iff.mp delete
    exact .stopped hloop
  | deleted delete =>
    obtain ⟨asked, rfl, hloop⟩ := deleteAll_timed_yields_iff.mp delete
    rw [← List.append_nil (asked.map Exchange.timed)]
    exact .completed hloop (by simp)
  | running delete removal | stopped delete removal =>
    obtain ⟨asked, rfl, hloop⟩ := deleteAll_timed_yields_iff.mp delete
    exact .completed hloop (hremoval _ _ removal)

/-- The operator as if no call had been made on it: not deployed, and its deployment without a
name. -/
def fresh (operator : Operator) : Operator :=
  { operator with
    phase := .notDeployed
    profile := { operator.profile with
      resolver := { operator.profile.resolver with resolved := none } } }

/-- A deployment changes the phase and the name only. -/
lemma DeployRun.fresh_eq {awaitReady : Bool} (h : DeployRun before awaitReady t r after) :
    after.fresh = before.fresh := by
  cases h <;> rfl

/-- An undeployment changes the phase only. -/
lemma UndeployRun.fresh_eq {awaitRemoval : Bool} (h : UndeployRun before awaitRemoval t r after) :
    after.fresh = before.fresh := by
  cases h <;> rfl

end Operator

/-! ### What stays through the life of an operator -/

/-- A call changes the phase of an operator and the name that is kept, and nothing else. -/
lemma OperatorStep.fresh_eq (step : OperatorStep) : step.after.fresh = step.before.fresh := by
  obtain ⟨call, before, t, r, after, run⟩ := step
  cases OperatorCall.run_of_yields run with
  | deploy _ h => exact h.fresh_eq
  | undeploy _ h => exact h.fresh_eq
  | firstPod | refused => rfl

namespace Lifetime

variable {start operator : Operator} {steps : List OperatorStep}

/-- The calls on an operator change its phase and its name only. -/
lemma fresh_eq (h : Lifetime start steps operator) : operator.fresh = start.fresh := by
  induction h with
  | begin => rfl
  | @call steps step _ ih => exact step.fresh_eq.trans ih

/-- The calls on an operator do not change its install manifests. -/
lemma manifests_eq (h : Lifetime start steps operator) : operator.manifests = start.manifests := by
  have hsame := congrArg Operator.manifests h.fresh_eq
  exact hsame

/-- The calls on an operator do not change its candidates. -/
lemma candidates_eq (h : Lifetime start steps operator) :
    operator.profile.resolver.candidates = start.profile.resolver.candidates := by
  have hsame := congrArg (fun same : Operator => same.profile.resolver.candidates) h.fresh_eq
  exact hsame

/-- Whatever calls an operator took before, a deployment that is accepted goes through the prepared
manifests in their order, and an undeployment that is accepted goes through the addresses of the
same manifests in the reverse order.  An undeployment that succeeds has asked for the deletion of
the object of each manifest once, and each was accepted or found absent. -/
theorem sweeps_manifests {profile : OperatorProfile} {manifests : List Manifest}
    {settings : Settings}
    (h : Lifetime (Operator.ofManifests profile manifests settings) steps operator) :
    (∀ awaitReady t r after, operator.phase = .notDeployed →
      Operator.Yields (Operator.deploy awaitReady) operator t r after →
        Sweep Applies FailsToApply (manifests.map (Installation.prepare profile)) t r) ∧
    (∀ awaitRemoval t r after, operator.phase.canUndeploy = true →
      Operator.Yields (Operator.undeploy awaitRemoval) operator t r after →
        Sweep Deletes FailsToDelete
          ((manifests.map (Installation.prepare profile)).reverse.map Manifest.address) t r ∧
        (r = .ok () → ∃ deletions rest, t = deletions.map Exchange.timed ++ rest ∧
          List.Forall₂ Deletes
            ((manifests.map (Installation.prepare profile)).reverse.map Manifest.address)
            deletions ∧
          ∀ e ∈ rest, TimedRequest.Within ControlPlaneRequest.IsLookup e.request)) := by
  have hmanifests : operator.manifests = manifests.map (Installation.prepare profile) :=
    h.manifests_eq
  constructor
  · intro awaitReady t r after hphase hrun
    obtain ⟨-, hdeploy⟩ | ⟨hnot, -⟩ := Operator.deploy_yields_iff.mp hrun
    · rw [← hmanifests]
      exact hdeploy.sweep
    · exact absurd hphase hnot
  · intro awaitRemoval t r after hphase hrun
    have hundeploy := Operator.undeployRun_of_canUndeploy hphase hrun
    have hsweep : Sweep Deletes FailsToDelete
        ((manifests.map (Installation.prepare profile)).reverse.map Manifest.address) t r := by
      rw [← hmanifests]
      exact hundeploy.sweep
    refine ⟨hsweep, ?_⟩
    rintro rfl
    exact hsweep.of_ok

end Lifetime

/-! ### An undeployment behind two failures -/

namespace Sweep.Sample

def account : Manifest := ⟨.ofApiVersion "v1" "ServiceAccount", none, "operator", .object []⟩

def operator : Operator :=
  Operator.ofManifests Lifetime.Sample.profile [account, Lifetime.Sample.manifest] {}

def preparedAccount : Manifest := Installation.prepare Lifetime.Sample.profile account

def preparedDeployment : Manifest :=
  Installation.prepare Lifetime.Sample.profile Lifetime.Sample.manifest

def storedAccount : Snapshot :=
  ⟨preparedAccount.kind, some "broker", "operator", some 1, preparedAccount.body⟩

/-- The first manifest is applied, the second refused. -/
def deployment : OperatorStep where
  call := .deploy true
  before := operator
  exchanges := [⟨.other (.apply preparedAccount), .ok storedAccount⟩,
    ⟨.other (.apply preparedDeployment), .error (.apiServer (some 403) "forbidden")⟩]
  outcome := .error (.apiServer (some 403) "forbidden")
  after := operator.inPhase .deploying
  run := .ask (.ask (.done _))

/-- The first deletion fails. -/
def attempt : OperatorStep where
  call := .undeploy true
  before := operator.inPhase .deploying
  exchanges := [⟨.other (.delete preparedDeployment.address),
    .error (.apiServer (some 500) "etcd timeout")⟩]
  outcome := .error (.apiServer (some 500) "etcd timeout")
  after := operator.inPhase .undeploying
  run := .ask (.done _)

/-- The object that was never stored is absent, the other is deleted. -/
def exchanges : List (Exchange controlPlane.timed) :=
  [⟨.other (.delete preparedDeployment.address),
      .error (.notFound "Deployment" "broker" "operator")⟩,
    ⟨.other (.delete preparedAccount.address), .ok ()⟩]

/-- A deployment fails, and then an undeployment. -/
lemma life : Lifetime operator [deployment, attempt] (operator.inPhase .undeploying) :=
  @Lifetime.call operator [deployment] attempt (@Lifetime.call operator [] deployment .begin)

/-- The undeployment that is tried again finds one object absent and deletes the other. -/
lemma undeployment : Operator.Yields (Operator.undeploy false) (operator.inPhase .undeploying)
    exchanges (.ok ()) (operator.inPhase .undeployed) :=
  .ask (.ask (.done _))

end Sweep.Sample

open Sweep in
/-- Behind a deployment and an undeployment that failed, the deletion of all objects is asked for,
in the reverse order. -/
theorem sweeps_manifests_behind_failures :
    Lifetime Sample.operator [Sample.deployment, Sample.attempt]
        (Sample.operator.inPhase .undeploying) ∧
      Operator.Yields (Operator.undeploy false) (Sample.operator.inPhase .undeploying)
        Sample.exchanges (.ok ()) (Sample.operator.inPhase .undeployed) ∧
      ∃ deletions rest, Sample.exchanges = deletions.map Exchange.timed ++ rest ∧
        List.Forall₂ Deletes
          [Sample.preparedDeployment.address, Sample.preparedAccount.address] deletions ∧
        ∀ e ∈ rest, TimedRequest.Within ControlPlaneRequest.IsLookup e.request := by
  have hlaws := Lifetime.sweeps_manifests Sample.life
  exact ⟨Sample.life, Sample.undeployment,
    (hlaws.2 false _ _ _ rfl Sample.undeployment).2 rfl⟩

end BrokerHarness
