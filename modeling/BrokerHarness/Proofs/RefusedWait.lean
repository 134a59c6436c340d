import BrokerHarness.Proofs.Operator.Removal
import BrokerHarness.Proofs.Operator.Rollout
import BrokerHarness.Proofs.Resource.Frame

/-!
# Waits with faulty parameters

The parameters of a wait are checked when the wait begins.  An operation that waits behind its
writes has made them by then: a creation or an update has applied its object, a deployment has
applied the install manifests, and an undeployment has deleted their objects.  If one of these
requests fails, its failure is the result, and otherwise the fault of the parameters is.  Nothing is
looked at and no time is spent, since the wait itself is refused without a request.

`Action.yields_bind_read_iff` carries the proofs: behind an action, a refusal keeps the exchanges
of the action and replaces its value.

The parameters of an operator are those of its settings and never change, so no wait of such an
operator ever begins, whatever calls it takes: `Lifetime.eq_inPhase_of_isFaulty` is the invariant
that nothing of it changes but its phase.  So it never finds its name.
-/

namespace BrokerHarness

/-! ### Refusals -/

namespace Action

variable {I : Interface} {α β : Type} {action : Action I α} {f : α → Action I β}
  {t : List (Exchange I)} {r : Except Failure β}

/-- What would follow a refusal is not reached. -/
lemma yields_refused_bind_iff {e : Failure}
    (hrefused : ∀ t r, action.Yields t r ↔ t = [] ∧ r = .error e) :
    Yields (action >>= f) t r ↔ t = [] ∧ r = .error e := by
  rw [yields_bind_iff]
  simp [hrefused]

end Action

/-! ### Creations and updates -/

/-- An application with a clock is one exchange as well. -/
lemma ControlPlane.apply_timed_yields_iff {manifest : Manifest}
    {t : List (Exchange controlPlane.timed)} {answer : Except Failure Snapshot} :
    (apply manifest).timed.Yields t answer ↔ t = [⟨.other (.apply manifest), answer⟩] := by
  rw [Action.yields_timed_iff]
  constructor
  · rintro ⟨asked, rfl, h⟩
    obtain rfl := apply_yields_iff.mp h
    rfl
  · rintro rfl
    exact ⟨[⟨.apply manifest, answer⟩], rfl, apply_yields_iff.mpr rfl⟩

namespace Provisioning

variable {provisioning : Provisioning} {manifest : Manifest} {options : WaitOptions}
  {t : List (Exchange controlPlane.timed)}

/-- The refusal of a wait for the readiness of an object that was applied. -/
def waitRefusal (provisioning : Provisioning) (timeout : Nat) (applied : Snapshot) : Failure :=
  let ns := applied.scope.getD ""
  .badSettings (Polling.fault
    s!"waiting for {applied.kind.name} {ns}/{applied.name} to be ready"
    provisioning.pollInterval timeout)

/-- A submission whose wait is refused applies the manifest, and what would follow it is not
reached. -/
lemma submit_bind_yields_iff_of_isFaulty {α : Type} {defaultTimeout : Nat}
    {f : Snapshot → Action controlPlane.timed α} {r : Except Failure α}
    (hawait : options.awaitReady = true)
    (hfaulty : Polling.IsFaulty provisioning.pollInterval (options.timeout.getD defaultTimeout)) :
    Action.Yields (provisioning.submit manifest options defaultTimeout >>= f) t r ↔
      ∃ answer, t = [⟨.other (.apply manifest), answer⟩] ∧ r = answer >>= fun applied =>
        .error (provisioning.waitRefusal (options.timeout.getD defaultTimeout) applied) := by
  unfold submit
  simp only [hawait, if_true, bind_assoc]
  have hrefused : ∀ applied t (r : Except Failure α),
      Action.Yields
        (provisioning.awaitReadiness applied (options.timeout.getD defaultTimeout) >>= f) t r ↔
      t = [] ∧ r = .error
        (provisioning.waitRefusal (options.timeout.getD defaultTimeout) applied) :=
    fun applied t r => Action.yields_refused_bind_iff fun t r => poll_yields_iff_of_isFaulty hfaulty
  rw [Action.yields_bind_read_iff hrefused]
  exact exists_congr fun answer => and_congr_left fun _ => ControlPlane.apply_timed_yields_iff

end Provisioning

/-! ### Deployments and undeployments -/

namespace Operator

variable {before after : Operator} {t : List (Exchange controlPlane.timed)}
  {r : Except Failure Unit}

/-- The refusal of the wait for the operator's deployment to exist. -/
def existenceRefusal (operator : Operator) : Failure :=
  .badSettings (Polling.fault
    s!"waiting for operator deployment in {operator.deploymentNamespace} to exist"
    operator.pollInterval operator.timeout)

/-- The applications of an accepted deployment whose waits are refused are all that it asks. -/
lemma deploy_yields_iff_of_isFaulty
    (hfaulty : Polling.IsFaulty before.pollInterval before.timeout)
    (hphase : before.phase = .notDeployed) :
    Yields (deploy true) before t r after ↔
      ∃ asked swept, t = asked.map Exchange.timed ∧
        Action.LoopRun Applies FailsToApply before.manifests asked swept ∧
        (r = swept >>= fun _ => .error before.existenceRefusal) ∧
        after = before.inPhase .deploying := by
  have hexistence : ∀ t r, before.awaitExistence.Yields t r ↔
      t = [] ∧ r = .error before.existenceRefusal :=
    fun t r => poll_yields_iff_of_isFaulty hfaulty
  rw [deploy_yields_iff]
  simp only [hphase, true_and, ne_eq, not_true_eq_false, false_and, or_false]
  constructor
  · intro h
    cases h with
    | applyFailed apply =>
      obtain ⟨asked, rfl, hloop⟩ := applyAll_timed_yields_iff.mp apply
      exact ⟨asked, _, rfl, hloop, rfl, rfl⟩
    | nameless apply existence =>
      obtain ⟨asked, rfl, hloop⟩ := applyAll_timed_yields_iff.mp apply
      obtain ⟨rfl, hr⟩ := (hexistence _ _).mp existence
      obtain rfl := Except.error.inj hr
      exact ⟨asked, _, List.append_nil _, hloop, rfl, rfl⟩
    | unready apply existence readiness | ready apply existence readiness =>
      have hr := ((hexistence _ _).mp existence).2
      cases hr
  · rintro ⟨asked, swept, rfl, hloop, rfl, rfl⟩
    have happly := applyAll_timed_yields_iff.mpr ⟨asked, rfl, hloop⟩
    cases swept with
    | error e => exact .applyFailed happly
    | ok =>
      have hrun := DeployRun.nameless happly ((hexistence [] _).mpr ⟨rfl, rfl⟩)
      rwa [List.append_nil] at hrun

/-- The deletions of an accepted undeployment whose wait is refused are all that it asks. -/
lemma undeploy_yields_iff_of_isFaulty
    (hfaulty : Polling.IsFaulty before.pollInterval before.timeout)
    (hphase : before.phase.canUndeploy = true) :
    Yields (undeploy true) before t r after ↔
      ∃ asked swept, t = asked.map Exchange.timed ∧
        Action.LoopRun Deletes FailsToDelete (before.manifests.reverse.map Manifest.address)
          asked swept ∧
        (r = swept >>= fun _ => .error before.stopRefusal) ∧
        after = before.inPhase .undeploying := by
  have hstop : ∀ t r, before.awaitStopped.Yields t r ↔ t = [] ∧ r = .error before.stopRefusal :=
    fun t r => poll_yields_iff_of_isFaulty hfaulty
  rw [undeploy_yields_iff]
  simp only [hphase, true_and, reduceCtorEq, false_and, or_false]
  constructor
  · intro h
    cases h with
    | deleteFailed delete =>
      obtain ⟨asked, rfl, hloop⟩ := deleteAll_timed_yields_iff.mp delete
      exact ⟨asked, _, rfl, hloop, rfl, rfl⟩
    | running delete removal =>
      obtain ⟨asked, rfl, hloop⟩ := deleteAll_timed_yields_iff.mp delete
      obtain ⟨rfl, hr⟩ := (hstop _ _).mp removal
      obtain rfl := Except.error.inj hr
      exact ⟨asked, _, List.append_nil _, hloop, rfl, rfl⟩
    | stopped delete removal =>
      have hr := ((hstop _ _).mp removal).2
      cases hr
  · rintro ⟨asked, swept, rfl, hloop, rfl, rfl⟩
    have hdelete := deleteAll_timed_yields_iff.mpr ⟨asked, rfl, hloop⟩
    cases swept with
    | error e => exact .deleteFailed hdelete
    | ok =>
      have hrun := UndeployRun.running hdelete ((hstop [] _).mpr ⟨rfl, rfl⟩)
      rwa [List.append_nil] at hrun

/-- A deployment whose waits are refused changes nothing of the operator but its phase. -/
lemma DeployRun.eq_inPhase_of_isFaulty {awaitReady : Bool}
    (hfaulty : Polling.IsFaulty before.pollInterval before.timeout)
    (h : DeployRun before awaitReady t r after) : after = before.inPhase after.phase := by
  cases h with
  | applyFailed | applied | nameless => rfl
  | unready _ existence _ | ready _ existence _ =>
    -- A name is kept only behind a wait that found it.
    have hr := ((poll_yields_iff_of_isFaulty hfaulty).mp existence).2
    cases hr

/-- An undeployment changes nothing of the operator but its phase. -/
lemma UndeployRun.eq_inPhase {awaitRemoval : Bool} (h : UndeployRun before awaitRemoval t r after) :
    after = before.inPhase after.phase := by
  cases h <;> rfl

end Operator

/-- A call on an operator whose waits are refused changes nothing of it but its phase. -/
lemma OperatorStep.eq_inPhase_of_isFaulty (step : OperatorStep)
    (hfaulty : Polling.IsFaulty step.before.pollInterval step.before.timeout) :
    step.after = step.before.inPhase step.after.phase := by
  obtain ⟨call, before, t, r, after, run⟩ := step
  cases OperatorCall.run_of_yields run with
  | deploy _ hrun => exact hrun.eq_inPhase_of_isFaulty hfaulty
  | undeploy _ hrun => exact hrun.eq_inPhase
  | firstPod | refused => rfl

/-- Whatever calls an operator takes whose waits are refused, nothing of it changes but its
phase. -/
lemma Lifetime.eq_inPhase_of_isFaulty {start operator : Operator} {steps : List OperatorStep}
    (h : Lifetime start steps operator)
    (hfaulty : Polling.IsFaulty start.pollInterval start.timeout) :
    operator = start.inPhase operator.phase := by
  induction h with
  | begin => rfl
  | @call steps step _ ih =>
    have hbefore : Polling.IsFaulty step.before.pollInterval step.before.timeout := by
      rw [ih]
      exact hfaulty
    calc
      step.after = step.before.inPhase step.after.phase := step.eq_inPhase_of_isFaulty hbefore
      _ = (start.inPhase step.before.phase).inPhase step.after.phase :=
        congrArg (·.inPhase step.after.phase) ih
      _ = start.inPhase step.after.phase := rfl

/-! ### All operations that wait behind writes -/

/-- An operation whose wait has faulty parameters never succeeds, and asks nothing but its writes.
A creation and an update apply their object once; an accepted deployment applies the manifests in
their order, and an accepted undeployment deletes their objects in the reverse order, each up to
the first request that fails.  The result is the failure of this request, or else the fault of the
parameters.  The operator is left in the phase of the attempt and otherwise as it was; where the
phase does not fit the call, nothing is asked and nothing changes.  So, behind whatever calls, a new
operator whose settings are faulty is as it was made but for its phase, and has no name. -/
theorem refused_waits_keep_writes :
    (∀ (provisioning : Provisioning) ns manifest options, options.awaitReady = true →
      Polling.IsFaulty provisioning.pollInterval
        (options.timeout.getD provisioning.readyTimeout) →
      ∀ t r, (provisioning.create ns manifest options).Yields t r ↔
        ∃ answer, t = [⟨.other (.apply (manifest.movedTo ns)), answer⟩] ∧
          r = answer >>= fun applied => .error
            (provisioning.waitRefusal (options.timeout.getD provisioning.readyTimeout) applied)) ∧
    (∀ (provisioning : Provisioning) resource options, options.awaitReady = true →
      Polling.IsFaulty provisioning.pollInterval
        (options.timeout.getD provisioning.updateTimeout) →
      ∀ t r, (provisioning.update resource options).Yields t r ↔
        ∃ answer, t = [⟨.other (.apply resource.desired), answer⟩] ∧
          r = answer >>= fun applied => .error
            (provisioning.waitRefusal (options.timeout.getD provisioning.updateTimeout) applied)) ∧
    (∀ before : Operator, Polling.IsFaulty before.pollInterval before.timeout →
      (before.phase = .notDeployed → ∀ t r after,
        Operator.Yields (Operator.deploy true) before t r after ↔
          ∃ asked swept, t = asked.map Exchange.timed ∧
            Action.LoopRun Applies FailsToApply before.manifests asked swept ∧
            (r = swept >>= fun _ => .error before.existenceRefusal) ∧
            after = before.inPhase .deploying) ∧
      (before.phase ≠ .notDeployed → ∀ t r after,
        Operator.Yields (Operator.deploy true) before t r after ↔
          t = [] ∧ r = .error (.wrongPhase "deploy" before.phase.text) ∧ after = before) ∧
      (before.phase.canUndeploy = true → ∀ t r after,
        Operator.Yields (Operator.undeploy true) before t r after ↔
          ∃ asked swept, t = asked.map Exchange.timed ∧
            Action.LoopRun Deletes FailsToDelete (before.manifests.reverse.map Manifest.address)
              asked swept ∧
            (r = swept >>= fun _ => .error before.stopRefusal) ∧
            after = before.inPhase .undeploying) ∧
      (before.phase.canUndeploy = false → ∀ t r after,
        Operator.Yields (Operator.undeploy true) before t r after ↔
          t = [] ∧ r = .error (.wrongPhase "undeploy" before.phase.text) ∧ after = before)) ∧
    ∀ (profile : OperatorProfile) manifests (settings : Settings), profile.IsNew →
      Polling.IsFaulty settings.pollInterval settings.operatorTimeout →
      ∀ steps operator,
        Lifetime (Operator.ofManifests profile manifests settings) steps operator →
        operator = (Operator.ofManifests profile manifests settings).inPhase operator.phase ∧
          Polling.IsFaulty operator.pollInterval operator.timeout ∧
          operator.profile.resolvedName = none := by
  refine ⟨?_, ?_, fun before hfaulty => ⟨?_, ?_, ?_, ?_⟩, ?_⟩
  · exact fun provisioning ns manifest options hawait hfaulty t r =>
      Provisioning.submit_bind_yields_iff_of_isFaulty hawait hfaulty
  · exact fun provisioning resource options hawait hfaulty t r =>
      Provisioning.submit_bind_yields_iff_of_isFaulty hawait hfaulty
  · exact fun hphase t r after => Operator.deploy_yields_iff_of_isFaulty hfaulty hphase
  · intro hphase t r after
    rw [Operator.deploy_yields_iff]
    simp [hphase]
  · exact fun hphase t r after => Operator.undeploy_yields_iff_of_isFaulty hfaulty hphase
  · intro hphase t r after
    rw [Operator.undeploy_yields_iff]
    simp [hphase]
  · intro profile manifests settings hnew hfaulty steps operator hlife
    have hkept := hlife.eq_inPhase_of_isFaulty hfaulty
    refine ⟨hkept, ?_, ?_⟩
    · rw [hkept]
      exact hfaulty
    · rw [hkept]
      exact hnew.resolvedName_eq_none

/-! ### A timeout of one poll interval -/

namespace RefusedWait.Sample

def provisioning : Provisioning := .ofSettings {}

/-- The timeout is the poll interval of the settings. -/
def options : WaitOptions := { timeout := some (Duration.ofSeconds 5) }

def manifest : Manifest := ⟨.broker, some "test", "broker", .object []⟩

def stored : Snapshot := ⟨.broker, some "test", "broker", some 1, .object []⟩

def resource : Resource := ⟨.broker, "test", "broker", .object [], [], some 1, .object []⟩

def refusal : Failure :=
  .badSettings (.timeoutTooShort (Duration.ofSeconds 5) (Duration.ofSeconds 5)
    "waiting for ActiveMQArtemis test/broker to be ready")

def conflict : Failure := .apiServer (some 409) "the object has been modified"

lemma isFaulty : Polling.IsFaulty provisioning.pollInterval (options.timeout.getD 0) :=
  .inr (by decide)

/-- An operator whose deadline is over at once. -/
def operator : Operator :=
  Operator.ofManifests Lifetime.Sample.profile [manifest] { operatorTimeoutSecs := 0 }

lemma operator_isFaulty : Polling.IsFaulty operator.pollInterval operator.timeout :=
  .inr (by decide)

def application : Exchange controlPlane :=
  ⟨.apply (Installation.prepare Lifetime.Sample.profile manifest), .ok stored⟩

def deletion : Exchange controlPlane :=
  ⟨.delete (Installation.prepare Lifetime.Sample.profile manifest).address, .ok ()⟩

/-- The application of the only manifest is accepted. -/
lemma applied :
    Action.LoopRun Applies FailsToApply operator.manifests [application] (.ok ()) :=
  .completed (.cons (.accepted _ _) .nil)

/-- The deletion of the only object is accepted. -/
lemma deleted :
    Action.LoopRun Deletes FailsToDelete (operator.manifests.reverse.map Manifest.address)
      [deletion] (.ok ()) :=
  .completed (.cons (.accepted _) .nil)

/-- A deployment that fails at its wait. -/
def deployment : OperatorStep where
  call := .deploy true
  before := operator
  exchanges := [application.timed]
  outcome := .error operator.existenceRefusal
  after := operator.inPhase .deploying
  run := (Operator.deploy_yields_iff_of_isFaulty operator_isFaulty rfl).mpr
    ⟨_, _, rfl, applied, rfl, rfl⟩

/-- The undeployment behind it, which fails at its wait as well. -/
def undeployment : OperatorStep where
  call := .undeploy true
  before := operator.inPhase .deploying
  exchanges := [deletion.timed]
  outcome := .error operator.stopRefusal
  after := operator.inPhase .undeploying
  run := by
    have hfaulty : Polling.IsFaulty (operator.inPhase .deploying).pollInterval
        (operator.inPhase .deploying).timeout := operator_isFaulty
    exact (Operator.undeploy_yields_iff_of_isFaulty hfaulty rfl).mpr
      ⟨_, _, rfl, deleted, rfl, rfl⟩

/-- Both calls fail at their waits, and nothing else happens. -/
lemma life : Lifetime operator [deployment, undeployment] (operator.inPhase .undeploying) :=
  @Lifetime.call operator [deployment] undeployment (@Lifetime.call operator [] deployment .begin)

lemma profile_isNew : Lifetime.Sample.profile.IsNew := by
  have hmade : OperatorProfile.ofCandidates "broker" .manifestFile ["operator"] .preferNewest =
      .ok Lifetime.Sample.profile := rfl
  exact .ofCandidates hmade

end RefusedWait.Sample

open RefusedWait in
/-- Faulty parameters are not found before the writes: a creation with the poll interval of the
settings as its timeout has applied its object when it fails, and a deployment and an undeployment
whose deadline is over at once have applied and deleted theirs and are in another phase than
before. -/
theorem refused_waits_write :
    (Polling.IsFaulty Sample.provisioning.pollInterval
        (Sample.options.timeout.getD Sample.provisioning.readyTimeout) ∧
      ∃ t, (Sample.provisioning.create "test" Sample.manifest Sample.options).Yields t
          (.error Sample.refusal) ∧
        writesOf t = [.apply (Sample.manifest.movedTo "test")]) ∧
      Polling.IsFaulty Sample.operator.pollInterval Sample.operator.timeout ∧
      (∃ t after, Operator.Yields (Operator.deploy true) Sample.operator t
          (.error Sample.operator.existenceRefusal) after ∧
        writesOf t = [Sample.application.request] ∧ after.phase ≠ Sample.operator.phase) ∧
      ∃ t after, Operator.Yields (Operator.undeploy true) (Sample.operator.inPhase .deployed) t
          (.error Sample.operator.stopRefusal) after ∧
        writesOf t = [Sample.deletion.request] ∧ after.phase ≠ .deployed := by
  refine ⟨⟨Sample.isFaulty, ?_⟩, Sample.operator_isFaulty, ?_, ?_⟩
  · refine ⟨[⟨.other (.apply (Sample.manifest.movedTo "test")), .ok Sample.stored⟩], ?_, rfl⟩
    exact (Provisioning.submit_bind_yields_iff_of_isFaulty rfl Sample.isFaulty).mpr
      ⟨.ok Sample.stored, rfl, rfl⟩
  · refine ⟨[Sample.application.timed], Sample.operator.inPhase .deploying, ?_, rfl, ?_⟩
    · exact (Operator.deploy_yields_iff_of_isFaulty Sample.operator_isFaulty rfl).mpr
        ⟨_, _, rfl, Sample.applied, rfl, rfl⟩
    · exact OperatorPhase.noConfusion
  · refine ⟨[Sample.deletion.timed], Sample.operator.inPhase .undeploying, ?_, rfl, ?_⟩
    · have hfaulty : Polling.IsFaulty (Sample.operator.inPhase .deployed).pollInterval
          (Sample.operator.inPhase .deployed).timeout := Sample.operator_isFaulty
      exact (Operator.undeploy_yields_iff_of_isFaulty hfaulty rfl).mpr
        ⟨_, _, rfl, Sample.deleted, rfl, rfl⟩
    · exact OperatorPhase.noConfusion

open RefusedWait in
/-- A creation and an update whose timeout is one poll interval, and the life of an operator whose
deadline is over at once. -/
theorem refused_waits_keep_writes_at_deadline :
    (Sample.provisioning.create "test" Sample.manifest Sample.options).Yields
        [⟨.other (.apply (Sample.manifest.movedTo "test")), .ok Sample.stored⟩]
        (.error Sample.refusal) ∧
      (Sample.provisioning.update Sample.resource Sample.options).Yields
        [⟨.other (.apply Sample.resource.desired), .error Sample.conflict⟩]
        (.error Sample.conflict) ∧
      Operator.Yields (Operator.deploy true) Sample.operator [Sample.application.timed]
        (.error Sample.operator.existenceRefusal) (Sample.operator.inPhase .deploying) ∧
      Operator.Yields (Operator.deploy true) (Sample.operator.inPhase .deploying) []
        (.error (.wrongPhase "deploy" "deploying")) (Sample.operator.inPhase .deploying) ∧
      Operator.Yields (Operator.undeploy true) (Sample.operator.inPhase .deploying)
        [Sample.deletion.timed] (.error Sample.operator.stopRefusal)
        (Sample.operator.inPhase .undeploying) ∧
      Operator.Yields (Operator.undeploy true) Sample.operator []
        (.error (.wrongPhase "undeploy" "not deployed")) Sample.operator ∧
      Lifetime Sample.operator [Sample.deployment, Sample.undeployment]
        (Sample.operator.inPhase .undeploying) ∧
      (Sample.operator.inPhase .undeploying).profile.resolvedName = none := by
  obtain ⟨hcreate, hupdate, hoperator, hlives⟩ := refused_waits_keep_writes
  obtain ⟨hdeploy, -, -, hearly⟩ := hoperator Sample.operator Sample.operator_isFaulty
  obtain ⟨-, hagain, hundeploy, -⟩ := hoperator (Sample.operator.inPhase .deploying)
    Sample.operator_isFaulty
  refine ⟨?_, ?_, ?_, ?_, ?_, ?_, Sample.life, ?_⟩
  · exact (hcreate _ _ _ _ rfl Sample.isFaulty _ _).mpr ⟨.ok Sample.stored, rfl, rfl⟩
  · exact (hupdate _ _ _ rfl Sample.isFaulty _ _).mpr ⟨.error Sample.conflict, rfl, rfl⟩
  · exact (hdeploy rfl _ _ _).mpr ⟨_, _, rfl, Sample.applied, rfl, rfl⟩
  · exact (hagain OperatorPhase.noConfusion _ _ _).mpr ⟨rfl, rfl, rfl⟩
  · exact (hundeploy rfl _ _ _).mpr ⟨_, _, rfl, Sample.deleted, rfl, rfl⟩
  · exact (hearly rfl _ _ _).mpr ⟨rfl, rfl, rfl⟩
  · obtain ⟨-, -, hname⟩ := hlives _ _ _ Sample.profile_isNew Sample.operator_isFaulty _ _
      Sample.life
    exact hname

end BrokerHarness
