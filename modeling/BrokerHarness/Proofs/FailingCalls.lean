import BrokerHarness.Proofs.FirstFailure
import BrokerHarness.Proofs.NameResolution
import BrokerHarness.Proofs.Operator.Sweep
import BrokerHarness.Resource.Provisioning

/-!
# Failing calls of the cluster

A call of the cluster that fails ends the operation that makes it, with its failure.  Nothing is
tried again, and no further round of a polling begins.  The operations are those on an operator
(`OperatorCall`) and those on resources (`ResourceCall`).

The only failure that an operation goes on behind is that an object to be deleted by an undeployment
is not there.  It is skipped: the operation goes on as if the deletion had been accepted
(`Operator.undeploy_yields_skipAbsence`).
-/

namespace BrokerHarness

/-- The control plane answers a request with a failure. -/
def Exchange.FailsWith : Exchange controlPlane → Failure → Prop
  | ⟨.apply _, x⟩, e | ⟨.delete _, x⟩, e | ⟨.get .., x⟩, e | ⟨.list .., x⟩, e => x = .error e

/-- The object of a deletion is not there. -/
def Exchange.FindsAbsent : Exchange controlPlane → Prop
  | ⟨.delete _, x⟩ => ∃ kind ns name, x = .error (.notFound kind ns name)
  | ⟨.apply _, _⟩ | ⟨.get .., _⟩ | ⟨.list .., _⟩ => False

/-! ### Requests -/

namespace ControlPlane

variable {kind : ObjectKind} {ns name : String} {target : ObjectAddress} {manifest : Manifest}

lemma apply_passesOn : (apply manifest).PassesOn Exchange.FailsWith := by
  intro t r h
  obtain rfl := apply_yields_iff.mp h
  exact endsAtFailure_singleton fun failure hfails => hfails

lemma delete_passesOn : (delete target).PassesOn Exchange.FailsWith := by
  intro t r h
  obtain rfl := delete_yields_iff.mp h
  exact endsAtFailure_singleton fun failure hfails => hfails

lemma get_passesOn : (get kind ns name).PassesOn Exchange.FailsWith := by
  intro t r h
  obtain rfl := get_yields_iff.mp h
  exact endsAtFailure_singleton fun failure hfails => hfails

lemma list_passesOn : (list kind ns name).PassesOn Exchange.FailsWith := by
  intro t r h
  obtain rfl := list_yields_iff.mp h
  exact endsAtFailure_singleton fun failure hfails => hfails

lemma isPresent_passesOn : (isPresent kind ns name).PassesOn Exchange.FailsWith :=
  get_passesOn.bind fun _ => Action.passesOn_pure _

/-- That conditions cannot be decoded is not the failure of a request. -/
lemma statusConditions_passesOn : (statusConditions kind ns name).PassesOn Exchange.FailsWith := by
  refine get_passesOn.bind fun found => ?_
  cases found with
  | none => exact Action.passesOn_pure _
  | some snapshot =>
    exact (Action.passesOn_ofExcept snapshot.statusConditions).bind fun _ => Action.passesOn_pure _

end ControlPlane

/-! ### Searches for a name -/

/-- The question for a name is answered with a failure. -/
def Exchange.UnansweredWith (e : Exchange existence) (failure : Failure) : Prop :=
  e.answer = (.error failure : Except Failure Bool)

/-- A check that fails ends the attempt, also if another candidate might exist. -/
lemma askExists_passesOn (name : String) :
    (askExists name).PassesOn Exchange.UnansweredWith := by
  intro t r h
  obtain rfl := Program.yields_request_iff.mp h
  exact endsAtFailure_singleton fun failure hfails => hfails

/-- A search for the newest name ends with the first check that fails. -/
lemma firstExisting_passesOn (names : List String) :
    (firstExisting names).PassesOn Exchange.UnansweredWith := by
  induction names with
  | nil => exact Action.passesOn_pure _
  | cons name rest ih =>
    refine (askExists_passesOn name).bind fun present => ?_
    cases present with
    | true => exact Action.passesOn_pure _
    | false => exact ih

/-- A search for a unique name ends with the first check that fails. -/
lemma allExisting_passesOn (names : List String) :
    (allExisting names).PassesOn Exchange.UnansweredWith := by
  induction names with
  | nil => exact Action.passesOn_pure _
  | cons name rest ih =>
    refine (askExists_passesOn name).bind fun present => ?_
    cases present with
    | true => exact ih.bind fun _ => Action.passesOn_pure _
    | false => exact ih

lemma NamePolicy.search_passesOn (policy : NamePolicy) (candidates : List String) :
    (policy.search candidates).PassesOn Exchange.UnansweredWith := by
  cases policy with
  | preferNewest => exact firstExisting_passesOn candidates
  | requireUnique =>
    refine (allExisting_passesOn candidates).bind fun found => ?_
    match found with
    | [] | [one] => exact Action.passesOn_pure _
    | first :: second :: more => exact Action.passesOn_throw _

/-- An attempt to resolve a name fails with the first check that does. -/
lemma Resolver.attempt_passesOn (resolver : Resolver) :
    resolver.attempt.PassesOn Exchange.UnansweredWith := by
  unfold attempt
  cases resolver.resolved with
  | none => exact resolver.policy.search_passesOn resolver.candidates
  | some name => exact Action.passesOn_pure _

/-! ### Operations on an operator -/

namespace Operator

variable {operator before after : Operator} {t : List (Exchange controlPlane.timed)}
  {r : Except Failure Unit}

/-- A call of the cluster fails, other than by an absent object that was to be deleted. -/
def FailsUnskipped (e : Exchange controlPlane) (failure : Failure) : Prop :=
  e.FailsWith failure ∧ ¬ e.FindsAbsent

/-- The applications end with the first that fails. -/
lemma applyAll_passesOn (manifests : List Manifest) :
    (applyAll manifests).PassesOn Exchange.FailsWith := by
  induction manifests with
  | nil => exact Action.passesOn_pure _
  | cons manifest rest ih => exact ControlPlane.apply_passesOn.bind fun _ => ih

/-- A deletion passes its failure on, unless it tells that the object is absent. -/
lemma deleteIfPresent_passesOn (target : ObjectAddress) :
    (deleteIfPresent target).PassesOn FailsUnskipped := by
  intro t r h
  obtain ⟨e, rfl, hdeletes, rfl⟩ | ⟨e, failure, rfl, hfails, rfl⟩ := deleteIfPresent_yields_iff.mp h
  · refine endsAtFailure_of_not_fails (List.forall_mem_singleton.mpr ?_)
    rintro failure ⟨hfails, hpresent⟩
    cases hdeletes with
    | accepted => cases hfails
    | absent kind ns name => exact hpresent ⟨kind, ns, name, rfl⟩
  · refine endsAtFailure_singleton fun other hother => ?_
    cases hfails with
    | refused => exact hother.1

/-- The deletions end with the first that fails for another reason than absence. -/
lemma deleteAll_passesOn (targets : List ObjectAddress) :
    (deleteAll targets).PassesOn FailsUnskipped := by
  induction targets with
  | nil => exact Action.passesOn_pure _
  | cons target rest ih => exact (deleteIfPresent_passesOn target).bind fun _ => ih

/-- An absent object is skipped, a refusal behind it ends the deletions. -/
example (first second : ObjectAddress) :
    (deleteAll [first, second]).Yields
      [⟨.delete first, .error (.notFound "Service" "ops" "metrics")⟩,
        ⟨.delete second, .error (.apiServer (some 403) "forbidden")⟩]
      (.error (.apiServer (some 403) "forbidden")) :=
  .ask (.ask (.done _))

/-- A search for the deployment fails as its look-ups do. -/
lemma existingDeployment_passesOn (operator : Operator) :
    operator.existingDeployment.PassesOn Exchange.FailsWith := by
  have hattempt : Action.PassesOn Exchange.FailsWith
      (operator.profile.resolver.attempt.interpret fun name =>
        (ControlPlane.isPresent .deployment operator.deploymentNamespace name).run) :=
    operator.profile.resolver.attempt_passesOn.interpret
      fun name t x h => ControlPlane.isPresent_passesOn t x h
  refine hattempt.bind fun found => ?_
  cases found with
  | none => exact Action.passesOn_pure _
  | some name => exact Action.passesOn_pure _

/-- A look at the deployment fails as its look-up does. -/
lemma readyDeployment_passesOn (operator : Operator) (name : String) :
    (operator.readyDeployment name).PassesOn Exchange.FailsWith := by
  refine ControlPlane.get_passesOn.bind fun found => ?_
  cases found with
  | none => exact Action.passesOn_pure _
  | some snapshot => exact Action.passesOn_pure _

/-- An evaluation of the wait for the operator to stop fails with its first look-up that does. -/
lemma stoppedUnder_passesOn (ns : String) (names : List String) :
    (stoppedUnder ns names).PassesOn Exchange.FailsWith := by
  induction names with
  | nil => exact Action.passesOn_pure _
  | cons name rest ih =>
    refine ControlPlane.isPresent_passesOn.bind fun present => ?_
    cases present with
    | true => exact Action.passesOn_pure _
    | false =>
      refine ControlPlane.list_passesOn.bind fun pods => ?_
      split
      · exact ih
      · exact Action.passesOn_pure _

/-- The search for the operator's pod fails as its list does. -/
lemma firstPod_passesOn (operator : Operator) :
    operator.firstPod.PassesOn Exchange.FailsWith := by
  unfold firstPod
  cases operator.profile.resolvedName with
  | none => exact Action.passesOn_throw _
  | some name =>
    refine ControlPlane.list_passesOn.bind fun pods => ?_
    cases pods with
    | nil => exact Action.passesOn_throw _
    | cons pod rest => exact Action.passesOn_pure _

/-- A deployment ends at its first failure, in whichever of its stages. -/
lemma DeployRun.endsAtFailure {awaitReady : Bool} (h : DeployRun before awaitReady t r after) :
    EndsAtFailure (FailsTimed Exchange.FailsWith) t r := by
  have happly := (applyAll_passesOn before.manifests).timed
  have hexistence : Action.PassesOn (I := controlPlane.timed) (FailsTimed Exchange.FailsWith)
      before.awaitExistence := poll_passesOn (existingDeployment_passesOn before)
  have hreadiness : ∀ name, Action.PassesOn (I := controlPlane.timed)
      (FailsTimed Exchange.FailsWith) (before.awaitReadiness name) :=
    fun name => poll_passesOn (readyDeployment_passesOn before name)
  cases h with
  | applyFailed apply | applied apply => exact happly _ _ apply
  | nameless apply existence =>
    exact (hexistence _ _ existence).of_error.behind (happly _ _ apply).not_fails
  | unready apply existence readiness | ready apply existence readiness =>
    refine EndsAtFailure.behind ?_ (happly _ _ apply).not_fails
    exact (hreadiness _ _ _ readiness).behind (hexistence _ _ existence).not_fails

/-- An undeployment ends at its first failure but those that it skips. -/
lemma UndeployRun.endsAtFailure {awaitRemoval : Bool}
    (h : UndeployRun before awaitRemoval t r after) :
    EndsAtFailure (FailsTimed FailsUnskipped) t r := by
  have hdelete := (deleteAll_passesOn (before.manifests.reverse.map Manifest.address)).timed
  have hremoval : Action.PassesOn (I := controlPlane.timed) (FailsTimed FailsUnskipped)
      before.awaitStopped :=
    poll_passesOn ((stoppedUnder_passesOn _ _).mono fun _ _ hfails => hfails.1)
  cases h with
  | deleteFailed delete | deleted delete => exact hdelete _ _ delete
  | running delete removal | stopped delete removal =>
    exact (hremoval _ _ removal).behind (hdelete _ _ delete).not_fails

end Operator

/-! ### Skipped failures -/

namespace Exchange

/-- A deletion that finds its object absent, as one that is accepted.  Every other exchange stays as
it is. -/
def skipAbsence : Exchange controlPlane → Exchange controlPlane
  | ⟨.delete target, .error (.notFound ..)⟩ => ⟨.delete target, .ok ()⟩
  | e => e

/-- The same beside a clock. -/
def skipAbsenceTimed : Exchange controlPlane.timed → Exchange controlPlane.timed
  | ⟨.other r, x⟩ => (skipAbsence ⟨r, x⟩).timed
  | e => e

/-- Whether answers of absence are skipped before or behind the clock is added makes no difference.
-/
lemma map_timed_skipAbsence (asked : List (Exchange controlPlane)) :
    (asked.map timed).map skipAbsenceTimed = (asked.map skipAbsence).map timed := by
  rw [List.map_map, List.map_map]
  rfl

/-- The answers of look-ups are not skipped. -/
lemma skipAbsenceTimed_of_isLookup {e : Exchange controlPlane.timed}
    (h : TimedRequest.Within ControlPlaneRequest.IsLookup e.request) : e.skipAbsenceTimed = e := by
  obtain ⟨request, x⟩ := e
  cases request with
  | clock since => rfl
  | sleep time => rfl
  | other request =>
    cases request with
    | apply manifest => exact h.elim
    | delete target => exact h.elim
    | get kind ns name => rfl
    | list kind ns stem => rfl

end Exchange

namespace Operator

variable {before after : Operator} {t : List (Exchange controlPlane.timed)}
  {r : Except Failure Unit}

/-- An object that is deleted or absent counts as deleted. -/
lemma deletes_skipAbsence {target : ObjectAddress} {e : Exchange controlPlane}
    (h : Deletes target e) : Deletes target e.skipAbsence := by
  cases h with
  | accepted => exact .accepted target
  | absent => exact .accepted target

/-- A deletion that fails for another reason than absence still fails. -/
lemma failsToDelete_skipAbsence {target : ObjectAddress} {failure : Failure}
    {e : Exchange controlPlane} (h : FailsToDelete target failure e) :
    FailsToDelete target failure e.skipAbsence := by
  cases h with
  | refused other =>
    cases failure with
    | notFound kind ns name => exact absurd rfl (other kind ns name)
    | _ => exact .refused target _ other

/-- An undeployment goes on behind an absent object as behind one that it deletes. -/
lemma UndeployRun.skipAbsence {awaitRemoval : Bool}
    (h : UndeployRun before awaitRemoval t r after) :
    UndeployRun before awaitRemoval (t.map Exchange.skipAbsenceTimed) r after := by
  have hdelete : ∀ {targets : List ObjectAddress} {t : List (Exchange controlPlane.timed)}
      {r : Except Failure Unit}, (deleteAll targets).timed.Yields t r →
        (deleteAll targets).timed.Yields (t.map Exchange.skipAbsenceTimed) r := by
    intro targets t r run
    obtain ⟨asked, rfl, hloop⟩ := deleteAll_timed_yields_iff.mp run
    rw [Exchange.map_timed_skipAbsence]
    refine deleteAll_timed_yields_iff.mpr ⟨_, rfl, ?_⟩
    exact hloop.map (fun _ _ => deletes_skipAbsence) fun _ _ _ => failsToDelete_skipAbsence
  -- Behind the deletions there are only look-ups, which are left as they are.
  have hremoval : ∀ {t : List (Exchange controlPlane.timed)} {r : Except Failure Unit},
      before.awaitStopped.Yields t r → t.map Exchange.skipAbsenceTimed = t := by
    intro t r run
    have hlookups := poll_asksOnly (stoppedUnder_asksOnly _ _) t r run
    refine (List.map_congr_left fun e he => ?_).trans (List.map_id t)
    exact Exchange.skipAbsenceTimed_of_isLookup (hlookups e he)
  cases h with
  | deleteFailed delete => exact .deleteFailed (hdelete delete)
  | deleted delete => exact .deleted (hdelete delete)
  | running delete removal =>
    rw [List.map_append, hremoval removal]
    exact .running (hdelete delete) removal
  | stopped delete removal =>
    rw [List.map_append, hremoval removal]
    exact .stopped (hdelete delete) removal

/-- Whatever an undeployment is answered, it goes as if each absent object had been deleted. -/
theorem undeploy_yields_skipAbsence {awaitRemoval : Bool}
    (h : Yields (undeploy awaitRemoval) before t r after) :
    Yields (undeploy awaitRemoval) before (t.map Exchange.skipAbsenceTimed) r after := by
  obtain ⟨hphase, hrun⟩ | ⟨hphase, rfl, rfl, rfl⟩ := undeploy_yields_iff.mp h
  · exact undeploy_yields_iff.mpr (.inl ⟨hphase, hrun.skipAbsence⟩)
  · exact undeploy_yields_iff.mpr (.inr ⟨hphase, rfl, rfl, rfl⟩)

end Operator

/-- The failures that a call on an operator does not skip. -/
def OperatorCall.FailsOn : OperatorCall → Exchange controlPlane → Failure → Prop
  | undeploy _ => Operator.FailsUnskipped
  | deploy _ | firstPod => Exchange.FailsWith

/-- A call on an operator ends at the first failure that it does not skip. -/
lemma OperatorStep.endsAtFailure (step : OperatorStep) :
    EndsAtFailure (FailsTimed step.call.FailsOn) step.exchanges step.outcome := by
  obtain ⟨call, before, t, r, after, run⟩ := step
  cases OperatorCall.run_of_yields run with
  | deploy _ h => exact h.endsAtFailure
  | undeploy _ h => exact h.endsAtFailure
  | firstPod h => exact (Operator.firstPod_passesOn before).timed _ _ h
  | refused => exact endsAtFailure_nil

/-! ### Operations on resources -/

/-- An operation on resources, with its arguments. -/
inductive ResourceCall where
  | create (ns : String) (manifest : Manifest) (options : WaitOptions)
  | update (resource : Resource) (options : WaitOptions)
  | delete (resource : Resource)
  | refresh (resource : Resource)
  | requireCondition (resource : Resource) (expected : Expectation) (timeout : Nat)
  | awaitRemoval (resource : Resource) (timeout : Nat)
  | listByStem (kind : ObjectKind) (ns stem : String)

namespace ResourceCall

/-- What the operation gives if it succeeds. -/
def Result : ResourceCall → Type
  | create .. | refresh _ => Resource
  | update .. => Update
  | delete _ | awaitRemoval .. => Unit
  | requireCondition .. => Condition
  | listByStem .. => List Snapshot

/-- What the operation does. -/
def operation (provisioning : Provisioning) :
    (call : ResourceCall) → Action controlPlane.timed call.Result
  | create ns manifest options => provisioning.create ns manifest options
  | update resource options => provisioning.update resource options
  | delete resource => (Provisioning.delete resource).timed
  | refresh resource => (Provisioning.refresh resource).timed
  | requireCondition resource expected timeout =>
    provisioning.requireCondition resource expected timeout
  | awaitRemoval resource timeout => provisioning.awaitRemoval resource timeout
  | listByStem kind ns stem => (Provisioning.listByStem kind ns stem).timed

end ResourceCall

namespace Provisioning

variable {provisioning : Provisioning} {resource : Resource}

/-- A look at the readiness of an object fails as its look-ups do. -/
lemma observeReadiness_passesOn (kind : ObjectKind) (ns name : String) :
    (observeReadiness kind ns name).PassesOn Exchange.FailsWith := by
  refine ControlPlane.get_passesOn.bind fun found => ?_
  cases found with
  | none => exact Action.passesOn_pure _
  | some snapshot => exact Action.passesOn_ofExcept _

/-- A submission fails with its first request that does, be it the application or a look-up. -/
lemma submit_passesOn (manifest : Manifest) (options : WaitOptions) (defaultTimeout : Nat) :
    Action.PassesOn (I := controlPlane.timed) (FailsTimed Exchange.FailsWith)
      (provisioning.submit manifest options defaultTimeout) := by
  refine ControlPlane.apply_passesOn.timed.bind fun applied => ?_
  split
  · exact poll_passesOn (observeReadiness_passesOn _ _ _)
  · exact Action.passesOn_pure _

/-- The claims are not told if they cannot be listed. -/
lemma unresizedClaims_passesOn (snapshot : Snapshot) :
    (unresizedClaims snapshot).PassesOn Exchange.FailsWith := by
  unfold unresizedClaims
  split
  · exact Action.passesOn_pure _
  · cases storageSize? snapshot.body with
    | none => exact Action.passesOn_pure _
    | some desired => exact ControlPlane.list_passesOn.bind fun _ => Action.passesOn_pure _

/-- A refresh fails as its look-up does. -/
lemma refresh_passesOn (resource : Resource) :
    (refresh resource).PassesOn Exchange.FailsWith := by
  refine ControlPlane.get_passesOn.bind fun found => ?_
  cases found with
  | none => exact Action.passesOn_throw _
  | some snapshot => exact Action.passesOn_ofExcept _

/-- A look at a condition fails as its look-up does. -/
lemma observeCondition_passesOn (resource : Resource) (expected : Expectation) :
    (observeCondition resource expected).PassesOn Exchange.FailsWith := by
  refine ControlPlane.statusConditions_passesOn.bind fun found => ?_
  cases found with
  | none => exact Action.passesOn_pure _
  | some conditions =>
    dsimp only
    split <;> exact Action.passesOn_pure _

/-- Every operation on resources passes on the failures of the cluster. -/
lemma operation_passesOn (call : ResourceCall) :
    Action.PassesOn (I := controlPlane.timed) (FailsTimed Exchange.FailsWith)
      (call.operation provisioning) := by
  cases call with
  | create ns manifest options =>
    exact (submit_passesOn _ _ _).bind fun _ => Action.passesOn_ofExcept _
  | update resource options =>
    refine (submit_passesOn _ _ _).bind fun snapshot => ?_
    refine (unresizedClaims_passesOn snapshot).timed.bind fun claims => ?_
    exact (Action.passesOn_ofExcept _).bind fun _ => Action.passesOn_pure _
  | delete resource => exact ControlPlane.delete_passesOn.timed
  | refresh resource => exact (refresh_passesOn resource).timed
  | requireCondition resource expected timeout =>
    exact poll_passesOn (observeCondition_passesOn resource expected)
  | awaitRemoval resource timeout =>
    exact poll_passesOn (ControlPlane.isPresent_passesOn.bind fun _ => Action.passesOn_pure _)
  | listByStem kind ns stem => exact ControlPlane.list_passesOn.timed

end Provisioning

/-! ### All operations -/

/-- A call of the cluster that fails is the last one of the operation that makes it, and its failure
is the result.  Only an undeployment skips objects that are not there: it goes on as if they had
been deleted.  Every operation comes to an end, whatever the cluster answers, since the clock never
goes back and does not cut sleeps short (`Interface.timed`). -/
theorem failing_call_ends_operation :
    (∀ step : OperatorStep,
      EndsAtFailure (FailsTimed step.call.FailsOn) step.exchanges step.outcome) ∧
    (∀ awaitRemoval before t r after,
      Operator.Yields (Operator.undeploy awaitRemoval) before t r after →
        Operator.Yields (Operator.undeploy awaitRemoval) before
          (t.map Exchange.skipAbsenceTimed) r after) ∧
    (∀ (provisioning : Provisioning) (call : ResourceCall) t r,
      (call.operation provisioning).Yields t r →
        EndsAtFailure (FailsTimed Exchange.FailsWith) t r) ∧
    ∀ (σ : Type) (answer : (q : controlPlane.timed.Request) → σ → controlPlane.timed.Answer q × σ)
      (s : σ),
      (∀ operator call, ∃ step : OperatorStep, step.call = call ∧ step.before = operator ∧
        Program.Answered answer s step.exchanges) ∧
      ∀ (provisioning : Provisioning) (call : ResourceCall), ∃ t r,
        (call.operation provisioning).Yields t r ∧ Program.Answered answer s t := by
  refine ⟨OperatorStep.endsAtFailure, fun _ _ _ _ _ => Operator.undeploy_yields_skipAbsence,
    fun provisioning call => Provisioning.operation_passesOn call, fun σ answer s => ⟨?_, ?_⟩⟩
  · intro operator call
    exact OperatorStep.exists_step operator call answer s
  · exact fun provisioning call => (call.operation provisioning).exists_yields answer s

end BrokerHarness
