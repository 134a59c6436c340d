import BrokerHarness.Operator.Deployment
import BrokerHarness.Proofs.ControlPlane
import BrokerHarness.Proofs.Polling.Decision

/-!
# Runs of the operations on an operator

An operation on an operator carries the operator through its requests, and what it changed before a
failure stays changed.  The first part derives the runs of such operations from the runs of their
parts.

`DeployRun` and `UndeployRun` then list, once and for all, what an accepted deployment and an
accepted undeployment can do: at which of their stages they end, what they asked until then, and in
which state they leave the operator.  `deploy_yields_iff` and `undeploy_yields_iff` say that there
is nothing else besides the refusal in a phase that does not fit.  What later proofs need of the
runs is read off them at the end: how they end (`DeployRun.ends`, `UndeployRun.ends`), and that an
undeployment does not apply anything (`UndeployRun.not_isApply`).
-/

namespace BrokerHarness

namespace Operator

variable {α β : Type} {before after : Operator} {t : List (Exchange controlPlane.timed)}

/-- The operation on the operator `before` asks exactly the requests of the exchanges when it is
answered as there, gives a value or fails, and leaves the operator `after`. -/
def Yields (operation : OperatorM α) (before : Operator) (t : List (Exchange controlPlane.timed))
    (r : Except Failure α) (after : Operator) : Prop :=
  Program.Yields (operation.run.run before) t (r, after)

/-- Whatever answers the requests of an operation, the operation comes to an end. -/
lemma exists_yields {σ : Type} (operation : OperatorM α) (operator : Operator)
    (answer : (q : controlPlane.timed.Request) → σ → controlPlane.timed.Answer q × σ) (s : σ) :
    ∃ t r after, Yields operation operator t r after ∧ Program.Answered answer s t := by
  obtain ⟨t, run, hanswered⟩ := Program.exists_yields (operation.run.run operator) answer s
  exact ⟨t, _, _, run, hanswered⟩

/-- The operator in another phase. -/
def inPhase (operator : Operator) (phase : OperatorPhase) : Operator := { operator with phase }

/-- The operator with the name of its deployment kept. -/
def withName (operator : Operator) (name : String) : Operator :=
  { operator with
    profile := { operator.profile with resolver := operator.profile.resolver.keep name } }

/-- An operator without a name gets the one that is kept. -/
lemma withName_resolvedName {operator : Operator} (h : operator.profile.resolvedName = none)
    (name : String) : (operator.withName name).profile.resolvedName = some name := by
  have hresolved : operator.profile.resolver.resolved = none := h
  change some (operator.profile.resolver.resolved.getD name) = some name
  rw [hresolved]
  rfl

/-- A failure leaves the operator as it is. -/
lemma yields_throw_iff {e : Failure} {r : Except Failure α} :
    Yields (throw e : OperatorM α) before t r after ↔
      t = [] ∧ r = .error e ∧ after = before := by
  refine Program.yields_done_iff.trans ?_
  rw [Prod.mk.injEq]

/-- Entering a phase asks nothing and does not fail. -/
lemma yields_enter_iff {phase : OperatorPhase} {r : Except Failure Unit} :
    Yields (enter phase) before t r after ↔ t = [] ∧ r = .ok () ∧ after = before.inPhase phase := by
  refine Program.yields_done_iff.trans ?_
  rw [Prod.mk.injEq]
  rfl

/-- An action on the control plane leaves the operator as it is. -/
lemma yields_perform_iff {action : Action controlPlane.timed α} {r : Except Failure α} :
    Yields (perform action) before t r after ↔ action.Yields t r ∧ after = before := by
  refine Program.yields_bind_iff.trans ?_
  constructor
  · rintro ⟨t₁, t₂, x, rfl, h₁, h₂⟩
    obtain ⟨rfl, hx⟩ := Program.yields_done_iff.mp h₂
    obtain ⟨rfl, rfl⟩ := Prod.mk.inj hx
    exact ⟨by rwa [List.append_nil], rfl⟩
  · rintro ⟨h, rfl⟩
    exact ⟨t, [], r, (List.append_nil t).symm, h, .done _⟩

/-- The parts of an operation run one after the other on the operator, until one fails. -/
theorem yields_bind_iff {operation : OperatorM α} {f : α → OperatorM β} {r : Except Failure β} :
    Yields (operation >>= f) before t r after ↔
      (∃ e, Yields operation before t (.error e) after ∧ r = .error e) ∨
        ∃ t₁ t₂ a between, t = t₁ ++ t₂ ∧ Yields operation before t₁ (.ok a) between ∧
          Yields (f a) between t₂ r after := by
  refine Program.yields_bind_iff.trans ?_
  constructor
  · rintro ⟨t₁, t₂, ⟨x, between⟩, rfl, h₁, h₂⟩
    cases x with
    | error e =>
      obtain ⟨rfl, hx⟩ := Program.yields_done_iff.mp h₂
      obtain ⟨rfl, rfl⟩ := Prod.mk.inj hx
      exact .inl ⟨e, by rwa [List.append_nil], rfl⟩
    | ok a => exact .inr ⟨t₁, t₂, a, between, rfl, h₁, h₂⟩
  · rintro (⟨e, h, rfl⟩ | ⟨t₁, t₂, a, between, rfl, h₁, h₂⟩)
    · exact ⟨t, [], (.error e, after), (List.append_nil t).symm, h, .done _⟩
    · exact ⟨t₁, t₂, (.ok a, between), rfl, h₁, h₂⟩

/-- Looking at the operator asks nothing. -/
lemma yields_get_bind_iff {f : Operator → OperatorM β} {r : Except Failure β} :
    Yields (get >>= f) before t r after ↔ Yields (f before) before t r after :=
  Iff.rfl

/-- Entering a phase asks nothing. -/
lemma yields_enter_bind_iff {phase : OperatorPhase} {f : Unit → OperatorM β}
    {r : Except Failure β} :
    Yields (enter phase >>= f) before t r after ↔ Yields (f ()) (before.inPhase phase) t r after :=
  Iff.rfl

/-- Keeping a name asks nothing. -/
lemma yields_keepName_bind_iff {name : String} {f : Unit → OperatorM β} {r : Except Failure β} :
    Yields (keepName name >>= f) before t r after ↔
      Yields (f ()) (before.withName name) t r after :=
  Iff.rfl

/-- An action on the control plane leaves the operator to what follows, unless it fails. -/
lemma yields_perform_bind_iff {action : Action controlPlane.timed α} {f : α → OperatorM β}
    {r : Except Failure β} :
    Yields (perform action >>= f) before t r after ↔
      (∃ e, action.Yields t (.error e) ∧ r = .error e ∧ after = before) ∨
        ∃ t₁ t₂ a, t = t₁ ++ t₂ ∧ action.Yields t₁ (.ok a) ∧ Yields (f a) before t₂ r after := by
  rw [yields_bind_iff]
  simp only [yields_perform_iff]
  constructor
  · rintro (⟨e, ⟨h, rfl⟩, rfl⟩ | ⟨t₁, t₂, a, _, rfl, ⟨h, rfl⟩, h₂⟩)
    · exact .inl ⟨e, h, rfl, rfl⟩
    · exact .inr ⟨t₁, t₂, a, rfl, h, h₂⟩
  · rintro (⟨e, h, rfl, rfl⟩ | ⟨t₁, t₂, a, rfl, h, h₂⟩)
    · exact .inl ⟨e, ⟨h, rfl⟩, rfl⟩
    · exact .inr ⟨t₁, t₂, a, before, rfl, ⟨h, rfl⟩, h₂⟩

/-! ### What a deployment and an undeployment can do -/

/-- The runs of a deployment that is accepted. -/
inductive DeployRun (operator : Operator) :
    Bool → List (Exchange controlPlane.timed) → Except Failure Unit → Operator → Prop where
  /-- A manifest cannot be applied. -/
  | applyFailed {awaitReady : Bool} {t : List (Exchange controlPlane.timed)} {e : Failure}
      (apply : (applyAll operator.manifests).timed.Yields t (.error e)) :
      DeployRun operator awaitReady t (.error e) (operator.inPhase .deploying)
  /-- The manifests are applied, and nothing is waited for. -/
  | applied {t : List (Exchange controlPlane.timed)}
      (apply : (applyAll operator.manifests).timed.Yields t (.ok ())) :
      DeployRun operator false t (.ok ()) (operator.inPhase .deployed)
  /-- No deployment is found under a candidate's name. -/
  | nameless {t₁ t₂ : List (Exchange controlPlane.timed)} {e : Failure}
      (apply : (applyAll operator.manifests).timed.Yields t₁ (.ok ()))
      (existence : operator.awaitExistence.Yields t₂ (.error e)) :
      DeployRun operator true (t₁ ++ t₂) (.error e) (operator.inPhase .deploying)
  /-- The deployment is found, but does not get ready. -/
  | unready {t₁ t₂ t₃ : List (Exchange controlPlane.timed)} {name : String} {e : Failure}
      (apply : (applyAll operator.manifests).timed.Yields t₁ (.ok ()))
      (existence : operator.awaitExistence.Yields t₂ (.ok name))
      (readiness : (operator.awaitReadiness name).Yields t₃ (.error e)) :
      DeployRun operator true (t₁ ++ (t₂ ++ t₃)) (.error e)
        ((operator.withName name).inPhase .deploying)
  /-- The deployment is found and gets ready. -/
  | ready {t₁ t₂ t₃ : List (Exchange controlPlane.timed)} {name : String}
      (apply : (applyAll operator.manifests).timed.Yields t₁ (.ok ()))
      (existence : operator.awaitExistence.Yields t₂ (.ok name))
      (readiness : (operator.awaitReadiness name).Yields t₃ (.ok ())) :
      DeployRun operator true (t₁ ++ (t₂ ++ t₃)) (.ok ())
        ((operator.withName name).inPhase .deployed)

/-- The runs of an undeployment that is accepted. -/
inductive UndeployRun (operator : Operator) :
    Bool → List (Exchange controlPlane.timed) → Except Failure Unit → Operator → Prop where
  /-- An object cannot be deleted. -/
  | deleteFailed {awaitRemoval : Bool} {t : List (Exchange controlPlane.timed)} {e : Failure}
      (delete : (deleteAll (operator.manifests.reverse.map Manifest.address)).timed.Yields t
        (.error e)) :
      UndeployRun operator awaitRemoval t (.error e) (operator.inPhase .undeploying)
  /-- The objects are deleted or were not there, and nothing is waited for. -/
  | deleted {t : List (Exchange controlPlane.timed)}
      (delete : (deleteAll (operator.manifests.reverse.map Manifest.address)).timed.Yields t
        (.ok ())) :
      UndeployRun operator false t (.ok ()) (operator.inPhase .undeployed)
  /-- The operator does not stop. -/
  | running {t₁ t₂ : List (Exchange controlPlane.timed)} {e : Failure}
      (delete : (deleteAll (operator.manifests.reverse.map Manifest.address)).timed.Yields t₁
        (.ok ()))
      (removal : operator.awaitStopped.Yields t₂ (.error e)) :
      UndeployRun operator true (t₁ ++ t₂) (.error e) (operator.inPhase .undeploying)
  /-- The operator stops. -/
  | stopped {t₁ t₂ : List (Exchange controlPlane.timed)}
      (delete : (deleteAll (operator.manifests.reverse.map Manifest.address)).timed.Yields t₁
        (.ok ()))
      (removal : operator.awaitStopped.Yields t₂ (.ok ())) :
      UndeployRun operator true (t₁ ++ t₂) (.ok ()) (operator.inPhase .undeployed)

variable {r : Except Failure Unit}

/-- A deployment is accepted before anything else, and refused without a request afterwards. -/
theorem deploy_yields_iff {awaitReady : Bool} :
    Yields (deploy awaitReady) before t r after ↔
      (before.phase = .notDeployed ∧ DeployRun before awaitReady t r after) ∨
        (before.phase ≠ .notDeployed ∧ t = [] ∧
          r = .error (.wrongPhase "deploy" before.phase.text) ∧ after = before) := by
  unfold deploy
  rw [yields_get_bind_iff]
  by_cases hphase : before.phase = .notDeployed
  · rw [if_pos hphase, yields_enter_bind_iff, yields_perform_bind_iff]
    simp only [hphase, true_and, ne_eq, not_true_eq_false, false_and, or_false]
    constructor
    · rintro (⟨e, apply, rfl, rfl⟩ | ⟨t₁, t₂, ⟨⟩, rfl, apply, h⟩)
      · exact .applyFailed apply
      cases awaitReady with
      | false =>
        obtain ⟨rfl, rfl, rfl⟩ := yields_enter_iff.mp h
        rw [List.append_nil]
        exact .applied apply
      | true =>
        obtain ⟨e, existence, rfl, rfl⟩ | ⟨t₂, t₃, name, rfl, existence, h⟩ :=
          yields_perform_bind_iff.mp h
        · exact .nameless apply existence
        obtain ⟨e, readiness, rfl, rfl⟩ | ⟨t₃, t₄, ⟨⟩, rfl, readiness, h⟩ :=
          yields_perform_bind_iff.mp (yields_keepName_bind_iff.mp h)
        · exact .unready apply existence readiness
        obtain ⟨rfl, rfl, rfl⟩ := yields_enter_iff.mp h
        rw [List.append_nil]
        exact .ready apply existence readiness
    · intro h
      cases h with
      | applyFailed apply => exact .inl ⟨_, apply, rfl, rfl⟩
      | applied apply =>
        refine .inr ⟨t, [], (), (List.append_nil t).symm, apply, ?_⟩
        exact yields_enter_iff.mpr ⟨rfl, rfl, rfl⟩
      | nameless apply existence =>
        refine .inr ⟨_, _, (), rfl, apply, ?_⟩
        exact yields_perform_bind_iff.mpr (.inl ⟨_, existence, rfl, rfl⟩)
      | unready apply existence readiness =>
        refine .inr ⟨_, _, (), rfl, apply, ?_⟩
        refine yields_perform_bind_iff.mpr (.inr ⟨_, _, _, rfl, existence, ?_⟩)
        refine yields_keepName_bind_iff.mpr ?_
        exact yields_perform_bind_iff.mpr (.inl ⟨_, readiness, rfl, rfl⟩)
      | @ready _ _ t₃ _ apply existence readiness =>
        refine .inr ⟨_, _, (), rfl, apply, ?_⟩
        refine yields_perform_bind_iff.mpr (.inr ⟨_, _, _, rfl, existence, ?_⟩)
        refine yields_keepName_bind_iff.mpr ?_
        refine yields_perform_bind_iff.mpr
          (.inr ⟨t₃, [], (), (List.append_nil t₃).symm, readiness, ?_⟩)
        exact yields_enter_iff.mpr ⟨rfl, rfl, rfl⟩
  · rw [if_neg hphase, yields_throw_iff]
    simp [hphase]

/-- An undeployment is accepted between the begin of the deployment and its own end, and refused
without a request otherwise. -/
theorem undeploy_yields_iff {awaitRemoval : Bool} :
    Yields (undeploy awaitRemoval) before t r after ↔
      (before.phase.canUndeploy = true ∧ UndeployRun before awaitRemoval t r after) ∨
        (before.phase.canUndeploy = false ∧ t = [] ∧
          r = .error (.wrongPhase "undeploy" before.phase.text) ∧ after = before) := by
  unfold undeploy
  rw [yields_get_bind_iff]
  by_cases hphase : before.phase.canUndeploy = true
  · rw [if_pos hphase, yields_enter_bind_iff, yields_perform_bind_iff]
    simp only [hphase, true_and, reduceCtorEq, false_and, or_false]
    constructor
    · rintro (⟨e, delete, rfl, rfl⟩ | ⟨t₁, t₂, ⟨⟩, rfl, delete, h⟩)
      · exact .deleteFailed delete
      cases awaitRemoval with
      | false =>
        obtain ⟨rfl, rfl, rfl⟩ := yields_enter_iff.mp h
        rw [List.append_nil]
        exact .deleted delete
      | true =>
        obtain ⟨e, removal, rfl, rfl⟩ | ⟨t₂, t₃, ⟨⟩, rfl, removal, h⟩ :=
          yields_perform_bind_iff.mp h
        · exact .running delete removal
        obtain ⟨rfl, rfl, rfl⟩ := yields_enter_iff.mp h
        rw [List.append_nil]
        exact .stopped delete removal
    · intro h
      cases h with
      | deleteFailed delete => exact .inl ⟨_, delete, rfl, rfl⟩
      | deleted delete =>
        refine .inr ⟨t, [], (), (List.append_nil t).symm, delete, ?_⟩
        exact yields_enter_iff.mpr ⟨rfl, rfl, rfl⟩
      | running delete removal =>
        refine .inr ⟨_, _, (), rfl, delete, ?_⟩
        exact yields_perform_bind_iff.mpr (.inl ⟨_, removal, rfl, rfl⟩)
      | @stopped _ t₂ delete removal =>
        refine .inr ⟨_, _, (), rfl, delete, ?_⟩
        refine yields_perform_bind_iff.mpr
          (.inr ⟨t₂, [], (), (List.append_nil t₂).symm, removal, ?_⟩)
        exact yields_enter_iff.mpr ⟨rfl, rfl, rfl⟩
  · rw [if_neg hphase, yields_throw_iff]
    simp [hphase]

/-- Between the begin of the deployment and the end of an undeployment, an undeployment is never
refused. -/
lemma undeployRun_of_canUndeploy {awaitRemoval : Bool} (hphase : before.phase.canUndeploy = true)
    (h : Yields (undeploy awaitRemoval) before t r after) :
    UndeployRun before awaitRemoval t r after := by
  obtain ⟨-, hrun⟩ | ⟨hnot, -, -, -⟩ := undeploy_yields_iff.mp h
  · exact hrun
  · rw [hphase] at hnot
    cases hnot

/-! ### What an operation asks and how it ends -/

/-- A deletion that skips absence still only deletes. -/
lemma deleteIfPresent_asksOnly (target : ObjectAddress) :
    Action.AsksOnly ControlPlaneRequest.IsDelete (deleteIfPresent target) := by
  refine ControlPlane.delete_asksOnly.tryCatch fun failure => ?_
  split
  · exact Action.asksOnly_pure _
  · exact Action.asksOnly_throw _

/-- The deletions of an undeployment delete and do not look. -/
lemma deleteAll_asksOnly (targets : List ObjectAddress) :
    Action.AsksOnly ControlPlaneRequest.IsDelete (deleteAll targets) := by
  induction targets with
  | nil => exact Action.asksOnly_pure _
  | cons target rest ih => exact (deleteIfPresent_asksOnly target).bind fun _ => ih

/-- An evaluation of the wait for the operator to stop only looks. -/
lemma stoppedUnder_asksOnly (ns : String) (names : List String) :
    Action.AsksOnly ControlPlaneRequest.IsLookup (stoppedUnder ns names) := by
  induction names with
  | nil => exact Action.asksOnly_pure _
  | cons name rest ih =>
    refine ControlPlane.isPresent_asksOnly.bind fun present => ?_
    cases present with
    | true => exact Action.asksOnly_pure _
    | false =>
      refine ControlPlane.list_asksOnly.bind fun pods => ?_
      split
      · exact ih
      · exact Action.asksOnly_pure _

/-- A search for the deployment only looks. -/
lemma existingDeployment_asksOnly (operator : Operator) :
    Action.AsksOnly ControlPlaneRequest.IsLookup operator.existingDeployment := by
  have hattempt : Action.AsksOnly ControlPlaneRequest.IsLookup
      (operator.profile.resolver.attempt.interpret fun name =>
        (ControlPlane.isPresent .deployment operator.deploymentNamespace name).run) :=
    Action.asksOnly_interpret _ fun name t x h => ControlPlane.isPresent_asksOnly t x h
  refine hattempt.bind fun found => ?_
  cases found with
  | none => exact Action.asksOnly_pure _
  | some name => exact Action.asksOnly_pure _

/-- A look at the readiness of the deployment changes nothing. -/
lemma readyDeployment_asksOnly (operator : Operator) (name : String) :
    Action.AsksOnly ControlPlaneRequest.IsLookup (operator.readyDeployment name) := by
  unfold readyDeployment
  refine ControlPlane.get_asksOnly.bind fun found => ?_
  cases found with
  | none => exact Action.asksOnly_pure _
  | some snapshot => exact Action.asksOnly_pure _

/-- The search for the operator's pod only looks. -/
lemma firstPod_asksOnly (operator : Operator) :
    Action.AsksOnly ControlPlaneRequest.IsLookup operator.firstPod := by
  unfold firstPod
  cases operator.profile.resolvedName with
  | none => exact Action.asksOnly_throw _
  | some name =>
    refine ControlPlane.list_asksOnly.bind fun pods => ?_
    cases pods with
    | nil => exact Action.asksOnly_throw _
    | cons pod rest => exact Action.asksOnly_pure _

/-- A deployment ends deployed, or fails and leaves the operator deploying. -/
lemma DeployRun.ends {awaitReady : Bool} (h : DeployRun before awaitReady t r after) :
    ((∃ a, r = .ok a) ∧ after.phase = .deployed) ∨
      ((∃ e, r = .error e) ∧ after.phase = .deploying) := by
  cases h with
  | applyFailed | nameless | unready => exact .inr ⟨⟨_, rfl⟩, rfl⟩
  | applied | ready => exact .inl ⟨⟨_, rfl⟩, rfl⟩

/-- An undeployment ends undeployed, or fails and leaves the operator undeploying. -/
lemma UndeployRun.ends {awaitRemoval : Bool} (h : UndeployRun before awaitRemoval t r after) :
    ((∃ a, r = .ok a) ∧ after.phase = .undeployed) ∨
      ((∃ e, r = .error e) ∧ after.phase = .undeploying) := by
  cases h with
  | deleteFailed | running => exact .inr ⟨⟨_, rfl⟩, rfl⟩
  | deleted | stopped => exact .inl ⟨⟨_, rfl⟩, rfl⟩

/-- An undeployment applies no manifest: it deletes objects and then only looks at them. -/
lemma UndeployRun.not_isApply {awaitRemoval : Bool}
    (h : UndeployRun before awaitRemoval t r after) : ∀ e ∈ t, ¬ e.IsApply := by
  have hdelete := (deleteAll_asksOnly (before.manifests.reverse.map Manifest.address)).timed
  have hremoval : Action.AsksOnly (I := controlPlane.timed)
      (TimedRequest.Within ControlPlaneRequest.IsLookup) before.awaitStopped :=
    poll_asksOnly (stoppedUnder_asksOnly _ _)
  cases h with
  | deleteFailed delete | deleted delete =>
    exact fun e he => Exchange.not_isApply_of_isDelete (hdelete _ _ delete e he)
  | running delete removal | stopped delete removal =>
    refine List.forall_mem_append.mpr ⟨fun e he => ?_, fun e he => ?_⟩
    · exact Exchange.not_isApply_of_isDelete (hdelete _ _ delete e he)
    · exact Exchange.not_isApply_of_isLookup (hremoval _ _ removal e he)

end Operator

end BrokerHarness
