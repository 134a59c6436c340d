import BrokerHarness.Proofs.Operator.Run

/-!
# The life of an operator

A controller takes three calls: `deploy`, `undeploy` and the look-up of the operator's pod.  A
`Lifetime` is a sequence of such calls on one operator, each answered by the cluster in any way, and
the operator behind them.

`OperatorCall.Run` lists the runs of a single call, and `OperatorStep.effect` says what such a run
does to the phase.  The laws of a life, `Orderly`, follow from it by induction on the calls.  The
invariant that carries the induction ties the phase to the history: nothing was deployed yet exactly
as long as there was no call to deploy (`Lifetime.notDeployed_iff`).
-/

namespace BrokerHarness

/-- The place of a phase in the order in which an operator goes through them. -/
def OperatorPhase.rank : OperatorPhase → Nat
  | notDeployed => 0
  | deploying => 1
  | deployed => 2
  | undeploying => 3
  | undeployed => 4

/-- An operator can be undeployed between the begin of its deployment and the end of an
undeployment. -/
lemma OperatorPhase.canUndeploy_iff {phase : OperatorPhase} :
    phase.canUndeploy = true ↔ phase ≠ .notDeployed ∧ phase ≠ .undeployed := by
  cases phase <;> simp [canUndeploy]

/-! ### Calls -/

/-- A call on an operator. -/
inductive OperatorCall where
  | deploy (awaitReady : Bool)
  | undeploy (awaitRemoval : Bool)
  | firstPod
deriving DecidableEq, Repr

namespace OperatorCall

/-- What a call gives if it succeeds. -/
def Result : OperatorCall → Type
  | deploy _ | undeploy _ => Unit
  | firstPod => Snapshot

/-- What a call does. -/
def operation : (call : OperatorCall) → OperatorM call.Result
  | deploy awaitReady => Operator.deploy awaitReady
  | undeploy awaitRemoval => Operator.undeploy awaitRemoval
  | firstPod => do
    let operator ← get
    Operator.perform operator.firstPod.timed

/-- The name of a call, as told in failures. -/
def name : OperatorCall → String
  | deploy _ => "deploy"
  | undeploy _ => "undeploy"
  | firstPod => "look up operator pod"

def IsDeploy : OperatorCall → Prop
  | deploy _ => True
  | undeploy _ | firstPod => False

def IsUndeploy : OperatorCall → Prop
  | undeploy _ => True
  | deploy _ | firstPod => False

/-- Whether an operator in a phase accepts a call: it is deployed before anything else, and
undeployed after the begin of the deployment and before the end of an undeployment. -/
def FitsIn : OperatorCall → OperatorPhase → Prop
  | deploy _, phase => phase = .notDeployed
  | undeploy _, phase => phase ≠ .notDeployed ∧ phase ≠ .undeployed
  | firstPod, _ => True

/-- Only an operator that was never deployed accepts a call to deploy. -/
lemma IsDeploy.fitsIn_iff {call : OperatorCall} {phase : OperatorPhase} (h : call.IsDeploy) :
    call.FitsIn phase ↔ phase = .notDeployed := by
  cases call with
  | deploy awaitReady => exact Iff.rfl
  | undeploy awaitRemoval => exact h.elim
  | firstPod => exact h.elim

/-- An operator accepts a call to undeploy from its first deployment on, until it is undeployed. -/
lemma IsUndeploy.fitsIn_iff {call : OperatorCall} {phase : OperatorPhase} (h : call.IsUndeploy) :
    call.FitsIn phase ↔ phase ≠ .notDeployed ∧ phase ≠ .undeployed := by
  cases call with
  | deploy awaitReady => exact h.elim
  | undeploy awaitRemoval => exact Iff.rfl
  | firstPod => exact h.elim

/-- The runs of a call: what it asks of the cluster, what it gives and the operator behind it.  A
call that does not fit the phase is refused without a request. -/
inductive Run : (call : OperatorCall) → Operator → List (Exchange controlPlane.timed) →
    Except Failure call.Result → Operator → Prop where
  | deploy {awaitReady : Bool} {before after : Operator} {t : List (Exchange controlPlane.timed)}
      {r : Except Failure (deploy awaitReady).Result} (first : before.phase = .notDeployed)
      (run : Operator.DeployRun before awaitReady t r after) :
      Run (deploy awaitReady) before t r after
  | undeploy {awaitRemoval : Bool} {before after : Operator}
      {t : List (Exchange controlPlane.timed)} {r : Except Failure (undeploy awaitRemoval).Result}
      (accepted : before.phase.canUndeploy = true)
      (run : Operator.UndeployRun before awaitRemoval t r after) :
      Run (undeploy awaitRemoval) before t r after
  | firstPod {before : Operator} {t : List (Exchange controlPlane.timed)}
      {r : Except Failure firstPod.Result} (run : before.firstPod.timed.Yields t r) :
      Run firstPod before t r before
  | refused {call : OperatorCall} {before : Operator} (unfit : ¬ call.FitsIn before.phase) :
      Run call before [] (.error (.wrongPhase call.name before.phase.text)) before

/-- A call goes in one of these ways. -/
theorem run_of_yields {call : OperatorCall} {before after : Operator}
    {t : List (Exchange controlPlane.timed)} {r : Except Failure call.Result}
    (h : Operator.Yields call.operation before t r after) : Run call before t r after := by
  cases call with
  | deploy awaitReady =>
    obtain ⟨hphase, run⟩ | ⟨hphase, rfl, rfl, rfl⟩ := Operator.deploy_yields_iff.mp h
    · exact .deploy hphase run
    · exact .refused hphase
  | undeploy awaitRemoval =>
    obtain ⟨hphase, run⟩ | ⟨hphase, rfl, rfl, rfl⟩ := Operator.undeploy_yields_iff.mp h
    · exact .undeploy hphase run
    · refine .refused fun hfits => ?_
      rw [OperatorPhase.canUndeploy_iff.mpr hfits] at hphase
      cases hphase
  | firstPod =>
    obtain ⟨run, rfl⟩ := Operator.yields_perform_iff.mp (Operator.yields_get_bind_iff.mp h)
    exact .firstPod run

end OperatorCall

/-- A call on an operator together with what came of it: the exchanges with the cluster, whose
answers may be any, the outcome, and the operator behind the call. -/
structure OperatorStep where
  call : OperatorCall
  before : Operator
  exchanges : List (Exchange controlPlane.timed)
  outcome : Except Failure call.Result
  after : Operator
  run : Operator.Yields call.operation before exchanges outcome after

namespace OperatorStep

def Succeeds (step : OperatorStep) : Prop := ∃ result, step.outcome = .ok result

def Fails (step : OperatorStep) : Prop := ∃ failure, step.outcome = .error failure

/-- Whether the operator accepts the call. -/
def IsAccepted (step : OperatorStep) : Prop := step.call.FitsIn step.before.phase

/-- Whether a manifest is applied, or at least tried to be. -/
def Applies (step : OperatorStep) : Prop := ∃ e ∈ step.exchanges, e.IsApply

/-- The ways in which a call can go. -/
inductive Effect (step : OperatorStep) : Prop where
  /-- The call does not fit the phase and is refused. -/
  | refused (unfit : ¬ step.IsAccepted) (silent : step.exchanges = [])
      (outcome : step.outcome = .error (.wrongPhase step.call.name step.before.phase.text))
      (unchanged : step.after = step.before)
  /-- A deployment is accepted. -/
  | deploy (call : step.call.IsDeploy) (first : step.before.phase = .notDeployed)
      (ends : (step.Succeeds ∧ step.after.phase = .deployed) ∨
        (step.Fails ∧ step.after.phase = .deploying))
  /-- An undeployment is accepted. -/
  | undeploy (call : step.call.IsUndeploy) (accepted : step.IsAccepted) (noApply : ¬ step.Applies)
      (ends : (step.Succeeds ∧ step.after.phase = .undeployed) ∨
        (step.Fails ∧ step.after.phase = .undeploying))
  /-- The operator's pod is looked up. -/
  | lookup (call : step.call = .firstPod) (noApply : ¬ step.Applies)
      (unchanged : step.after = step.before)

/-- Every call goes in one of these ways. -/
theorem effect (step : OperatorStep) : step.Effect := by
  obtain ⟨call, before, t, r, after, run⟩ := step
  cases OperatorCall.run_of_yields run with
  | deploy first h => exact .deploy trivial first h.ends
  | undeploy accepted h =>
    refine .undeploy trivial (OperatorPhase.canUndeploy_iff.mp accepted) ?_ h.ends
    rintro ⟨e, he, happly⟩
    exact h.not_isApply e he happly
  | firstPod h =>
    refine .lookup rfl ?_ rfl
    rintro ⟨e, he, happly⟩
    exact Exchange.not_isApply_of_isLookup ((Operator.firstPod_asksOnly _).timed _ _ h e he) happly
  | refused unfit => exact .refused unfit rfl rfl rfl

/-- Whatever the call and whatever answers its requests, the call comes to an end. -/
lemma exists_step {σ : Type} (operator : Operator) (call : OperatorCall)
    (answer : (q : controlPlane.timed.Request) → σ → controlPlane.timed.Answer q × σ) (s : σ) :
    ∃ step : OperatorStep, step.call = call ∧ step.before = operator ∧
      Program.Answered answer s step.exchanges := by
  obtain ⟨t, r, after, run, hanswered⟩ := Operator.exists_yields call.operation operator answer s
  exact ⟨⟨call, operator, t, r, after, run⟩, rfl, rfl, hanswered⟩

/-- A call that does not fit the phase asks nothing and changes nothing. -/
lemma refused_of_not_isAccepted (step : OperatorStep) (h : ¬ step.IsAccepted) :
    step.exchanges = [] ∧
      step.outcome = .error (.wrongPhase step.call.name step.before.phase.text) ∧
      step.after = step.before := by
  cases step.effect with
  | refused _ silent outcome unchanged => exact ⟨silent, outcome, unchanged⟩
  | deploy call first _ => exact absurd (call.fitsIn_iff.mpr first) h
  | undeploy _ accepted _ _ => exact absurd accepted h
  | lookup call _ _ =>
    unfold IsAccepted at h
    rw [call] at h
    exact absurd trivial h

/-- A deployment that is accepted ends deployed, or fails and leaves the operator deploying. -/
lemma deploy_ends (step : OperatorStep) (hcall : step.call.IsDeploy) (h : step.IsAccepted) :
    (step.Succeeds ∧ step.after.phase = .deployed) ∨
      (step.Fails ∧ step.after.phase = .deploying) := by
  cases step.effect with
  | refused unfit _ _ _ => exact absurd h unfit
  | deploy _ _ ends => exact ends
  | undeploy call _ _ _ =>
    have hfirst : step.before.phase = .notDeployed := hcall.fitsIn_iff.mp h
    exact absurd hfirst (call.fitsIn_iff.mp h).1
  | lookup call _ _ =>
    rw [call] at hcall
    exact hcall.elim

/-- An undeployment that is accepted ends undeployed, or fails and leaves the operator undeploying.
-/
lemma undeploy_ends (step : OperatorStep) (hcall : step.call.IsUndeploy) (h : step.IsAccepted) :
    (step.Succeeds ∧ step.after.phase = .undeployed) ∨
      (step.Fails ∧ step.after.phase = .undeploying) := by
  cases step.effect with
  | refused unfit _ _ _ => exact absurd h unfit
  | deploy _ first _ => exact absurd first (hcall.fitsIn_iff.mp h).1
  | undeploy _ _ _ ends => exact ends
  | lookup call _ _ =>
    rw [call] at hcall
    exact hcall.elim

/-- No call takes an operator back to an earlier phase. -/
lemma rank_le (step : OperatorStep) : step.before.phase.rank ≤ step.after.phase.rank := by
  cases step.effect with
  | refused _ _ _ unchanged | lookup _ _ unchanged => simp only [unchanged, Nat.le_refl]
  | deploy _ first _ =>
    rw [first]
    exact Nat.zero_le _
  | undeploy call accepted _ ends =>
    have hbefore : step.before.phase.rank ≤ OperatorPhase.undeploying.rank := by
      have hne := (call.fitsIn_iff.mp accepted).2
      cases hphase : step.before.phase <;> simp_all [OperatorPhase.rank]
    obtain ⟨-, hafter⟩ | ⟨-, hafter⟩ := ends
    · rw [hafter]
      exact Nat.le_succ_of_le hbefore
    · rw [hafter]
      exact hbefore

end OperatorStep

/-! ### Sequences of calls -/

/-- The calls of `steps` are made on the operator `start`, each on what the one before it left, and
leave the last operator. -/
inductive Lifetime (start : Operator) : List OperatorStep → Operator → Prop where
  | begin : Lifetime start [] start
  | call {steps : List OperatorStep} {step : OperatorStep}
      (earlier : Lifetime start steps step.before) : Lifetime start (steps ++ [step]) step.after

namespace Lifetime

variable {start operator : Operator} {steps : List OperatorStep}

/-- The calls before one of the calls are a life of its own. -/
lemma until_call {earlier later : List OperatorStep} {step : OperatorStep}
    (h : Lifetime start (earlier ++ step :: later) operator) :
    Lifetime start earlier step.before := by
  -- The calls are added at the end, so the induction takes calls off `later` until it is empty.
  generalize hsteps : earlier ++ step :: later = steps at h
  induction h generalizing later with
  | begin => simp at hsteps
  | @call steps last before ih =>
    obtain rfl | ⟨later, last', rfl⟩ := List.eq_nil_or_concat later
    · obtain ⟨rfl, hlast⟩ := List.append_inj' hsteps rfl
      obtain rfl : step = last := by simpa using hlast
      exact before
    · rw [List.concat_eq_append, ← List.cons_append, ← List.append_assoc] at hsteps
      exact ih (List.append_inj_left' hsteps rfl)

/-- The phases that an operator is in, one before each call and one behind them all, ascend. -/
lemma ranks_ascend (h : Lifetime start steps operator) :
    (steps.map (·.before.phase.rank) ++ [operator.phase.rank]).Pairwise (· ≤ ·) := by
  induction h with
  | begin => exact List.pairwise_singleton _ _
  | @call steps step _ ih =>
    rw [List.map_append, List.map_singleton]
    refine List.pairwise_append.mpr ⟨ih, List.pairwise_singleton _ _, ?_⟩
    intro rank hrank last hlast
    obtain rfl := List.mem_singleton.mp hlast
    have hle : rank ≤ step.before.phase.rank := by
      obtain hearlier | hlast := List.mem_append.mp hrank
      · exact (List.pairwise_append.mp ih).2.2 rank hearlier _ (List.mem_singleton_self _)
      · exact Nat.le_of_eq (List.mem_singleton.mp hlast)
    exact Nat.le_trans hle step.rank_le

/-- Nothing was deployed yet exactly as long as there was no call to deploy. -/
lemma notDeployed_iff (h : Lifetime start steps operator) (hstart : start.phase = .notDeployed) :
    operator.phase = .notDeployed ↔ ∀ step ∈ steps, ¬ step.call.IsDeploy := by
  induction h with
  | begin => simp [hstart]
  | @call steps step _ ih =>
    rw [List.forall_mem_append, ← ih, List.forall_mem_singleton]
    cases step.effect with
    | refused unfit _ _ unchanged =>
      have hcall : step.before.phase = .notDeployed → ¬ step.call.IsDeploy :=
        fun hphase hdeploy => unfit (hdeploy.fitsIn_iff.mpr hphase)
      rw [unchanged]
      exact ⟨fun hphase => ⟨hphase, hcall hphase⟩, And.left⟩
    | deploy call _ ends =>
      have hafter : step.after.phase ≠ .notDeployed := by
        obtain ⟨-, hphase⟩ | ⟨-, hphase⟩ := ends <;> simp [hphase]
      exact ⟨fun hphase => absurd hphase hafter, fun hcall => absurd call hcall.2⟩
    | undeploy call accepted _ ends =>
      have hbefore : step.before.phase ≠ .notDeployed := (call.fitsIn_iff.mp accepted).1
      have hafter : step.after.phase ≠ .notDeployed := by
        obtain ⟨-, hphase⟩ | ⟨-, hphase⟩ := ends <;> simp [hphase]
      exact ⟨fun hphase => absurd hphase hafter, fun hcall => absurd hcall.1 hbefore⟩
    | lookup call _ unchanged => simp [unchanged, call, OperatorCall.IsDeploy]

/-- Behind a call to deploy, an operator can be undeployed as long as it is not. -/
lemma canUndeploy (h : Lifetime start steps operator) (hstart : start.phase = .notDeployed)
    (hdeploy : ∃ step ∈ steps, step.call.IsDeploy) (hphase : operator.phase ≠ .undeployed) :
    operator.phase.canUndeploy = true := by
  refine OperatorPhase.canUndeploy_iff.mpr ⟨fun hnot => ?_, hphase⟩
  obtain ⟨step, hstep, hdeploy⟩ := hdeploy
  exact (h.notDeployed_iff hstart).mp hnot step hstep hdeploy

/-- A call that applies a manifest is the first call to deploy. -/
lemma applies_first {earlier later : List OperatorStep} {step : OperatorStep}
    (h : Lifetime start (earlier ++ step :: later) operator) (hstart : start.phase = .notDeployed)
    (happlies : step.Applies) : step.call.IsDeploy ∧ ∀ s ∈ earlier, ¬ s.call.IsDeploy := by
  have hbefore : Lifetime start earlier step.before := h.until_call
  cases step.effect with
  | refused _ silent _ _ =>
    obtain ⟨e, he, -⟩ := happlies
    rw [silent] at he
    cases he
  | deploy call first _ => exact ⟨call, (hbefore.notDeployed_iff hstart).mp first⟩
  | undeploy _ _ noApply _ | lookup _ noApply _ => exact absurd happlies noApply

/-- An operator is deployed by a deployment that succeeded, and remains it up to the next
undeployment that is accepted. -/
lemma deployed_since (h : Lifetime start steps operator) (hstart : start.phase = .notDeployed)
    (hphase : operator.phase = .deployed) :
    ∃ earlier step later, steps = earlier ++ step :: later ∧ step.call.IsDeploy ∧ step.Succeeds ∧
      ∀ s ∈ later, ¬ (s.call.IsUndeploy ∧ s.IsAccepted) := by
  induction h with
  | begin => simp [hstart] at hphase
  | @call steps step _ ih =>
    -- A call that leaves the operator as it is keeps the deployment that was found before it.
    have hkept : step.before.phase = .deployed → ¬ (step.call.IsUndeploy ∧ step.IsAccepted) →
        ∃ earlier first later, steps ++ [step] = earlier ++ first :: later ∧
          first.call.IsDeploy ∧ first.Succeeds ∧
          ∀ s ∈ later, ¬ (s.call.IsUndeploy ∧ s.IsAccepted) := by
      intro hbefore hstep
      obtain ⟨earlier, first, later, rfl, hdeploy, hsucceeds, hlater⟩ := ih hbefore
      refine ⟨earlier, first, later ++ [step], by simp, hdeploy, hsucceeds, ?_⟩
      exact List.forall_mem_append.mpr ⟨hlater, List.forall_mem_singleton.mpr hstep⟩
    cases step.effect with
    | refused unfit _ _ unchanged =>
      exact hkept (unchanged ▸ hphase) fun hundeploy => unfit hundeploy.2
    | deploy call _ ends =>
      obtain ⟨hsucceeds, -⟩ | ⟨-, hafter⟩ := ends
      · exact ⟨steps, step, [], rfl, call, hsucceeds, by simp⟩
      · rw [hafter] at hphase
        cases hphase
    | undeploy _ _ _ ends =>
      obtain ⟨-, hafter⟩ | ⟨-, hafter⟩ := ends <;> rw [hafter] at hphase <;> cases hphase
    | lookup call _ unchanged =>
      refine hkept (unchanged ▸ hphase) fun hundeploy => ?_
      rw [call] at hundeploy
      exact hundeploy.1

/-- An operator is undeployed by an undeployment that succeeded. -/
lemma undeployed_after (h : Lifetime start steps operator) (hstart : start.phase = .notDeployed)
    (hphase : operator.phase = .undeployed) :
    ∃ step ∈ steps, step.call.IsUndeploy ∧ step.Succeeds := by
  induction h with
  | begin => simp [hstart] at hphase
  | @call steps step _ ih =>
    have hkept : step.before.phase = .undeployed →
        ∃ s ∈ steps ++ [step], s.call.IsUndeploy ∧ s.Succeeds := by
      intro hbefore
      obtain ⟨s, hs, hundeploy⟩ := ih hbefore
      exact ⟨s, List.mem_append_left _ hs, hundeploy⟩
    cases step.effect with
    | refused _ _ _ unchanged | lookup _ _ unchanged => exact hkept (unchanged ▸ hphase)
    | deploy _ _ ends =>
      obtain ⟨-, hafter⟩ | ⟨-, hafter⟩ := ends <;> rw [hafter] at hphase <;> cases hphase
    | undeploy call _ _ ends =>
      obtain ⟨hsucceeds, -⟩ | ⟨-, hafter⟩ := ends
      · exact ⟨step, List.mem_append_right _ (List.mem_singleton_self _), call, hsucceeds⟩
      · rw [hafter] at hphase
        cases hphase

end Lifetime

/-! ### The laws of a life -/

/-- The laws that the calls on an operator keep, from its first phase to the one behind them. -/
structure Orderly (steps : List OperatorStep) (operator : Operator) : Prop where
  /-- Every further call comes to an end, whatever answers its requests. -/
  call_ends : ∀ (σ : Type) (call : OperatorCall)
    (answer : (q : controlPlane.timed.Request) → σ → controlPlane.timed.Answer q × σ) (s : σ),
    ∃ step : OperatorStep, step.call = call ∧ step.before = operator ∧
      Program.Answered answer s step.exchanges
  /-- The phases, one before each call and one behind them all, never move backwards. -/
  phases_ascend : (steps.map (·.before.phase.rank) ++ [operator.phase.rank]).Pairwise (· ≤ ·)
  /-- Only the first call to deploy applies manifests. -/
  applies_first : ∀ earlier step later, steps = earlier ++ step :: later → step.Applies →
    step.call.IsDeploy ∧ ∀ s ∈ earlier, ¬ s.call.IsDeploy
  /-- A call that does not fit the phase fails with it, asks nothing and changes nothing. -/
  refused : ∀ step ∈ steps, ¬ step.IsAccepted → step.exchanges = [] ∧
    step.outcome = .error (.wrongPhase step.call.name step.before.phase.text) ∧
    step.after = step.before
  /-- A deployment that is accepted ends deployed, or fails and leaves the operator deploying. -/
  deploy_ends : ∀ step ∈ steps, step.call.IsDeploy → step.IsAccepted →
    (step.Succeeds ∧ step.after.phase = .deployed) ∨
      (step.Fails ∧ step.after.phase = .deploying)
  /-- An undeployment that is accepted ends undeployed, or fails and leaves the operator
  undeploying. -/
  undeploy_ends : ∀ step ∈ steps, step.call.IsUndeploy → step.IsAccepted →
    (step.Succeeds ∧ step.after.phase = .undeployed) ∨
      (step.Fails ∧ step.after.phase = .undeploying)
  /-- The operator is deployed only if a deployment succeeded and no undeployment was accepted
  since. -/
  deployed_since : operator.phase = .deployed →
    ∃ earlier step later, steps = earlier ++ step :: later ∧ step.call.IsDeploy ∧
      step.Succeeds ∧ ∀ s ∈ later, ¬ (s.call.IsUndeploy ∧ s.IsAccepted)
  /-- The operator is undeployed only if an undeployment succeeded. -/
  undeployed_after : operator.phase = .undeployed →
    ∃ step ∈ steps, step.call.IsUndeploy ∧ step.Succeeds
  /-- Once a manifest was tried to be applied, every undeployment is accepted until one succeeded:
  it fits the phase, and it goes on to delete what was applied. -/
  undeploy_accepted : (∃ step ∈ steps, step.Applies) → operator.phase ≠ .undeployed →
    ∀ awaitRemoval, (OperatorCall.undeploy awaitRemoval).FitsIn operator.phase ∧
      ∀ t r after, Operator.Yields (Operator.undeploy awaitRemoval) operator t r after →
        Operator.UndeployRun operator awaitRemoval t r after

/-- The calls on a new operator keep the laws, whatever they are and whatever the cluster answers.
That every call comes to an end rests on the clock: it never goes back and does not cut sleeps short
(`Interface.timed`). -/
theorem Lifetime.orderly {profile : OperatorProfile} {manifests : List Manifest}
    {settings : Settings} {steps : List OperatorStep} {operator : Operator}
    (h : Lifetime (Operator.ofManifests profile manifests settings) steps operator) :
    Orderly steps operator where
  call_ends := fun σ call answer s => OperatorStep.exists_step operator call answer s
  phases_ascend := h.ranks_ascend
  applies_first := by
    rintro earlier step later rfl happlies
    exact h.applies_first rfl happlies
  refused := fun step _ hrefused => step.refused_of_not_isAccepted hrefused
  deploy_ends := fun step _ hdeploy haccepted => step.deploy_ends hdeploy haccepted
  undeploy_ends := fun step _ hundeploy haccepted => step.undeploy_ends hundeploy haccepted
  deployed_since := h.deployed_since rfl
  undeployed_after := h.undeployed_after rfl
  undeploy_accepted := by
    rintro ⟨step, hstep, happlies⟩ hphase awaitRemoval
    obtain ⟨earlier, later, rfl⟩ := List.append_of_mem hstep
    have hdeploy : step.call.IsDeploy := (h.applies_first rfl happlies).1
    have hcan : operator.phase.canUndeploy = true :=
      h.canUndeploy rfl ⟨step, hstep, hdeploy⟩ hphase
    refine ⟨OperatorPhase.canUndeploy_iff.mp hcan, fun t r after hrun => ?_⟩
    exact Operator.undeployRun_of_canUndeploy hcan hrun

/-! ### A life with a failed deployment -/

namespace Lifetime.Sample

def profile : OperatorProfile where
  deploymentNamespace := "broker"
  isNamespaced := true
  watchedNamespaces := ["broker"]
  resolver := ⟨["operator"], .preferNewest, none, by simp⟩
  installMethod := .manifestFile

def manifest : Manifest := ⟨.deployment, some "broker", "operator", .object []⟩

def operator : Operator := Operator.ofManifests profile [manifest] {}

/-- The cluster refuses the install manifest. -/
def deployment : OperatorStep where
  call := .deploy true
  before := operator
  exchanges := [⟨.other (.apply (Installation.prepare profile manifest)),
    .error (.apiServer (some 403) "forbidden")⟩]
  outcome := .error (.apiServer (some 403) "forbidden")
  after := operator.inPhase .deploying
  run := .ask (.done _)

/-- What was tried to be applied is deleted. -/
def undeployment : OperatorStep where
  call := .undeploy false
  before := operator.inPhase .deploying
  exchanges := [⟨.other (.delete (Installation.prepare profile manifest).address), .ok ()⟩]
  outcome := .ok ()
  after := operator.inPhase .undeployed
  run := .ask (.done _)

lemma life : Lifetime operator [deployment, undeployment] (operator.inPhase .undeployed) :=
  @Lifetime.call operator [deployment] undeployment (@Lifetime.call operator [] deployment .begin)

end Lifetime.Sample

open Lifetime in
/-- A deployment that fails at its first manifest, and the undeployment behind it. -/
theorem orderly_failed_deployment :
    Lifetime Sample.operator [Sample.deployment, Sample.undeployment]
        (Sample.operator.inPhase .undeployed) ∧
      (Sample.deployment.Applies ∧ Sample.deployment.Fails) ∧
      Orderly [Sample.deployment, Sample.undeployment] (Sample.operator.inPhase .undeployed) := by
  refine ⟨Sample.life, ⟨?_, _, rfl⟩, Sample.life.orderly⟩
  exact ⟨_, List.mem_cons_self, _, rfl⟩

end BrokerHarness
