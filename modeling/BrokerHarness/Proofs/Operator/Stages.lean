import BrokerHarness.Proofs.NameResolution.ByName
import BrokerHarness.Proofs.Operator.Rollout

/-!
# The two stages of a deployment that waits

On a history of the cluster, a deployment that waits applies its manifests at once, looks for the
operator's deployment at the ticks from there on, and looks at the deployment that it finds at the
ticks from then on.  Each of the two stages has the whole deadline for itself.

`Passage` records how an operation on an operator goes on a history: its outcome, the operator and
the time that it leaves, and what it asked when.  The evaluations of the two stages are read off the
history (`ClusterHistory.newest`, `ClusterHistory.ShowsRolledOut`), the stages follow from what is
known of pollings on histories, and the operation is put together from them.
-/

namespace BrokerHarness

/-! ### Operations on a history -/

/-- How an operation on an operator goes on a history. -/
structure Passage (α : Type) where
  outcome : Except Failure α
  after : Operator
  /-- The time at which it ends. -/
  ends : Nat
  /-- What it asks, each request with its time. -/
  schedule : List (Nat × ControlPlaneRequest)

/-- The passage with an earlier part of the schedule. -/
def Passage.behind {α : Type} (earlier : List (Nat × ControlPlaneRequest)) (passage : Passage α) :
    Passage α :=
  { passage with schedule := earlier ++ passage.schedule }

namespace Operator

/-- How an operation on an operator goes that begins at a time of a history. -/
def passage {α : Type} (operation : OperatorM α) (before : Operator) (history : ClusterHistory)
    (begins : Nat) : Passage α :=
  let run := Program.runWith (Program.onTime history.answer) (operation.run.run before) begins
  { outcome := run.1.1
    after := run.1.2
    ends := run.2
    schedule := Program.schedule history.answer (operation.run.run before) begins }

variable {α β : Type} {operator : Operator} {history : ClusterHistory} {now later : Nat}

lemma passage_get_bind {f : Operator → OperatorM β} :
    passage (get >>= f) operator history now = passage (f operator) operator history now := rfl

/-- Entering a phase takes no time. -/
lemma passage_enter {phase : OperatorPhase} :
    passage (enter phase) operator history now = ⟨.ok (), operator.inPhase phase, now, []⟩ := rfl

lemma passage_enter_bind {phase : OperatorPhase} {f : Unit → OperatorM β} :
    passage (enter phase >>= f) operator history now =
      passage (f ()) (operator.inPhase phase) history now := rfl

lemma passage_keepName_bind {name : String} {f : Unit → OperatorM β} :
    passage (keepName name >>= f) operator history now =
      passage (f ()) (operator.withName name) history now := rfl

/-- An action on the control plane leads to what follows, or ends the operation by a failure. -/
lemma perform_bind_run {action : Action controlPlane.timed α} {f : α → OperatorM β} :
    (perform action >>= f).run.run operator =
      action.run.bind fun result => match result with
        | .ok a => (f a).run.run operator
        | .error e => .done (.error e, operator) := by
  refine (Program.bind_assoc action.run _ _).trans (congrArg (Program.bind action.run) ?_)
  funext result
  cases result with
  | error e => rfl
  | ok a => rfl

/-- What follows an action on the control plane goes on with its value when it ended. -/
lemma passage_perform_bind_ok {action : Action controlPlane.timed α} {f : α → OperatorM β} {a : α}
    (h : action.during history.answer now = (.ok a, later)) :
    passage (perform action >>= f) operator history now =
      (passage (f a) operator history later).behind (action.schedule history.answer now) := by
  have hrun : Program.runWith (Program.onTime history.answer) action.run now = (.ok a, later) := h
  unfold passage
  rw [perform_bind_run, Program.runWith_bind, Program.schedule_bind, hrun]
  rfl

/-- An action on the control plane that fails ends the operation. -/
lemma passage_perform_bind_error {action : Action controlPlane.timed α} {f : α → OperatorM β}
    {e : Failure} (h : action.during history.answer now = (.error e, later)) :
    passage (perform action >>= f) operator history now =
      ⟨.error e, operator, later, action.schedule history.answer now⟩ := by
  have hrun : Program.runWith (Program.onTime history.answer) action.run now =
      (.error e, later) := h
  unfold passage
  rw [perform_bind_run, Program.runWith_bind, Program.schedule_bind, hrun]
  exact congrArg _ (List.append_nil _)

end Operator

/-! ### What the evaluations of the two stages find -/

/-- What is told of a look for the deployment that finds none. -/
def OperatorProfile.absenceText (profile : OperatorProfile) : String :=
  "none of " ++ Text.quotedList profile.resolver.candidates ++ " exist"

namespace ClusterHistory

variable {history : ClusterHistory} {time : Nat} {operator : Operator} {name : String}

/-- Whether the operator's deployment is there under a name at a time. -/
def hasDeployment (history : ClusterHistory) (profile : OperatorProfile) (time : Nat)
    (name : String) : Bool :=
  (history.object time .deployment profile.deploymentNamespace name).isSome

/-- The first candidate whose deployment is there at a time. -/
def newest (history : ClusterHistory) (profile : OperatorProfile) (time : Nat) : Option String :=
  profile.resolver.candidates.find? (history.hasDeployment profile time)

/-- What a look for the deployment at a time asks: the candidates up to the first that is there. -/
def searched (history : ClusterHistory) (profile : OperatorProfile) (time : Nat) :
    List ControlPlaneRequest :=
  (profile.resolver.candidates.takeWhile (fun name => !history.hasDeployment profile time name) ++
    (history.newest profile time).toList).map (.get .deployment profile.deploymentNamespace)

/-- The operator's deployment is there under a name at a time and is rolled out. -/
def ShowsRolledOut (history : ClusterHistory) (profile : OperatorProfile) (time : Nat)
    (name : String) : Prop :=
  ∃ snapshot, history.object time .deployment profile.deploymentNamespace name = some snapshot ∧
    IsRolledOut snapshot.body

/-- A look for the deployment finds the first candidate that is there. -/
lemma existingDeployment_under (hname : operator.profile.resolvedName = none)
    (hpolicy : operator.profile.resolver.policy = .preferNewest) :
    operator.existingDeployment.under (history.answer time) =
        .ok (match history.newest operator.profile time with
          | some name => .reached name
          | none => .notYet (operator.profile.absenceText)) ∧
      operator.existingDeployment.askedUnder (history.answer time) =
        history.searched operator.profile time := by
  have hattempt : operator.profile.resolver.attempt =
      firstExisting operator.profile.resolver.candidates := by
    have hresolved : operator.profile.resolver.resolved = none := hname
    unfold Resolver.attempt
    rw [hresolved, hpolicy]
    rfl
  obtain ⟨hfound, hasked⟩ := firstExisting_under (history.hasDeployment operator.profile time)
    operator.profile.resolver.candidates
  -- Looking a candidate up answers the question whether it is there.
  have hsearch : (operator.profile.resolver.attempt.interpret fun name =>
      (ControlPlane.isPresent .deployment operator.deploymentNamespace name).run).under
        (history.answer time) = .ok (history.newest operator.profile time) := by
    rw [hattempt]
    exact (Program.under_interpret _).trans hfound
  have hsearched : (operator.profile.resolver.attempt.interpret fun name =>
      (ControlPlane.isPresent .deployment operator.deploymentNamespace name).run).askedUnder
        (history.answer time) = history.searched operator.profile time := by
    rw [hattempt]
    refine (Program.askedUnder_interpret _).trans ?_
    refine (congrArg (List.flatMap _) hasked).trans ?_
    exact List.flatMap_pure_eq_map _ _
  unfold Operator.existingDeployment
  rw [Action.under_bind_ok hsearch, Action.askedUnder_bind_ok hsearch, hsearched]
  cases history.newest operator.profile time with
  | none => exact ⟨rfl, List.append_nil _⟩
  | some name => exact ⟨rfl, List.append_nil _⟩

/-- A look at the deployment finds what its body shows, if it is there. -/
lemma readyDeployment_under :
    (operator.readyDeployment name).under (history.answer time) =
        .ok (match history.object time .deployment operator.profile.deploymentNamespace name with
          | some snapshot => Operator.rollout snapshot.body
          | none => .notYet "deployment not found") ∧
      (operator.readyDeployment name).askedUnder (history.answer time) =
        [.get .deployment operator.profile.deploymentNamespace name] := by
  have hget : (ControlPlane.get .deployment operator.deploymentNamespace name).under
      (history.answer time) =
        .ok (history.object time .deployment operator.deploymentNamespace name) :=
    get_under .deployment operator.deploymentNamespace name
  unfold Operator.readyDeployment
  rw [Action.under_bind_ok hget, Action.askedUnder_bind_ok hget]
  change _ ∧ _ = [_] ++ []
  unfold Operator.deploymentNamespace
  cases history.object time .deployment operator.profile.deploymentNamespace name with
  | none => exact ⟨rfl, rfl⟩
  | some snapshot => exact ⟨rfl, rfl⟩

/-- A look at a deployment that is rolled out finds it ready. -/
lemma ShowsRolledOut.reached (h : history.ShowsRolledOut operator.profile time name) :
    (operator.readyDeployment name).under (history.answer time) = .ok (.reached ()) := by
  obtain ⟨snapshot, hobject, hrolledOut⟩ := h
  rw [readyDeployment_under.1, hobject]
  exact congrArg Except.ok (Operator.rollout_eq_reached_iff.mpr hrolledOut)

/-- A look at any other deployment leaves the wait pending. -/
lemma pendingAt_of_not_showsRolledOut (h : ¬ history.ShowsRolledOut operator.profile time name) :
    PendingAt history.answer (operator.readyDeployment name) time := by
  unfold PendingAt
  rw [readyDeployment_under.1]
  cases hobject : history.object time .deployment operator.profile.deploymentNamespace name with
  | none => exact ⟨_, rfl⟩
  | some snapshot =>
    cases hrollout : Operator.rollout snapshot.body with
    | notYet observed => exact ⟨observed, congrArg Except.ok hrollout⟩
    | reached value =>
      have hrolledOut : IsRolledOut snapshot.body := Operator.rollout_eq_reached_iff.mp hrollout
      exact absurd ⟨snapshot, hobject, hrolledOut⟩ h

end ClusterHistory

/-! ### The stages -/

namespace Operator

/-- The number of the last tick of a stage, counted from its first tick on. -/
def lastTick (operator : Operator) : Nat := ⌈(operator.timeout : ℚ) / operator.pollInterval⌉₊

/-- The time of a tick of a stage that begins at `start`. -/
def tick (operator : Operator) (start k : Nat) : Nat := start + k * operator.pollInterval

/-- What the first stage asks at its first ticks. -/
def searches (operator : Operator) (history : ClusterHistory) (start ticks : Nat) :
    List (Nat × ControlPlaneRequest) :=
  (List.range ticks).flatMap fun k =>
    (history.searched operator.profile (operator.tick start k)).map fun r =>
      (operator.tick start k, r)

/-- What the second stage asks at its first ticks. -/
def watches (operator : Operator) (name : String) (start ticks : Nat) :
    List (Nat × ControlPlaneRequest) :=
  (List.range ticks).map fun k =>
    (operator.tick start k, .get .deployment operator.profile.deploymentNamespace name)

/-- What applying the manifests asks. -/
def applications (operator : Operator) (time : Nat) : List (Nat × ControlPlaneRequest) :=
  operator.manifests.map fun manifest => (time, .apply manifest)

/-- An operator without a name that is going to take the newest one, and that waits with room for a
second look before the deadline. -/
structure SearchesNewest (operator : Operator) : Prop where
  unresolved : operator.profile.resolvedName = none
  policy : operator.profile.resolver.policy = .preferNewest
  interval_pos : 0 < operator.pollInterval
  interval_lt : operator.pollInterval < operator.timeout

/-- The tick of the first stage at which a candidate's deployment is there for the first time, and
the first of the candidates whose deployment is there then. -/
structure FoundAt (operator : Operator) (history : ClusterHistory) (start k : Nat) (name : String) :
    Prop where
  le_lastTick : k ≤ operator.lastTick
  absent : ∀ i < k, history.newest operator.profile (operator.tick start i) = none
  found : history.newest operator.profile (operator.tick start k) = some name

variable {operator : Operator} {history : ClusterHistory} {start k : Nat} {name : String}

/-- A tick of the first stage looks up the candidates, up to the first whose deployment is there. -/
lemma SearchesNewest.ticksSchedule_eq (h : operator.SearchesNewest) (start ticks : Nat) :
    ticksSchedule history.answer operator.existingDeployment start operator.pollInterval ticks =
      operator.searches history start ticks := by
  unfold ticksSchedule searches tick
  simp only [(ClusterHistory.existingDeployment_under h.unresolved h.policy).2]
  rfl

/-- Every tick of the second stage looks up the deployment that was found. -/
lemma ticksSchedule_readyDeployment (start ticks : Nat) :
    ticksSchedule history.answer (operator.readyDeployment name) start operator.pollInterval ticks =
      operator.watches name start ticks := by
  unfold ticksSchedule watches tick
  simp only [ClusterHistory.readyDeployment_under.2]
  exact List.flatMap_pure_eq_map _ _

/-- A search that is shown no deployment leaves the wait pending. -/
lemma SearchesNewest.pendingAt {time : Nat} (h : operator.SearchesNewest)
    (hnone : history.newest operator.profile time = none) :
    PendingAt history.answer operator.existingDeployment time := by
  refine ⟨operator.profile.absenceText, ?_⟩
  rw [(ClusterHistory.existingDeployment_under h.unresolved h.policy).1, hnone]

/-- The first stage ends at the first tick at which a candidate's deployment is there, with the
first of these candidates. -/
lemma SearchesNewest.awaitExistence_found (h : operator.SearchesNewest)
    (hfound : operator.FoundAt history start k name) :
    operator.awaitExistence.during history.answer start = (.ok name, operator.tick start k) ∧
      operator.awaitExistence.schedule history.answer start =
        operator.searches history start (k + 1) := by
  have hpending : ∀ i < k, PendingAt history.answer operator.existingDeployment
      (operator.tick start i) := fun i hi => h.pendingAt (hfound.absent i hi)
  have hreached : operator.existingDeployment.under (history.answer (operator.tick start k)) =
      .ok (.reached name) := by
    rw [(ClusterHistory.existingDeployment_under h.unresolved h.policy).1, hfound.found]
  constructor
  · exact poll_during_reached h.interval_pos h.interval_lt hfound.le_lastTick hpending hreached
  · rw [← h.ticksSchedule_eq]
    exact poll_schedule_reached h.interval_pos h.interval_lt hfound.le_lastTick hpending hreached

/-- The first stage misses its deadline if no candidate's deployment is there at any tick. -/
lemma SearchesNewest.awaitExistence_missed (h : operator.SearchesNewest)
    (hnone : ∀ i ≤ operator.lastTick,
      history.newest operator.profile (operator.tick start i) = none) :
    operator.awaitExistence.during history.answer start =
        (.error (.deadlinePassed
            s!"waiting for operator deployment in {operator.deploymentNamespace} to exist"
            (operator.lastTick * operator.pollInterval) operator.profile.absenceText),
          operator.tick start operator.lastTick) ∧
      operator.awaitExistence.schedule history.answer start =
        operator.searches history start (operator.lastTick + 1) := by
  have hpending : ∀ i ≤ operator.lastTick, PendingAt history.answer operator.existingDeployment
      (operator.tick start i) := fun i hi => h.pendingAt (hnone i hi)
  constructor
  · obtain ⟨observed, hobserved, hduring⟩ :
        ∃ observed, operator.existingDeployment.under
            (history.answer (operator.tick start operator.lastTick)) = .ok (.notYet observed) ∧
          operator.awaitExistence.during history.answer start =
            (.error (.deadlinePassed _ (operator.lastTick * operator.pollInterval) observed),
              operator.tick start operator.lastTick) :=
      poll_during_deadline h.interval_pos h.interval_lt hpending
    rw [(ClusterHistory.existingDeployment_under h.unresolved h.policy).1, hnone _ le_rfl]
      at hobserved
    rw [hduring, Finding.notYet.inj (Except.ok.inj hobserved)]
  · rw [← h.ticksSchedule_eq]
    exact poll_schedule_deadline h.interval_pos h.interval_lt hpending

/-- The second stage ends at the first tick at which the deployment is rolled out. -/
lemma awaitReadiness_reached (start : Nat) (hpos : 0 < operator.pollInterval)
    (hlt : operator.pollInterval < operator.timeout) (hk : k ≤ operator.lastTick)
    (hnot : ∀ i < k, ¬ history.ShowsRolledOut operator.profile (operator.tick start i) name)
    (hready : history.ShowsRolledOut operator.profile (operator.tick start k) name) :
    (operator.awaitReadiness name).during history.answer start =
        (.ok (), operator.tick start k) ∧
      (operator.awaitReadiness name).schedule history.answer start =
        operator.watches name start (k + 1) := by
  have hpending : ∀ i < k, PendingAt history.answer (operator.readyDeployment name)
      (operator.tick start i) :=
    fun i hi => ClusterHistory.pendingAt_of_not_showsRolledOut (hnot i hi)
  refine ⟨poll_during_reached hpos hlt hk hpending hready.reached, ?_⟩
  rw [← ticksSchedule_readyDeployment]
  exact poll_schedule_reached hpos hlt hk hpending hready.reached

/-- The second stage misses its deadline if the deployment is not rolled out at any tick. -/
lemma awaitReadiness_missed (start : Nat) (hpos : 0 < operator.pollInterval)
    (hlt : operator.pollInterval < operator.timeout)
    (hnot : ∀ i ≤ operator.lastTick,
      ¬ history.ShowsRolledOut operator.profile (operator.tick start i) name) :
    (∃ observed, (operator.awaitReadiness name).during history.answer start =
      (.error (.deadlinePassed
          s!"waiting for operator deployment {operator.deploymentNamespace}/{name} to be ready"
          (operator.lastTick * operator.pollInterval) observed),
        operator.tick start operator.lastTick)) ∧
      (operator.awaitReadiness name).schedule history.answer start =
        operator.watches name start (operator.lastTick + 1) := by
  have hpending : ∀ i ≤ operator.lastTick, PendingAt history.answer
      (operator.readyDeployment name) (operator.tick start i) :=
    fun i hi => ClusterHistory.pendingAt_of_not_showsRolledOut (hnot i hi)
  constructor
  · obtain ⟨observed, -, hduring⟩ := poll_during_deadline hpos hlt hpending
    exact ⟨observed, hduring⟩
  · rw [← ticksSchedule_readyDeployment]
    exact poll_schedule_deadline hpos hlt hpending

/-- The ticks of the second stage go on from a tick of the first. -/
lemma tick_tick (operator : Operator) (start k j : Nat) :
    operator.tick (operator.tick start k) j = operator.tick start (k + j) := by
  unfold tick
  rw [Nat.add_mul, Nat.add_assoc]

/-! ### The deployment -/

/-- Manifests are applied at once. -/
lemma applyAll_under (history : ClusterHistory) (manifests : List Manifest) (time : Nat) :
    (applyAll manifests).under (history.answer time) = .ok () ∧
      (applyAll manifests).askedUnder (history.answer time) =
        manifests.map ControlPlaneRequest.apply := by
  induction manifests with
  | nil => exact ⟨rfl, rfl⟩
  | cons manifest rest ih =>
    have happly : (ControlPlane.apply manifest).under (history.answer time) =
        .ok (history.stored time manifest) := ClusterHistory.apply_under manifest
    rw [applyAll, Action.under_bind_ok happly, Action.askedUnder_bind_ok happly]
    exact ⟨ih.1, congrArg (ControlPlaneRequest.apply manifest :: ·) ih.2⟩

/-- A deployment that waits goes on behind its applications at the time at which it began. -/
lemma passage_deploy (hphase : operator.phase = .notDeployed) :
    passage (deploy true) operator history start =
      (passage (do
        let name ← perform operator.awaitExistence
        keepName name
        perform (operator.awaitReadiness name)
        enter .deployed) (operator.inPhase .deploying) history start).behind
          (operator.applications start) := by
  obtain ⟨hunder, hasked⟩ := applyAll_under history operator.manifests start
  have happly : (applyAll operator.manifests).timed.during history.answer start =
      (.ok (), start) := by
    rw [Action.during_timed, hunder]
  have hschedule : (applyAll operator.manifests).timed.schedule history.answer start =
      operator.applications start := by
    rw [Action.schedule_timed, hasked]
    exact List.map_map
  unfold deploy
  rw [passage_get_bind, if_pos hphase, passage_enter_bind, passage_perform_bind_ok happly,
    hschedule, if_pos rfl]

/-- How a deployment that waits goes that begins at a time of a history, by what the history shows
at the ticks of its two stages. -/
structure DeploysInStages (operator : Operator) (history : ClusterHistory) (start : Nat)
    (passage : Passage Unit) : Prop where
  /-- A candidate's deployment is found, and it is rolled out at a tick of the second stage, which
  begins when it is found: the deployment succeeds at the first such tick. -/
  ready : ∀ k₁ name, operator.FoundAt history start k₁ name →
    ∀ k₂ ≤ operator.lastTick,
      (∀ j < k₂, ¬ history.ShowsRolledOut operator.profile (operator.tick start (k₁ + j)) name) →
      history.ShowsRolledOut operator.profile (operator.tick start (k₁ + k₂)) name →
        passage.after.profile.resolvedName = some name ∧
        passage = ⟨.ok (), (operator.withName name).inPhase .deployed,
          operator.tick start (k₁ + k₂),
          operator.applications start ++ (operator.searches history start (k₁ + 1) ++
            operator.watches name (operator.tick start k₁) (k₂ + 1))⟩
  /-- A candidate's deployment is found, and it is not rolled out at any tick of the second
  stage. -/
  unready : ∀ k₁ name, operator.FoundAt history start k₁ name →
    (∀ j ≤ operator.lastTick,
      ¬ history.ShowsRolledOut operator.profile (operator.tick start (k₁ + j)) name) →
        passage.after.profile.resolvedName = some name ∧
        ∃ observed, passage = ⟨.error (.deadlinePassed
            s!"waiting for operator deployment {operator.deploymentNamespace}/{name} to be ready"
            (operator.lastTick * operator.pollInterval) observed),
          (operator.withName name).inPhase .deploying,
          operator.tick start (k₁ + operator.lastTick),
          operator.applications start ++ (operator.searches history start (k₁ + 1) ++
            operator.watches name (operator.tick start k₁) (operator.lastTick + 1))⟩
  /-- No candidate's deployment is there at any tick of the first stage. -/
  nameless : (∀ i ≤ operator.lastTick,
      history.newest operator.profile (operator.tick start i) = none) →
    passage.after.profile.resolvedName = none ∧
    passage = ⟨.error (.deadlinePassed
        s!"waiting for operator deployment in {operator.deploymentNamespace} to exist"
        (operator.lastTick * operator.pollInterval) operator.profile.absenceText),
      operator.inPhase .deploying, operator.tick start operator.lastTick,
      operator.applications start ++ operator.searches history start (operator.lastTick + 1)⟩

/-- An operator that waits with room for a second look is deployed in stages. -/
lemma SearchesNewest.deploysInStages (h : operator.SearchesNewest)
    (hphase : operator.phase = .notDeployed) :
    operator.DeploysInStages history start (passage (deploy true) operator history start) := by
  rw [passage_deploy hphase]
  refine ⟨?ready, ?unready, ?nameless⟩
  case ready =>
    intro k₁ name hfound k₂ hk₂ hnot hready
    obtain ⟨hexistence, hsearches⟩ := h.awaitExistence_found hfound
    simp only [← tick_tick] at hnot hready
    obtain ⟨hreadiness, hwatches⟩ := awaitReadiness_reached (operator.tick start k₁)
      h.interval_pos h.interval_lt hk₂ hnot hready
    rw [passage_perform_bind_ok hexistence, passage_keepName_bind,
      passage_perform_bind_ok hreadiness, passage_enter, hsearches, hwatches, tick_tick]
    refine ⟨withName_resolvedName h.unresolved name, ?_⟩
    simp only [Passage.behind, List.append_nil]
    rfl
  case unready =>
    intro k₁ name hfound hnot
    obtain ⟨hexistence, hsearches⟩ := h.awaitExistence_found hfound
    simp only [← tick_tick] at hnot
    obtain ⟨⟨observed, hreadiness⟩, hwatches⟩ := awaitReadiness_missed (operator.tick start k₁)
      h.interval_pos h.interval_lt hnot
    rw [passage_perform_bind_ok hexistence, passage_keepName_bind,
      passage_perform_bind_error hreadiness, hsearches, hwatches, tick_tick]
    exact ⟨withName_resolvedName h.unresolved name, observed, rfl⟩
  case nameless =>
    intro hnone
    obtain ⟨hexistence, hsearches⟩ := h.awaitExistence_missed hnone
    rw [passage_perform_bind_error hexistence, hsearches]
    exact ⟨h.unresolved, rfl⟩

/-- Up to the last tick there is a first one at which something holds, or none. -/
lemma exists_first_tick (holds : Nat → Prop) (last : Nat) :
    (∃ k ≤ last, holds k ∧ ∀ i < k, ¬ holds i) ∨ ∀ k ≤ last, ¬ holds k := by
  by_cases h : ∃ k, k ≤ last ∧ holds k
  · classical
    obtain ⟨hle, hholds⟩ := Nat.find_spec h
    refine .inl ⟨Nat.find h, hle, hholds, fun i hi hearlier => ?_⟩
    exact Nat.find_min h hi ⟨hi.le.trans hle, hearlier⟩
  · exact .inr fun k hk hholds => h ⟨k, hk, hholds⟩

/-- A deployment that goes in stages succeeds exactly if the deployment that is found in the first
stage is rolled out at some tick of the second one. -/
theorem DeploysInStages.succeeds_iff {passage : Passage Unit}
    (h : operator.DeploysInStages history start passage) :
    passage.outcome = .ok () ↔
      ∃ k₁ name, operator.FoundAt history start k₁ name ∧
        ∃ k₂ ≤ operator.lastTick,
          history.ShowsRolledOut operator.profile (operator.tick start (k₁ + k₂)) name := by
  constructor
  · intro hok
    obtain ⟨k₁, hk₁, hthere, habsent⟩ | habsent := exists_first_tick
      (fun k => history.newest operator.profile (operator.tick start k) ≠ none) operator.lastTick
    · obtain ⟨name, hname⟩ := Option.ne_none_iff_exists'.mp hthere
      simp only [ne_eq, not_not] at habsent
      have hfound : operator.FoundAt history start k₁ name := ⟨hk₁, habsent, hname⟩
      refine ⟨k₁, name, hfound, ?_⟩
      by_contra hnot
      obtain ⟨-, observed, hpassage⟩ := h.unready k₁ name hfound
        fun j hj hready => hnot ⟨j, hj, hready⟩
      rw [hpassage] at hok
      cases hok
    · simp only [ne_eq, not_not] at habsent
      rw [(h.nameless habsent).2] at hok
      cases hok
  · rintro ⟨k₁, name, hfound, k, hk, hready⟩
    obtain ⟨k₂, hk₂, hready, hnot⟩ | hnot := exists_first_tick
      (fun j => history.ShowsRolledOut operator.profile (operator.tick start (k₁ + j)) name)
      operator.lastTick
    · rw [(h.ready k₁ name hfound k₂ hk₂ hnot hready).2]
    · exact absurd hready (hnot k hk)

end Operator

/-- Whatever calls an operator took before, and whatever the history of the cluster, a deployment
that waits goes in two stages with a deadline each: the operator's deployment is looked for at the
ticks from the begin on, and the one that is found is looked at from the tick on at which it was
found.  The clock of a history is exact. -/
theorem Lifetime.deploys_in_stages {profile : OperatorProfile} {manifests : List Manifest}
    {settings : Settings} {steps : List OperatorStep} {operator : Operator}
    (history : ClusterHistory) (start : Nat) (hname : profile.resolvedName = none)
    (hpolicy : profile.resolver.policy = .preferNewest) (hpos : 0 < settings.pollInterval)
    (hlt : settings.pollInterval < settings.operatorTimeout)
    (hlife : Lifetime (Operator.ofManifests profile manifests settings) steps operator)
    (hphase : operator.phase = .notDeployed) :
    operator.DeploysInStages history start
      (Operator.passage (Operator.deploy true) operator history start) := by
  -- No call before can have changed the operator, so it still searches for its name.
  obtain rfl := hlife.eq_start_of_notDeployed hphase
  have hsearches : (Operator.ofManifests profile manifests settings).SearchesNewest :=
    ⟨hname, hpolicy, hpos, hlt⟩
  exact hsearches.deploysInStages hphase

/-! ### A deployment that is ready at the last tick -/

namespace Stages.Sample

def settings : Settings := { pollIntervalSecs := 2, operatorTimeoutSecs := 5 }

def operator : Operator :=
  Operator.ofManifests Rollout.Sample.profile [Lifetime.Sample.manifest] settings

/-- The deployment of the second candidate is there after four seconds and rolled out after ten.
That of the first candidate is there after six, when the name is settled. -/
def history : ClusterHistory where
  stored _ _ := Rollout.Sample.stored
  object time _ _ name :=
    if time < Duration.ofSeconds 4 then none
    else if name = "operator" then
      if time < Duration.ofSeconds 10 then some Rollout.Sample.stored
      else some Rollout.Sample.rolledOut
    else if time < Duration.ofSeconds 6 then none
    else some Rollout.Sample.rolledOut
  listed _ _ _ _ := []

/-- There is room for a third tick behind the first one. -/
lemma three_le_lastTick : 3 ≤ operator.lastTick := (lt_ceil_div_iff (by decide)).mpr (by decide)

/-- The second candidate is found at the third tick. -/
lemma foundAt : operator.FoundAt history 0 2 "operator" where
  le_lastTick := Nat.le_of_succ_le three_le_lastTick
  absent := by
    intro i hi
    obtain rfl | rfl : i = 0 ∨ i = 1 := by omega
    · rfl
    · rfl
  found := rfl

/-- Up to the fifth tick, the deployment is not rolled out. -/
lemma not_showsRolledOut {j : Nat} (hj : j < 3) :
    ¬ history.ShowsRolledOut operator.profile (operator.tick 0 (2 + j)) "operator" := by
  rintro ⟨snapshot, hobject, hrolledOut⟩
  have hstored : snapshot = Rollout.Sample.stored := by
    obtain rfl | rfl | rfl : j = 0 ∨ j = 1 ∨ j = 2 := by omega
    · exact (Option.some.inj hobject).symm
    · exact (Option.some.inj hobject).symm
    · exact (Option.some.inj hobject).symm
  rw [hstored] at hrolledOut
  exact absurd hrolledOut.replicas (by decide)

end Stages.Sample

open Stages in
/-- A deployment that is found at the third tick and is rolled out three ticks later. -/
theorem deploys_in_stages_until_last_tick :
    Lifetime Sample.operator [] Sample.operator ∧
      ∃ schedule, Operator.passage (Operator.deploy true) Sample.operator Sample.history 0 =
        ⟨.ok (), (Sample.operator.withName "operator").inPhase .deployed, Duration.ofSeconds 10,
          schedule⟩ := by
  have hstages := Lifetime.deploys_in_stages Sample.history 0 rfl rfl (by decide) (by decide)
    (.begin : Lifetime Sample.operator [] Sample.operator) rfl
  obtain ⟨-, hpassage⟩ := hstages.ready 2 "operator" Sample.foundAt 3 Sample.three_le_lastTick
    (fun j hj => Sample.not_showsRolledOut hj)
    ⟨Rollout.Sample.rolledOut, rfl, Rollout.Sample.isRolledOut⟩
  exact ⟨.begin, _, hpassage⟩

end BrokerHarness
