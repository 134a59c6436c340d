import BrokerHarness.Proofs.FailingCalls
import BrokerHarness.Proofs.Polling.Tick
import BrokerHarness.Proofs.Resource.Readiness

/-!
# Waiting for a condition

There are two waits for a condition of a resource.  One requires it and gives the condition that was
found, the other answers whether it was found before the deadline.  The second is the first with its
outcome read as an answer (`waitAnswer`), on every run (`awaitCondition_yields_iff`) and on every
history (`awaitCondition_during`), so what is said about one holds of both.

On a run, the answer `false` stands for a missed deadline.  Which deadline it was is not looked at:
a look at the resource that itself fails with a missed deadline leads to the same answer as the
deadline of the wait (`awaitCondition_false_iff`).

On a history, both waits look at the resource once per interval, and at each tick only the condition
that counts for the expected type in the list stored then decides.  What the list holds besides it,
and what was stored at another tick, is of no account.
-/

namespace BrokerHarness

namespace Provisioning

variable {provisioning : Provisioning} {resource : Resource} {expected : Expectation}
  {timeout : Nat}

/-! ### One wait in terms of the other -/

/-- The answer of a wait, from the outcome of the wait that requires the condition: a missed
deadline is the answer `false`, and every other failure stays one. -/
def waitAnswer : Except Failure Condition → Except Failure Bool
  | .ok _ => .ok true
  | .error failure => if failure.isDeadlinePassed then .ok false else .error failure

/-- A missed deadline is an answer, and any other failure is not. -/
lemma waitAnswer_error (failure : Failure) :
    waitAnswer (.error failure) =
      if failure.isDeadlinePassed then .ok false else .error failure := rfl

/-- The answer is `false` exactly for a missed deadline, whoever missed it. -/
lemma waitAnswer_eq_ok_false_iff {outcome : Except Failure Condition} :
    waitAnswer outcome = .ok false ↔
      ∃ failure, outcome = .error failure ∧ failure.isDeadlinePassed = true := by
  cases outcome with
  | ok c => simp [waitAnswer]
  | error failure => simp [waitAnswer]

/-- The runs of the wait that answers are those of the wait that requires the condition. -/
theorem awaitCondition_yields_iff {t : List (Exchange controlPlane.timed)}
    {r : Except Failure Bool} :
    (provisioning.awaitCondition resource expected timeout).Yields t r ↔
      ∃ outcome, (provisioning.requireCondition resource expected timeout).Yields t outcome ∧
        r = waitAnswer outcome := by
  have hhandle : ∀ failure t r,
      Action.Yields (if failure.isDeadlinePassed then pure false else throw failure) t r ↔
        t = ([] : List (Exchange controlPlane.timed)) ∧ r = waitAnswer (.error failure) := by
    intro failure t r
    rw [waitAnswer_error]
    split
    · exact Action.yields_pure_iff
    · exact Action.yields_throw_iff
  refine Action.yields_tryCatch_iff.trans ?_
  constructor
  · rintro (⟨answer, h, rfl⟩ | ⟨t₁, t₂, failure, rfl, h, hcaught⟩)
    · obtain ⟨t₁, t₂, c, rfl, hrequire, hpure⟩ := Action.yields_bind_ok_iff.mp h
      obtain ⟨rfl, hanswer⟩ := Action.yields_pure_iff.mp hpure
      rw [List.append_nil]
      exact ⟨.ok c, hrequire, hanswer⟩
    · obtain ⟨rfl, rfl⟩ := (hhandle failure t₂ r).mp hcaught
      rw [List.append_nil]
      obtain ⟨e, hrequire, he⟩ | ⟨t₂, t₃, c, rfl, -, hpure⟩ := Action.yields_bind_iff.mp h
      · obtain rfl := Except.error.inj he
        exact ⟨.error failure, hrequire, rfl⟩
      · cases (Action.yields_pure_iff.mp hpure).2
  · rintro ⟨outcome, hrequire, rfl⟩
    cases outcome with
    | ok c =>
      refine .inl ⟨true, Action.yields_bind_ok_iff.mpr ?_, rfl⟩
      exact ⟨t, [], c, (List.append_nil t).symm, hrequire, Action.yields_pure_iff.mpr ⟨rfl, rfl⟩⟩
    | error failure =>
      refine .inr ⟨t, [], failure, (List.append_nil t).symm, ?_, (hhandle _ _ _).mpr ⟨rfl, rfl⟩⟩
      exact Action.yields_bind_iff.mpr (.inl ⟨failure, hrequire, rfl⟩)

/-- On a history, the wait that answers ends together with the wait that requires the condition. -/
theorem awaitCondition_during {history : Nat → (q : controlPlane.Request) → controlPlane.Answer q}
    {start later : Nat} {outcome : Except Failure Condition}
    (h : (provisioning.requireCondition resource expected timeout).during history start =
      (outcome, later)) :
    (provisioning.awaitCondition resource expected timeout).during history start =
      (waitAnswer outcome, later) := by
  unfold awaitCondition
  cases outcome with
  | ok c =>
    refine Action.during_tryCatch_ok ?_
    exact (Action.during_bind_ok h).trans (Action.during_pure true later)
  | error failure =>
    refine (Action.during_tryCatch_error (Action.during_bind_error h)).trans ?_
    rw [waitAnswer_error]
    split
    · exact Action.during_pure false later
    · exact Action.during_throw failure later

/-! ### What the answer stands for -/

/-- A look that fails, fails the wait with what it failed with, unless that is a missed deadline;
nothing is asked behind it. -/
lemma awaitCondition_ends_at_failure {t : List (Exchange controlPlane.timed)}
    {r : Except Failure Bool}
    (h : (provisioning.awaitCondition resource expected timeout).Yields t r)
    {earlier later : List (Exchange controlPlane.timed)} {e : Exchange controlPlane.timed}
    {failure : Failure} (hsplit : t = earlier ++ e :: later)
    (hfails : FailsTimed Exchange.FailsWith e failure) :
    later = [] ∧ r = if failure.isDeadlinePassed then .ok false else .error failure := by
  obtain ⟨outcome, hrequire, rfl⟩ := awaitCondition_yields_iff.mp h
  have hends : EndsAtFailure (FailsTimed Exchange.FailsWith) t outcome :=
    poll_passesOn (observeCondition_passesOn resource expected) t outcome hrequire
  obtain ⟨hlast, rfl⟩ := hends earlier e later failure hsplit hfails
  exact ⟨hlast, waitAnswer_error failure⟩

/-- The round that decides a wait makes it answer `false` if nothing was found until the deadline,
or if its look failed with a missed deadline. -/
lemma waitAnswer_eq_ok_false_iff_of_verdict {description : String} {start : Nat}
    {round : Round controlPlane Condition} {outcome : Except Failure Condition}
    (h : round.verdict description timeout start = some outcome) :
    waitAnswer outcome = .ok false ↔
      (∃ asked observed time, round = .pending asked observed time ∧ timeout ≤ time - start) ∨
        ∃ asked failure, round = .failed asked failure ∧ failure.isDeadlinePassed = true := by
  rw [waitAnswer_eq_ok_false_iff]
  cases round with
  | failed asked failure =>
    obtain rfl : Except.error failure = outcome := Option.some.inj h
    simp
  | reached asked c =>
    obtain rfl : Except.ok c = outcome := Option.some.inj h
    simp
  | pending asked observed time =>
    simp only [Round.verdict, Option.ite_none_right_eq_some, Option.some.injEq] at h
    obtain ⟨hlate, rfl⟩ := h
    simp [Failure.isDeadlinePassed, hlate]

/-- A wait with faulty parameters fails, and any other answers `false` exactly if it found nothing
until its deadline, or if its last look failed with a missed deadline itself.  A look that fails
with anything else fails the wait with it.  The clock that tells the deadline never goes back
(`Interface.timed`). -/
theorem awaitCondition_false_iff (provisioning : Provisioning) (resource : Resource)
    (expected : Expectation) (timeout : Nat) :
    (provisioning.pollInterval = 0 ∨ timeout ≤ provisioning.pollInterval → ∀ t r,
      (provisioning.awaitCondition resource expected timeout).Yields t r →
        t = [] ∧ ∃ fault, r = .error (.badSettings fault)) ∧
    (¬ (provisioning.pollInterval = 0 ∨ timeout ≤ provisioning.pollInterval) → ∀ t r,
      (provisioning.awaitCondition resource expected timeout).Yields t r →
        ∃ start undecided last,
          RoundsOf provisioning.pollInterval (observeCondition resource expected) start
            (undecided ++ [last]) t ∧
          (∀ round ∈ undecided, ∃ asked observed time,
            round = .pending asked observed time ∧ time - start < timeout) ∧
          (r = .ok false ↔
            (∃ asked observed time,
              last = .pending asked observed time ∧ timeout ≤ time - start) ∨
            ∃ asked failure, last = .failed asked failure ∧ failure.isDeadlinePassed = true)) ∧
    ∀ t r, (provisioning.awaitCondition resource expected timeout).Yields t r →
      ∀ earlier e later failure, t = earlier ++ e :: later →
        FailsTimed Exchange.FailsWith e failure →
          later = [] ∧ r = if failure.isDeadlinePassed then .ok false else .error failure := by
  refine ⟨?_, ?_, fun t r h earlier e later failure => awaitCondition_ends_at_failure h⟩
  · intro hfault t r h
    obtain ⟨outcome, hrequire, rfl⟩ := awaitCondition_yields_iff.mp h
    obtain ⟨rfl, rfl⟩ := (poll_yields_iff_of_isFaulty hfault).mp hrequire
    exact ⟨rfl, _, rfl⟩
  · intro hvalid t r h
    obtain ⟨outcome, hrequire, rfl⟩ := awaitCondition_yields_iff.mp h
    obtain ⟨hpos, hlt⟩ := Polling.not_isFaulty_iff.mp hvalid
    obtain ⟨start, undecided, last, hrounds, hundecided, hlast⟩ := poll_account hpos hlt hrequire
    refine ⟨start, undecided, last, hrounds, fun round hmem => ?_, ?_⟩
    · exact Round.verdict_eq_none_iff.mp (hundecided round hmem)
    · exact waitAnswer_eq_ok_false_iff_of_verdict hlast

end Provisioning

namespace ConditionWait.Sample

def provisioning : Provisioning := ⟨5, 180, 120⟩

def broker : Resource := ⟨.broker, "test", "broker", .object [], [], some 1, .object []⟩

def unanswered : Failure := .deadlinePassed "waiting for cluster access" 10 "no answer"

/-- The only look of the wait fails with a missed deadline, at the time at which the wait began. -/
def unansweredLook : Exchange controlPlane.timed :=
  ⟨.other (.get .broker "test" "broker"), .error unanswered⟩

end ConditionWait.Sample

open ConditionWait in
/-- The answer `false` of a wait of one minute whose only look fails at once. -/
theorem awaitCondition_false_behind_failed_look :
    (Sample.provisioning.awaitCondition Sample.broker { type := "Ready" } 60).Yields
        [⟨.clock 0, ⟨0, Nat.le_refl 0⟩⟩, Sample.unansweredLook] (.ok false) ∧
      FailsTimed Exchange.FailsWith Sample.unansweredLook Sample.unanswered := by
  have hlook : (Provisioning.observeCondition Sample.broker { type := "Ready" }).Yields
      [⟨.get .broker "test" "broker", .error Sample.unanswered⟩] (.error Sample.unanswered) := by
    refine Action.yields_bind_iff.mpr (.inl ⟨Sample.unanswered, ?_, rfl⟩)
    refine Action.yields_bind_iff.mpr (.inl ⟨Sample.unanswered, ?_, rfl⟩)
    exact ControlPlane.get_yields_iff.mpr rfl
  refine ⟨Provisioning.awaitCondition_yields_iff.mpr ⟨.error Sample.unanswered, ?_, rfl⟩, rfl⟩
  refine (poll_yields_iff_of_lt (by decide) (by decide)).mpr ?_
  exact Polling.run_yields_iff.mpr ⟨0, _, _, rfl, .failed hlook⟩

/-! ### What a tick shows -/

namespace ClusterHistory

/-- What the cluster holds at a time under the kind, namespace and name of a resource. -/
def objectAt (history : ClusterHistory) (resource : Resource) (time : Nat) : Option Snapshot :=
  history.object time resource.kind resource.ns resource.name

/-- At a time the object of the resource is there, and the condition is the one that counts for the
expected type in the list stored then, and is as expected. -/
def Reports (history : ClusterHistory) (resource : Resource) (expected : Expectation) (time : Nat)
    (c : Condition) : Prop :=
  ∃ snapshot conditions, history.objectAt resource time = some snapshot ∧
    snapshot.statusConditions = .ok conditions ∧
    Condition.latest expected.type conditions = some c ∧ expected.accepts c = true

/-- The conditions can be decoded whenever a wait from `start` on looks at them: at each tick up to
the deadline before which no tick reports what is expected. -/
def DecodableUntilReported (history : ClusterHistory) (resource : Resource)
    (expected : Expectation) (start interval timeout : Nat) : Prop :=
  ∀ k ≤ ⌈(timeout : ℚ) / interval⌉₊,
    (∀ j < k, ¬ ∃ c, history.Reports resource expected (start + j * interval) c) →
      ∀ snapshot, history.objectAt resource (start + k * interval) = some snapshot →
        ∃ conditions, snapshot.statusConditions = .ok conditions

variable {history : ClusterHistory} {resource : Resource} {expected : Expectation} {time : Nat}

/-- A look at a condition of an object that is not there leaves the wait pending. -/
lemma observeCondition_under_of_none (h : history.objectAt resource time = none) :
    (Provisioning.observeCondition resource expected).under (history.answer time) =
      .ok (.notYet "object not found") := by
  have hget : (ControlPlane.get resource.kind resource.ns resource.name).under
      (history.answer time) = .ok none := by
    rw [get_under]
    exact congrArg Except.ok h
  have hlook : (ControlPlane.statusConditions resource.kind resource.ns resource.name).under
      (history.answer time) = .ok none := Action.under_bind_ok hget
  exact Action.under_bind_ok hlook

/-- A look at an object whose conditions can be decoded finds what the expectation says of them. -/
lemma observeCondition_under_of_some {snapshot : Snapshot} {conditions : List Condition}
    (h : history.objectAt resource time = some snapshot)
    (hconditions : snapshot.statusConditions = .ok conditions) :
    (Provisioning.observeCondition resource expected).under (history.answer time) =
      .ok (match expected.judge conditions with
        | .matched c => .reached c
        | .mismatch c => .notYet c.text
        | .absent =>
          .notYet s!"no {expected.type} condition ({Condition.listText conditions})") := by
  have hget : (ControlPlane.get resource.kind resource.ns resource.name).under
      (history.answer time) = .ok (some snapshot) := by
    rw [get_under]
    exact congrArg Except.ok h
  have hlook : (ControlPlane.statusConditions resource.kind resource.ns resource.name).under
      (history.answer time) = .ok (some conditions) := by
    refine (Action.under_bind_ok hget).trans ?_
    dsimp only
    rw [hconditions]
    rfl
  refine (Action.under_bind_ok hlook).trans ?_
  dsimp only
  cases expected.judge conditions with
  | matched c => rfl
  | mismatch c => rfl
  | absent => rfl

/-- A look at an object that reports the condition reaches it. -/
lemma Reports.reached {c : Condition} (h : history.Reports resource expected time c) :
    (Provisioning.observeCondition resource expected).under (history.answer time) =
      .ok (.reached c) := by
  obtain ⟨snapshot, conditions, hobject, hconditions, hlatest, haccepts⟩ := h
  rw [observeCondition_under_of_some hobject hconditions,
    Expectation.judge_eq_matched_iff.mpr ⟨hlatest, haccepts⟩]

/-- An object that is not there, or whose conditions can be decoded and are not as expected, leaves
the wait pending. -/
lemma pendingAt_of_not_reports
    (hdecodable : ∀ snapshot, history.objectAt resource time = some snapshot →
      ∃ conditions, snapshot.statusConditions = .ok conditions)
    (hnot : ¬ ∃ c, history.Reports resource expected time c) :
    PendingAt history.answer (Provisioning.observeCondition resource expected) time := by
  cases hobject : history.objectAt resource time with
  | none => exact ⟨_, observeCondition_under_of_none hobject⟩
  | some snapshot =>
    obtain ⟨conditions, hconditions⟩ := hdecodable snapshot hobject
    unfold PendingAt
    rw [observeCondition_under_of_some hobject hconditions]
    cases hjudge : expected.judge conditions with
    | matched c =>
      obtain ⟨hlatest, haccepts⟩ := Expectation.judge_eq_matched_iff.mp hjudge
      exact absurd ⟨c, snapshot, conditions, hobject, hconditions, hlatest, haccepts⟩ hnot
    | mismatch c => exact ⟨_, rfl⟩
    | absent => exact ⟨_, rfl⟩

end ClusterHistory

/-! ### The end of a wait -/

/-- What a wait for a condition is for, as told in its failure. -/
def conditionText (resource : Resource) (expected : Expectation) : String :=
  s!"waiting for {resource.kind.name} {resource.ns}/{resource.name} to report " ++ expected.text

/-- Two waits from `start` on end as their history says, the first with the condition or a failure
and the second with an answer: together at the first tick up to the deadline that reports the
condition, and at the last tick if there is none. -/
structure EndWhenReported (history : ClusterHistory) (resource : Resource)
    (expected : Expectation) (start interval timeout : Nat)
    (required : Except Failure Condition × Nat) (answered : Except Failure Bool × Nat) : Prop where
  reported : ∀ k ≤ ⌈(timeout : ℚ) / interval⌉₊, ∀ c,
    history.Reports resource expected (start + k * interval) c →
    (∀ j < k, ¬ ∃ earlier, history.Reports resource expected (start + j * interval) earlier) →
      required = (.ok c, start + k * interval) ∧ answered = (.ok true, start + k * interval)
  late : (∀ k ≤ ⌈(timeout : ℚ) / interval⌉₊,
      ¬ ∃ c, history.Reports resource expected (start + k * interval) c) →
    (∃ observed, required =
      (.error (.deadlinePassed (conditionText resource expected)
          (⌈(timeout : ℚ) / interval⌉₊ * interval) observed),
        start + ⌈(timeout : ℚ) / interval⌉₊ * interval)) ∧
    answered = (.ok false, start + ⌈(timeout : ℚ) / interval⌉₊ * interval)
  /-- Conditions of other types, and older ones of the type, do not stand in for the one that
  counts. -/
  refused : (∀ k ≤ ⌈(timeout : ℚ) / interval⌉₊, ∀ snapshot conditions c,
      history.objectAt resource (start + k * interval) = some snapshot →
      snapshot.statusConditions = .ok conditions →
      Condition.latest expected.type conditions = some c → expected.accepts c = false) →
    answered = (.ok false, start + ⌈(timeout : ℚ) / interval⌉₊ * interval)

namespace Provisioning

variable {provisioning : Provisioning} {history : ClusterHistory} {resource : Resource}
  {expected : Expectation} {start timeout : Nat}

/-- The first tick that reports the condition ends a wait that requires it, with the condition. -/
lemma requireCondition_during_of_reports (hpos : 0 < provisioning.pollInterval)
    (hlt : provisioning.pollInterval < timeout)
    (hdecodable : history.DecodableUntilReported resource expected start
      provisioning.pollInterval timeout)
    {k : Nat} (hk : k ≤ ⌈(timeout : ℚ) / provisioning.pollInterval⌉₊) {c : Condition}
    (hreports : history.Reports resource expected (start + k * provisioning.pollInterval) c)
    (hearlier : ∀ j < k, ¬ ∃ earlier,
      history.Reports resource expected (start + j * provisioning.pollInterval) earlier) :
    (provisioning.requireCondition resource expected timeout).during history.answer start =
      (.ok c, start + k * provisioning.pollInterval) := by
  have hpending : ∀ j < k, PendingAt history.answer (observeCondition resource expected)
      (start + j * provisioning.pollInterval) := by
    intro j hj
    have hlooked := hdecodable j (hj.le.trans hk) fun i hi => hearlier i (hi.trans hj)
    exact ClusterHistory.pendingAt_of_not_reports hlooked (hearlier j hj)
  exact poll_during_reached hpos hlt hk hpending hreports.reached

/-- A wait that requires a condition misses the deadline at the last tick if none reports it. -/
lemma requireCondition_during_of_never (hpos : 0 < provisioning.pollInterval)
    (hlt : provisioning.pollInterval < timeout)
    (hdecodable : history.DecodableUntilReported resource expected start
      provisioning.pollInterval timeout)
    (hnever : ∀ k ≤ ⌈(timeout : ℚ) / provisioning.pollInterval⌉₊, ¬ ∃ c,
      history.Reports resource expected (start + k * provisioning.pollInterval) c) :
    ∃ observed,
      (provisioning.requireCondition resource expected timeout).during history.answer start =
        (.error (.deadlinePassed (conditionText resource expected)
            (⌈(timeout : ℚ) / provisioning.pollInterval⌉₊ * provisioning.pollInterval) observed),
          start + ⌈(timeout : ℚ) / provisioning.pollInterval⌉₊ * provisioning.pollInterval) := by
  obtain ⟨observed, -, hlate⟩ := poll_during_deadline hpos hlt fun k hk =>
    ClusterHistory.pendingAt_of_not_reports
      (hdecodable k hk fun j hj => hnever j (hj.le.trans hk)) (hnever k hk)
  exact ⟨observed, hlate⟩

/-- On a history whose conditions can be decoded both waits end at the first tick that reports the
condition, one with the condition and the other with `true`, and if there is none they end at the
last tick, one with a missed deadline and the other with `false`.  The clock of a history is exact,
so the ticks are at the multiples of the poll interval. -/
theorem waits_end_when_reported (provisioning : Provisioning) (history : ClusterHistory)
    (resource : Resource) (expected : Expectation) (start timeout : Nat)
    (hpos : 0 < provisioning.pollInterval) (hlt : provisioning.pollInterval < timeout)
    (hdecodable : history.DecodableUntilReported resource expected start
      provisioning.pollInterval timeout) :
    EndWhenReported history resource expected start provisioning.pollInterval timeout
      ((provisioning.requireCondition resource expected timeout).during history.answer start)
      ((provisioning.awaitCondition resource expected timeout).during history.answer start) where
  reported := by
    intro k hk c hreports hearlier
    have hrequired :=
      requireCondition_during_of_reports hpos hlt hdecodable hk hreports hearlier
    exact ⟨hrequired, awaitCondition_during hrequired⟩
  late := by
    intro hnever
    obtain ⟨observed, hrequired⟩ := requireCondition_during_of_never hpos hlt hdecodable hnever
    exact ⟨⟨observed, hrequired⟩, awaitCondition_during hrequired⟩
  refused := by
    intro hrefused
    have hnever : ∀ k ≤ ⌈(timeout : ℚ) / provisioning.pollInterval⌉₊, ¬ ∃ c,
        history.Reports resource expected (start + k * provisioning.pollInterval) c := by
      rintro k hk ⟨c, snapshot, conditions, hobject, hconditions, hlatest, haccepts⟩
      rw [hrefused k hk snapshot conditions c hobject hconditions hlatest] at haccepts
      cases haccepts
    obtain ⟨observed, hrequired⟩ := requireCondition_during_of_never hpos hlt hdecodable hnever
    exact awaitCondition_during hrequired

end Provisioning

/-! ### A wait whose condition is reported late -/

namespace ConditionWait.Sample

def condition (type status : String) : Json :=
  .object [("status", .string status), ("type", .string type)]

def shows (conditions : List Json) : Snapshot where
  kind := .broker
  scope := some "test"
  name := "broker"
  generation := some 1
  body := .object [("status", .object [("conditions", .array conditions)])]

/-- Not ready, as the later one of two conditions says, whatever else holds. -/
def unready : Snapshot :=
  shows [condition "Ready" "True", condition "Ready" "False", condition "Deployed" "True"]

def ready : Snapshot := shows [condition "Ready" "False", condition "Ready" "True"]

/-- The broker appears between the first two ticks, gets ready behind the second one, and is ready
for a while around the third. -/
def settling : ClusterHistory where
  stored _ _ := unready
  object time _ _ _ :=
    if time < 3 then none
    else if time < 8 then some unready
    else if time < 11 then some ready
    else some unready
  listed _ _ _ _ := []

/-- The conditions can be decoded at all times. -/
lemma settling_decodable {time : Nat} {snapshot : Snapshot}
    (h : settling.objectAt broker time = some snapshot) :
    ∃ conditions, snapshot.statusConditions = .ok conditions := by
  have hcases : snapshot = unready ∨ snapshot = ready := by
    simp only [ClusterHistory.objectAt, settling] at h
    grind
  obtain rfl | rfl := hcases
  · exact ⟨[⟨"Ready", .holds, none, none, none, none⟩, ⟨"Ready", .fails, none, none, none, none⟩,
      ⟨"Deployed", .holds, none, none, none, none⟩], rfl⟩
  · exact ⟨[⟨"Ready", .fails, none, none, none, none⟩, ⟨"Ready", .holds, none, none, none, none⟩],
      rfl⟩

/-- At the first two ticks the condition is not reported. -/
lemma settling_not_reports {k : Nat} (hk : k < 2) :
    ¬ ∃ c, settling.Reports broker { type := "Ready" } (0 + k * provisioning.pollInterval) c := by
  rintro ⟨c, snapshot, conditions, hobject, hconditions, hlatest, haccepts⟩
  have hshown : settling.objectAt broker (0 + k * 5) = some snapshot := hobject
  obtain rfl | rfl : k = 0 ∨ k = 1 := by omega
  · cases hshown
  · cases hshown
    cases hconditions
    cases hlatest
    cases haccepts

end ConditionWait.Sample

open ConditionWait in
/-- Both waits end at the third tick, which comes behind their deadline. -/
theorem waits_end_at_third_tick :
    (Sample.provisioning.requireCondition Sample.broker { type := "Ready" } 9).during
        Sample.settling.answer 0 = (.ok ⟨"Ready", .holds, none, none, none, none⟩, 10) ∧
      (Sample.provisioning.awaitCondition Sample.broker { type := "Ready" } 9).during
        Sample.settling.answer 0 = (.ok true, 10) := by
  have hlast : 2 ≤ ⌈((9 : Nat) : ℚ) / Sample.provisioning.pollInterval⌉₊ :=
    (lt_ceil_div_iff (by decide)).mpr (by decide)
  have hreports : Sample.settling.Reports Sample.broker { type := "Ready" }
      (0 + 2 * Sample.provisioning.pollInterval) ⟨"Ready", .holds, none, none, none, none⟩ :=
    ⟨Sample.ready, _, rfl, rfl, rfl, rfl⟩
  have hends := Provisioning.waits_end_when_reported Sample.provisioning Sample.settling
    Sample.broker { type := "Ready" } 0 9 (by decide) (by decide)
    (fun _ _ _ _ h => Sample.settling_decodable h)
  exact hends.reported 2 hlast _ hreports fun j hj => Sample.settling_not_reports hj

end BrokerHarness
