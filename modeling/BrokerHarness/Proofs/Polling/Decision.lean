import BrokerHarness.Proofs.Polling.Round

/-!
# What decides a polling

A polling ends with its first round that has a verdict.  The deadline has a part in that only for a
pending round: a value is passed on even past the deadline, a failure at once.  So a condition that
is never found pending from some time before the deadline on cannot run into it, and the only missed
deadline that such a polling reports is one that an evaluation failed with itself.
-/

namespace BrokerHarness

namespace Polling

/-- No polling has these parameters: no time passes between two evaluations, or there is no time for
a second one. -/
def IsFaulty (interval timeout : Nat) : Prop := interval = 0 ∨ timeout ≤ interval

/-- Why faulty parameters are refused; of two faults, the one of the interval counts. -/
def fault (description : String) (interval timeout : Nat) : SettingsFault :=
  if interval = 0 then .pollNotPositive description
  else .timeoutTooShort timeout interval description

variable {I : Interface} {α : Type} {description : String} {interval timeout : Nat}

/-- Parameters without a fault are the parameters of a polling. -/
lemma ofParameters_of_lt (hpos : 0 < interval) (hlt : interval < timeout) :
    ofParameters description interval timeout =
      .ok { description, interval, timeout, interval_pos := hpos, interval_lt_timeout := hlt } := by
  unfold ofParameters
  rw [dif_neg (Nat.ne_of_gt hpos), dif_neg (Nat.not_le.mpr hlt)]

/-- Parameters are without a fault exactly if there is time for a second evaluation. -/
lemma not_isFaulty_iff : ¬ IsFaulty interval timeout ↔ 0 < interval ∧ interval < timeout := by
  unfold IsFaulty
  omega

/-- Of two faults, the one of the interval is reported. -/
lemma ofParameters_of_isFaulty (h : IsFaulty interval timeout) :
    ofParameters description interval timeout =
      .error (.badSettings (fault description interval timeout)) := by
  unfold ofParameters fault
  by_cases hzero : interval = 0
  · simp [hzero]
  · have hle : timeout ≤ interval := h.resolve_left hzero
    simp [hzero, hle]

/-- All rounds of a course but the last leave the polling undecided, and the last one decides it. -/
lemma Course.decided {polling : Polling} {condition : Action I (Finding α)} {start since : Nat}
    {rounds : List (Round I α)} {t : List (Exchange I.timed)} {r : Except Failure α}
    (h : polling.Course condition start since rounds t r) (hsince : start ≤ since) :
    ∃ undecided last, rounds = undecided ++ [last] ∧
      (∀ round ∈ undecided, round.verdict polling.description polling.timeout start = none) ∧
      last.verdict polling.description polling.timeout start = some r := by
  induction h with
  | failed | reached => exact ⟨[], _, rfl, by simp, rfl⟩
  | @expired since time _ _ _ bound late =>
    have hlate : polling.timeout ≤ time - start := by omega
    exact ⟨[], _, rfl, by simp, if_pos hlate⟩
  | @again since time _ _ _ _ _ _ bound early _ ih =>
    obtain ⟨undecided, last, rfl, hundecided, hlast⟩ := ih (by omega)
    have hearly : ¬ polling.timeout ≤ time - start := by omega
    refine ⟨_ :: undecided, last, rfl, ?_, hlast⟩
    exact List.forall_mem_cons.mpr ⟨if_neg hearly, hundecided⟩

end Polling

/-! ### Polling with parameters -/

section Poll

variable {I : Interface} {α : Type} {description : String} {interval timeout start : Nat}
  {condition : Action I (Finding α)} {t : List (Exchange I.timed)} {r : Except Failure α}

/-- Polling with faulty parameters is refused without a request. -/
lemma poll_yields_iff_of_isFaulty (h : Polling.IsFaulty interval timeout) :
    (poll description interval timeout condition).Yields t r ↔
      t = [] ∧ r = .error (.badSettings (Polling.fault description interval timeout)) := by
  unfold poll
  rw [Polling.ofParameters_of_isFaulty h, Action.yields_bind_iff]
  simp

/-- Polling with other parameters is the polling with them. -/
lemma poll_eq_run (hpos : 0 < interval) (hlt : interval < timeout) :
    poll description interval timeout condition =
      Polling.run ⟨description, interval, timeout, hpos, hlt⟩ condition := by
  unfold poll
  rw [Polling.ofParameters_of_lt hpos hlt]
  rfl

/-- Polling with any other parameters is the polling with them, exchange by exchange. -/
lemma poll_yields_iff_of_lt (hpos : 0 < interval) (hlt : interval < timeout) :
    (poll description interval timeout condition).Yields t r ↔
      (Polling.run ⟨description, interval, timeout, hpos, hlt⟩ condition).Yields t r := by
  rw [poll_eq_run hpos hlt]

/-- Polling uses the clock, and asks what evaluations of the condition ask. -/
lemma poll_asksOnly {allowed : I.Request → Prop} (hasks : condition.AsksOnly allowed) :
    Action.AsksOnly (I := I.timed) (TimedRequest.Within allowed)
      (poll description interval timeout condition) := by
  refine (Action.asksOnly_ofExcept _).bind fun polling t r h => ?_
  obtain ⟨start, rounds, rest, rfl, course⟩ := Polling.run_yields_iff.mp h
  exact List.forall_mem_cons.mpr ⟨trivial, course.asksOnly hasks⟩

/-- Polling gives a value only by an evaluation that reaches the condition with it, and nothing
follows this evaluation. -/
lemma poll_ends_with_reached {value : α}
    (h : (poll description interval timeout condition).Yields t (.ok value)) :
    ∃ earlier asked, t = earlier ++ asked.map Exchange.timed ∧
      condition.Yields asked (.ok (.reached value)) := by
  obtain ⟨t₁, t₂, polling, rfl, -, hrun⟩ := Action.yields_bind_ok_iff.mp h
  obtain ⟨start, rounds, rest, rfl, course⟩ := Polling.run_yields_iff.mp hrun
  obtain ⟨earlier, asked, rfl, hasked⟩ := course.ends_with_reached
  exact ⟨_, asked, by rw [← List.cons_append, ← List.append_assoc], hasked⟩

/-- A round leaves a polling undecided exactly if it is pending before the deadline. -/
lemma Round.verdict_eq_none_iff {round : Round I α} :
    round.verdict description timeout start = none ↔
      ∃ asked observed time, round = .pending asked observed time ∧ time - start < timeout := by
  cases round with
  | failed asked failure => simp [Round.verdict]
  | reached asked value => simp [Round.verdict]
  | pending asked observed time => simp [Round.verdict]

/-- A round decides for a value exactly if it reaches the condition with it. -/
lemma Round.verdict_eq_ok_iff {round : Round I α} {value : α} :
    round.verdict description timeout start = some (.ok value) ↔
      ∃ asked, round = .reached asked value := by
  cases round with
  | failed asked failure => simp [Round.verdict]
  | reached asked found => simp [Round.verdict]
  | pending asked observed time => simp [Round.verdict]

/-- A polling that gives a value has the parameters that it needs. -/
lemma poll_parameters_of_ok {value : α}
    (h : (poll description interval timeout condition).Yields t (.ok value)) :
    0 < interval ∧ interval < timeout := by
  refine Polling.not_isFaulty_iff.mp fun hfaulty => ?_
  have herror := ((poll_yields_iff_of_isFaulty hfaulty).mp h).2
  cases herror

/-- A polling with other parameters accounts for itself by rounds, of which only the last decides
it. -/
lemma poll_account (hpos : 0 < interval) (hlt : interval < timeout)
    (h : (poll description interval timeout condition).Yields t r) :
    ∃ start undecided last, RoundsOf interval condition start (undecided ++ [last]) t ∧
      (∀ round ∈ undecided, round.verdict description timeout start = none) ∧
      last.verdict description timeout start = some r := by
  rw [poll_yields_iff_of_lt hpos hlt] at h
  obtain ⟨start, rounds, rest, rfl, course⟩ := Polling.run_yields_iff.mp h
  have haccount := course.roundsOf
  obtain ⟨undecided, last, rfl, hundecided, hlast⟩ := course.decided (Nat.le_refl start)
  exact ⟨start, undecided, last, haccount, hundecided, hlast⟩

/-- A polling that gives a value accounts for itself by rounds of which the last reaches the
condition with it. -/
lemma poll_account_of_ok {value : α}
    (h : (poll description interval timeout condition).Yields t (.ok value)) :
    ∃ start undecided asked,
      RoundsOf interval condition start (undecided ++ [.reached asked value]) t ∧
      ∀ round ∈ undecided, round.verdict description timeout start = none := by
  obtain ⟨hpos, hlt⟩ := poll_parameters_of_ok h
  obtain ⟨start, undecided, last, hrounds, hundecided, hlast⟩ := poll_account hpos hlt h
  obtain ⟨asked, rfl⟩ := Round.verdict_eq_ok_iff.mp hlast
  exact ⟨start, undecided, asked, hrounds, hundecided⟩

/-- From the elapsed time `bound` on, counted from `start`, no round finds the condition pending. -/
def SatisfiedFrom (bound start : Nat) (rounds : List (Round I α)) : Prop :=
  ∀ asked observed time, .pending asked observed time ∈ rounds → time - start < bound

/-- A round decides for a missed deadline only by its own failure, if the condition is not pending
any more at the deadline. -/
lemma Round.eq_failed_of_verdict {round : Round I α} {bound elapsed : Nat} {d observed : String}
    (hverdict : round.verdict description timeout start =
      some (.error (.deadlinePassed d elapsed observed)))
    (hbound : bound ≤ timeout) (hsatisfied : SatisfiedFrom bound start [round]) :
    ∃ asked, round = .failed asked (.deadlinePassed d elapsed observed) := by
  cases round with
  | failed asked failure =>
    obtain rfl : failure = .deadlinePassed d elapsed observed := by
      simpa [Round.verdict] using hverdict
    exact ⟨asked, rfl⟩
  | reached asked value => simp [Round.verdict] at hverdict
  | pending asked seen time =>
    have hlt : time - start < bound := hsatisfied asked seen time (by simp)
    have hearly : ¬ timeout ≤ time - start := by omega
    simp [Round.verdict, hearly] at hverdict

/-- A polling with faulty parameters fails with the fault before any request.  Otherwise its first
round with a verdict decides it, and with the condition satisfied from some time before the deadline
on, the polling does not miss the deadline by itself.  The times are those of a clock that never
goes back and does not cut sleeps short (`Interface.timed`). -/
theorem poll_decided_by_first_verdict (description : String) (interval timeout : Nat)
    (condition : Action I (Finding α)) :
    (∀ (σ : Type) (answer : (q : I.timed.Request) → σ → I.timed.Answer q × σ) (s : σ),
      ∃ t r, (poll description interval timeout condition).Yields t r ∧
        Program.Answered answer s t) ∧
    (interval = 0 ∨ timeout ≤ interval → ∀ t r,
      (poll description interval timeout condition).Yields t r ↔
        t = [] ∧ r = .error (.badSettings (if interval = 0 then .pollNotPositive description
          else .timeoutTooShort timeout interval description))) ∧
    (¬ (interval = 0 ∨ timeout ≤ interval) → ∀ t r,
      (poll description interval timeout condition).Yields t r →
        ∃ start undecided last,
          RoundsOf interval condition start (undecided ++ [last]) t ∧
          (∀ round ∈ undecided, round.verdict description timeout start = none) ∧
          last.verdict description timeout start = some r ∧
          ∀ bound ≤ timeout, SatisfiedFrom bound start (undecided ++ [last]) →
            ∀ d elapsed observed, r = .error (.deadlinePassed d elapsed observed) →
              ∃ asked, last = .failed asked (.deadlinePassed d elapsed observed)) := by
  refine ⟨?_, fun h t r => poll_yields_iff_of_isFaulty h, ?_⟩
  · exact fun σ answer s =>
      (poll description interval timeout condition).exists_yields answer s
  · intro hvalid t r h
    obtain ⟨hpos, hlt⟩ := Polling.not_isFaulty_iff.mp hvalid
    obtain ⟨start, undecided, last, haccount, hundecided, hlast⟩ := poll_account hpos hlt h
    refine ⟨start, undecided, last, haccount, hundecided, hlast, ?_⟩
    rintro bound hbound hsatisfied d elapsed observed rfl
    refine Round.eq_failed_of_verdict hlast hbound fun asked seen time hmem => ?_
    exact hsatisfied asked seen time (List.mem_append_right undecided hmem)

end Poll

end BrokerHarness
