import BrokerHarness.Proofs.Polling.Round
import Mathlib.Algebra.Order.Floor.Div
import Mathlib.Data.Rat.Floor

/-!
# How often a polling evaluates its condition

The recursion of a polling has no counter; one that is told in log messages would bound nothing,
since no round ends because of it, and is left out.  What bounds the number of its rounds is the
clock: between two readings there is a sleep of the interval, and a round that is followed by
another one is read before the deadline (`Course.length_mul_lt`).  On an exact clock the readings
are no further apart than that, so a condition that is never reached is evaluated as often as the
bound allows (`Course.le_length_mul`).
-/

namespace BrokerHarness.Polling

variable {I : Interface} {α : Type} {polling : Polling} {condition : Action I (Finding α)}
  {start since : Nat} {rounds : List (Round I α)} {t : List (Exchange I.timed)}
  {r : Except Failure α}

/-- The bound is one more than the quotient of timeout and interval, rounded up. -/
lemma evaluationBound_eq_ceil (polling : Polling) :
    polling.evaluationBound = ⌈(polling.timeout : ℚ) / polling.interval⌉₊ + 1 := by
  have hpos : (0 : ℚ) < polling.interval := by exact_mod_cast polling.interval_pos
  have hceil : polling.timeout ⌈/⌉ polling.interval =
      ⌈(polling.timeout : ℚ) / polling.interval⌉₊ := by
    refine eq_of_forall_ge_iff fun n => ?_
    rw [ceilDiv_le_iff_le_mul polling.interval_pos, Nat.ceil_le, div_le_iff₀' hpos]
    exact_mod_cast Iff.rfl
  rw [← hceil]
  rfl

/-- A round that is followed by another one is read before the deadline, and a sleep follows it. -/
lemma Course.length_mul_lt (h : polling.Course condition start since rounds t r)
    (hsince : since < start + polling.timeout + polling.interval) :
    since + rounds.length * polling.interval <
      start + polling.timeout + 2 * polling.interval := by
  induction h with
  | failed | reached | expired => simp only [List.length_singleton]; omega
  | again run bound early rest ih =>
    have hrest := ih (by omega)
    rw [List.length_cons, Nat.succ_mul]
    omega

/-- No course has more rounds than the bound. -/
lemma Course.length_le_evaluationBound (h : polling.Course condition start start rounds t r) :
    rounds.length ≤ polling.evaluationBound := by
  have hpos := polling.interval_pos
  have hlt := h.length_mul_lt (by omega)
  have hle : (rounds.length - 1) * polling.interval ≤ polling.timeout + polling.interval - 1 := by
    rw [Nat.sub_mul]
    omega
  have hdiv := (Nat.le_div_iff_mul_le hpos).mpr hle
  unfold evaluationBound
  omega

/-- On an exact clock, rounds that are all pending last until the deadline. -/
lemma Course.le_length_mul {possible : Nat → Exchange I → Prop}
    (h : polling.Course condition start since rounds t r) (exact : Timeline possible since t)
    (pending : ∀ round ∈ rounds, round.IsPending) :
    start + polling.timeout + polling.interval ≤ since + rounds.length * polling.interval := by
  induction h with
  | failed | reached => simp [Round.IsPending] at pending
  | expired run bound late =>
    obtain ⟨-, rfl, -⟩ := timeline_map_timed_append.mp exact
    simp only [List.length_singleton]
    omega
  | again run bound early rest ih =>
    obtain ⟨-, rfl, hrest⟩ := timeline_map_timed_append.mp exact
    have hlast := ih hrest fun round hround => pending round (List.mem_cons_of_mem _ hround)
    rw [List.length_cons, Nat.succ_mul]
    omega

/-- On an exact clock, a course whose rounds are all pending has as many as the bound allows. -/
lemma Course.length_eq_evaluationBound {possible : Nat → Exchange I → Prop}
    (h : polling.Course condition start start rounds t r) (exact : Timeline possible start t)
    (pending : ∀ round ∈ rounds, round.IsPending) :
    rounds.length = polling.evaluationBound := by
  have hpos := polling.interval_pos
  have hle := h.le_length_mul exact pending
  refine Nat.le_antisymm h.length_le_evaluationBound ?_
  have hdiv : polling.timeout + polling.interval - 1 < rounds.length * polling.interval := by omega
  have hlt := (Nat.div_lt_iff_lt_mul hpos).mpr hdiv
  unfold evaluationBound
  omega

/-- If the condition may be left pending, a polling may go on with it until the deadline, on an
exact clock. -/
lemma exists_pending_course {asked : List (Exchange I)} {observed : String}
    (run : condition.Yields asked (.ok (.notYet observed))) (start since : Nat) :
    ∃ rounds t r, polling.Course condition start since rounds t r ∧
      Timeline (fun _ _ => True) since t ∧ ∀ round ∈ rounds, round.IsPending := by
  induction hn : start + polling.timeout - since using Nat.strongRecOn generalizing since with
  | ind n ih =>
    by_cases late : start + polling.timeout ≤ since
    · refine ⟨_, _, _, .expired run le_rfl late, ?_, by simp [Round.IsPending]⟩
      exact timeline_map_timed_append.mpr ⟨fun _ _ => trivial, rfl, trivial⟩
    · have hlt : start + polling.timeout - (since + polling.interval) < n := by
        have := polling.interval_pos
        omega
      obtain ⟨rounds, t, r, rest, exact, pending⟩ := ih _ hlt (since + polling.interval) rfl
      refine ⟨_, _, _, .again run le_rfl (Nat.lt_of_not_le late) rest, ?_, ?_⟩
      · exact timeline_map_timed_append.mpr ⟨fun _ _ => trivial, rfl, exact⟩
      · exact List.forall_mem_cons.mpr ⟨trivial, pending⟩

/-- A polling ends, whatever answers its requests, after at most as many evaluations of the
condition as the bound says, with one sleep of the interval between each two of them and none behind
the last one.  Of its clock it takes for granted only that it does not go backwards and that sleeps
are not cut short.  The bound is met whenever the clock is exact and the condition stays pending. -/
theorem run_ends_within_evaluationBound (polling : Polling) (condition : Action I (Finding α)) :
    polling.evaluationBound = ⌈(polling.timeout : ℚ) / polling.interval⌉₊ + 1 ∧
    (∀ (σ : Type) (answer : (q : I.timed.Request) → σ → I.timed.Answer q × σ) (s : σ),
      ∃ t r, (polling.run condition).Yields t r ∧ Program.Answered answer s t) ∧
    (∀ t r, (polling.run condition).Yields t r →
      ∃ start rounds, RoundsOf polling.interval condition start rounds t ∧
        rounds.length ≤ polling.evaluationBound ∧ Warranted 0 t ∧
        (Timeline (fun _ _ => True) start t → (∀ round ∈ rounds, round.IsPending) →
          rounds.length = polling.evaluationBound)) ∧
    (∀ asked observed, condition.Yields asked (.ok (.notYet observed)) →
      ∀ start, ∃ t r rounds, (polling.run condition).Yields t r ∧
        RoundsOf polling.interval condition start rounds t ∧ Timeline (fun _ _ => True) start t ∧
        (∀ round ∈ rounds, round.IsPending) ∧ rounds.length = polling.evaluationBound) := by
  refine ⟨evaluationBound_eq_ceil polling, ?_, ?_, ?_⟩
  · exact fun σ answer s => (polling.run condition).exists_yields answer s
  · intro t r h
    obtain ⟨start, rounds, rest, rfl, course⟩ := run_yields_iff.mp h
    refine ⟨start, rounds, course.roundsOf, course.length_le_evaluationBound,
      ⟨le_rfl, course.warranted le_rfl⟩, ?_⟩
    rintro ⟨-, exact⟩ pending
    exact course.length_eq_evaluationBound exact pending
  · intro asked observed run start
    obtain ⟨rounds, rest, r, course, exact, pending⟩ :
        ∃ rounds rest r, polling.Course condition start start rounds rest r ∧
          Timeline (fun _ _ => True) start rest ∧ ∀ round ∈ rounds, round.IsPending :=
      exists_pending_course run start start
    exact ⟨_, r, rounds, run_yields_iff.mpr ⟨start, rounds, rest, rfl, course⟩, course.roundsOf,
      ⟨rfl, exact⟩, pending, course.length_eq_evaluationBound exact pending⟩

end BrokerHarness.Polling
