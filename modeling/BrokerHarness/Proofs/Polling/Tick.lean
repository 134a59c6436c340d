import BrokerHarness.Proofs.History
import BrokerHarness.Proofs.Polling.Decision
import Mathlib.Data.Rat.Floor

/-!
# The ticks of a polling

On an exact clock a polling whose evaluations take no time evaluates its condition at ticks: at its
start and then once per interval, the last time at the first tick that is not before the deadline.
That tick is the quotient of timeout and interval, rounded up.

So on a history the outcome and its time can be read off the history.  `poll_during_reached` finds
the condition at the first tick at which it is reached, and `poll_during_deadline` misses the
deadline at the last tick if it is not reached at any.
-/

namespace BrokerHarness

variable {I : Interface} {α : Type} {condition : Action I (Finding α)}
  {history : Nat → (r : I.Request) → I.Answer r}

/-- At a time of a history, an evaluation of the condition finds that it does not hold yet. -/
def PendingAt (history : Nat → (r : I.Request) → I.Answer r) (condition : Action I (Finding α))
    (time : Nat) : Prop :=
  ∃ observed, condition.under (history time) = .ok (.notYet observed)

/-- The ticks before the last one are those before the deadline. -/
lemma lt_ceil_div_iff {interval timeout k : Nat} (hpos : 0 < interval) :
    k < ⌈(timeout : ℚ) / interval⌉₊ ↔ k * interval < timeout := by
  have hinterval : (0 : ℚ) < interval := by exact_mod_cast hpos
  rw [Nat.lt_ceil, lt_div_iff₀ hinterval]
  exact_mod_cast Iff.rfl

/-- The last tick is not before the deadline. -/
lemma le_ceil_div_mul {interval timeout : Nat} (hpos : 0 < interval) :
    timeout ≤ ⌈(timeout : ℚ) / interval⌉₊ * interval :=
  Nat.not_lt.mp fun h => Nat.lt_irrefl _ ((lt_ceil_div_iff hpos).mpr h)

namespace Polling

variable {polling : Polling} {start now : Nat}

/-- A condition that is reached ends the polling at the time of its evaluation. -/
lemma runFrom_during_reached {value : α}
    (h : condition.under (history now) = .ok (.reached value)) :
    (polling.runFrom condition start now).during history now = (.ok value, now) := by
  have heval : condition.timed.during history now = (.ok (.reached value), now) := by
    rw [Action.during_timed, h]
  rw [runFrom, Action.during_bind_ok heval]
  exact Action.during_pure value now

/-- A condition that is pending at or behind the deadline ends the polling with it. -/
lemma runFrom_during_expired {observed : String}
    (h : condition.under (history now) = .ok (.notYet observed))
    (hlate : start + polling.timeout ≤ now) :
    (polling.runFrom condition start now).during history now =
      (.error (.deadlinePassed polling.description (now - start) observed), now) := by
  have heval : condition.timed.during history now = (.ok (.notYet observed), now) := by
    rw [Action.during_timed, h]
  rw [runFrom, Action.during_bind_ok heval]
  refine (Action.during_clock_bind le_rfl).trans ?_
  simp only [hlate, dite_true]
  exact Action.during_throw _ now

/-- A tick before the deadline that leaves the condition pending leads to the next one. -/
lemma runFrom_during_again (h : PendingAt history condition now)
    (hearly : now < start + polling.timeout) :
    (polling.runFrom condition start now).during history now =
      (polling.runFrom condition start (now + polling.interval)).during history
        (now + polling.interval) := by
  obtain ⟨observed, h⟩ := h
  have heval : condition.timed.during history now = (.ok (.notYet observed), now) := by
    rw [Action.during_timed, h]
  rw [runFrom, Action.during_bind_ok heval]
  refine (Action.during_clock_bind le_rfl).trans ?_
  simp only [Nat.not_le.mpr hearly, dite_false]
  exact Action.during_sleep_bind

/-- Ticks before the deadline that leave the condition pending lead to the tick behind them. -/
lemma runFrom_during_tick (k : Nat)
    (hpending : ∀ j < k, PendingAt history condition (start + j * polling.interval))
    (hearly : ∀ j < k, j * polling.interval < polling.timeout) :
    (polling.runFrom condition start start).during history start =
      (polling.runFrom condition start (start + k * polling.interval)).during history
        (start + k * polling.interval) := by
  induction k with
  | zero => simp
  | succ k ih =>
    have hbefore := ih (fun j hj => hpending j (Nat.lt_succ_of_lt hj))
      (fun j hj => hearly j (Nat.lt_succ_of_lt hj))
    have hlt : start + k * polling.interval < start + polling.timeout :=
      Nat.add_lt_add_left (hearly k (Nat.lt_succ_self k)) start
    rw [hbefore, runFrom_during_again (hpending k (Nat.lt_succ_self k)) hlt, Nat.succ_mul,
      Nat.add_assoc]

/-- The deadline of a polling is counted from its begin. -/
lemma run_during (polling : Polling) (condition : Action I (Finding α)) (start : Nat) :
    (polling.run condition).during history start =
      (polling.runFrom condition start start).during history start := by
  unfold run
  exact Action.during_clock_bind (Nat.zero_le start)

end Polling

/-! ### Polling with parameters -/

section Poll

variable {description : String} {interval timeout start : Nat}

/-- A polling gives the value that its condition has at the first tick at which it is reached, and
ends at this tick. -/
theorem poll_during_reached {k : Nat} {value : α} (hpos : 0 < interval) (hlt : interval < timeout)
    (hk : k ≤ ⌈(timeout : ℚ) / interval⌉₊)
    (hpending : ∀ j < k, PendingAt history condition (start + j * interval))
    (hreached : condition.under (history (start + k * interval)) = .ok (.reached value)) :
    (poll description interval timeout condition).during history start =
      (.ok value, start + k * interval) := by
  have hearly : ∀ j < k, j * interval < timeout :=
    fun j hj => (lt_ceil_div_iff hpos).mp (Nat.lt_of_lt_of_le hj hk)
  rw [poll_eq_run hpos hlt, Polling.run_during, Polling.runFrom_during_tick k hpending hearly]
  exact Polling.runFrom_during_reached hreached

/-- A polling whose condition is not reached at any tick misses the deadline at the last one, with
what was observed there. -/
theorem poll_during_deadline (hpos : 0 < interval) (hlt : interval < timeout)
    (hpending : ∀ k ≤ ⌈(timeout : ℚ) / interval⌉₊,
      PendingAt history condition (start + k * interval)) :
    ∃ observed,
      condition.under (history (start + ⌈(timeout : ℚ) / interval⌉₊ * interval)) =
        .ok (.notYet observed) ∧
      (poll description interval timeout condition).during history start =
        (.error (.deadlinePassed description (⌈(timeout : ℚ) / interval⌉₊ * interval) observed),
          start + ⌈(timeout : ℚ) / interval⌉₊ * interval) := by
  obtain ⟨observed, hobserved⟩ := hpending _ le_rfl
  refine ⟨observed, hobserved, ?_⟩
  have hearly : ∀ j < ⌈(timeout : ℚ) / interval⌉₊, j * interval < timeout :=
    fun j hj => (lt_ceil_div_iff hpos).mp hj
  rw [poll_eq_run hpos hlt, Polling.run_during,
    Polling.runFrom_during_tick _ (fun j hj => hpending j hj.le) hearly]
  have hlate : start + timeout ≤ start + ⌈(timeout : ℚ) / interval⌉₊ * interval :=
    Nat.add_le_add_left (le_ceil_div_mul hpos) start
  refine (Polling.runFrom_during_expired hobserved hlate).trans ?_
  rw [Nat.add_sub_cancel_left]

end Poll

end BrokerHarness
