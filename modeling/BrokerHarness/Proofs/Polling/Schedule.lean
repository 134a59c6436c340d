import BrokerHarness.Proofs.Polling.Tick

/-!
# What is asked when

On a history a program asks certain requests at certain times.  `Program.schedule` lists them, each
with the time that an exact clock shows; readings of the clock and sleeps are not listed.  An action
that does not use the clock asks all of its requests at once, those of `Action.askedUnder`.

The schedule of a polling consists of its ticks: what an evaluation of the condition asks under the
answers of the time of the tick (`poll_schedule_reached`, `poll_schedule_deadline`).
-/

namespace BrokerHarness

/-- The entry of a request in a schedule, at the time at which it is asked. -/
def TimedRequest.entry {I : Interface} (now : Nat) : TimedRequest I → List (Nat × I.Request)
  | .clock _ | .sleep _ => []
  | .other r => [(now, r)]

namespace Program

variable {I J : Interface} {α β : Type}

/-- The requests that a program asks each of which gets the answer that the function has for it. -/
def askedUnder (answer : (r : I.Request) → I.Answer r) : Program I α → List I.Request
  | done _ => []
  | ask r next => r :: (next (answer r)).askedUnder answer

/-- Under a function, the parts of a program ask one after the other. -/
lemma askedUnder_bind (answer : (r : I.Request) → I.Answer r) (p : Program I α)
    (f : α → Program I β) :
    (p.bind f).askedUnder answer =
      p.askedUnder answer ++ (f (p.under answer)).askedUnder answer := by
  induction p with
  | done a => rfl
  | ask r next ih => exact congrArg (r :: ·) (ih (answer r))

/-- The requests that a program asks on a history, each with the time at which it is asked. -/
def schedule (history : Nat → (r : I.Request) → I.Answer r) :
    Program I.timed α → Nat → List (Nat × I.Request)
  | done _, _ => []
  | ask q next, now =>
    TimedRequest.entry now q ++
      (next (onTime history q now).1).schedule history (onTime history q now).2

/-- On a history, a second part asks from the time on at which the first one ended. -/
lemma schedule_bind (history : Nat → (r : I.Request) → I.Answer r) (p : Program I.timed α)
    (f : α → Program I.timed β) (now : Nat) :
    (p.bind f).schedule history now =
      p.schedule history now ++
        (f (p.runWith (onTime history) now).1).schedule history
          (p.runWith (onTime history) now).2 := by
  induction p generalizing now with
  | done a => rfl
  | ask q next ih =>
    refine (congrArg (TimedRequest.entry now q ++ ·) (ih _ _)).trans ?_
    exact (List.append_assoc _ _ _).symm

/-! ### Interpreted programs -/

variable {f : (r : I.Request) → Program J (I.Answer r)} {answer : (r : J.Request) → J.Answer r}

/-- Under a function, each request has the result of the program that carries it out. -/
lemma under_interpret (p : Program I α) :
    (p.interpret f).under answer = p.under fun r => (f r).under answer := by
  induction p with
  | done a => rfl
  | ask r next ih => exact (under_bind answer (f r) _).trans (ih _)

/-- Under a function, each request asks what the program does that carries it out. -/
lemma askedUnder_interpret (p : Program I α) :
    (p.interpret f).askedUnder answer =
      (p.askedUnder fun r => (f r).under answer).flatMap fun r => (f r).askedUnder answer := by
  induction p with
  | done a => rfl
  | ask r next ih =>
    rw [askedUnder, List.flatMap_cons, ← ih]
    exact askedUnder_bind answer (f r) _

end Program

namespace Action

variable {I : Interface} {α β : Type} {answer : (r : I.Request) → I.Answer r}
  {history : Nat → (r : I.Request) → I.Answer r} {now later : Nat}

/-- The requests that an action asks each of which gets the answer that the function has for it. -/
def askedUnder (action : Action I α) (answer : (r : I.Request) → I.Answer r) : List I.Request :=
  Program.askedUnder answer action.run

/-- The requests that an action asks on a history, each with the time at which it is asked. -/
def schedule (action : Action I.timed α) (history : Nat → (r : I.Request) → I.Answer r)
    (begins : Nat) : List (Nat × I.Request) :=
  Program.schedule history action.run begins

/-- Behind an action that gives a value, what follows asks. -/
lemma askedUnder_bind_ok {action : Action I α} {f : α → Action I β} {a : α}
    (h : action.under answer = .ok a) :
    (action >>= f).askedUnder answer = action.askedUnder answer ++ (f a).askedUnder answer := by
  have hrun : Program.under answer action.run = .ok a := h
  refine (Program.askedUnder_bind answer action.run _).trans ?_
  rw [hrun]
  rfl

/-- Behind an action that gives a value, what follows asks from the time on at which the action
ended. -/
lemma schedule_bind_ok {action : Action I.timed α} {f : α → Action I.timed β} {a : α}
    (h : action.during history now = (.ok a, later)) :
    (action >>= f).schedule history now =
      action.schedule history now ++ (f a).schedule history later := by
  have hrun : Program.runWith (Program.onTime history) action.run now = (.ok a, later) := h
  refine (Program.schedule_bind history action.run _ now).trans ?_
  rw [hrun]
  rfl

/-- An action that does not use the clock asks everything at once. -/
lemma schedule_timed (action : Action I α) (now : Nat) :
    action.timed.schedule history now =
      (action.askedUnder (history now)).map fun r => (now, r) := by
  have key : ∀ p : Program I (Except Failure α),
      Program.schedule history
          (p.interpret fun r => Program.ask (I := I.timed) (.other r) Program.done) now =
        (p.askedUnder (history now)).map fun r => (now, r) := by
    intro p
    induction p with
    | done a => rfl
    | ask r next ih => exact congrArg ((now, r) :: ·) (ih (history now r))
  exact key action.run

/-- Reading the clock takes no time. -/
lemma schedule_clock_bind {since : Nat} {f : { time : Nat // since ≤ time } → Action I.timed β}
    (h : since ≤ now) :
    (clock since >>= f).schedule history now = (f ⟨now, h⟩).schedule history now := by
  have hmax : (⟨max since now, Nat.le_max_left since now⟩ : { time : Nat // since ≤ time }) =
      ⟨now, h⟩ := Subtype.ext (Nat.max_eq_right h)
  change (f ⟨max since now, Nat.le_max_left since now⟩).schedule history now = _
  rw [hmax]

/-- A sleep takes its time, and asks nothing. -/
lemma schedule_sleep_bind {time : Nat} {f : Unit → Action I.timed β} :
    (sleep time >>= f).schedule history now = (f ()).schedule history (now + time) := rfl

end Action

/-! ### Pollings -/

variable {I : Interface} {α : Type} {condition : Action I (Finding α)}
  {history : Nat → (r : I.Request) → I.Answer r}

/-- What evaluations of the condition ask at the first ticks of a polling. -/
def ticksSchedule (history : Nat → (r : I.Request) → I.Answer r) (condition : Action I (Finding α))
    (start interval ticks : Nat) : List (Nat × I.Request) :=
  (List.range ticks).flatMap fun k =>
    (condition.askedUnder (history (start + k * interval))).map fun r => (start + k * interval, r)

/-- One more tick. -/
lemma ticksSchedule_succ (start interval k : Nat) :
    ticksSchedule history condition start interval (k + 1) =
      ticksSchedule history condition start interval k ++
        condition.timed.schedule history (start + k * interval) := by
  unfold ticksSchedule
  rw [List.range_succ, List.flatMap_append, List.flatMap_singleton, Action.schedule_timed]

namespace Polling

variable {polling : Polling} {start now : Nat}

/-- A tick that decides the polling is the last one. -/
lemma runFrom_schedule_of_decided {finding : Finding α}
    (h : condition.under (history now) = .ok finding)
    (hdecided : ∀ observed, finding = .notYet observed → start + polling.timeout ≤ now) :
    (polling.runFrom condition start now).schedule history now =
      condition.timed.schedule history now := by
  have heval : condition.timed.during history now = (.ok finding, now) := by
    rw [Action.during_timed, h]
  rw [runFrom, Action.schedule_bind_ok heval]
  cases finding with
  | reached value => exact List.append_nil _
  | notYet observed =>
    have hlate := hdecided observed rfl
    refine (congrArg (condition.timed.schedule history now ++ ·)
      (Action.schedule_clock_bind le_rfl)).trans ?_
    simp only [hlate, dite_true]
    exact List.append_nil _

/-- Behind a tick before the deadline that leaves the condition pending comes the next one. -/
lemma runFrom_schedule_again (h : PendingAt history condition now)
    (hearly : now < start + polling.timeout) :
    (polling.runFrom condition start now).schedule history now =
      condition.timed.schedule history now ++
        (polling.runFrom condition start (now + polling.interval)).schedule history
          (now + polling.interval) := by
  obtain ⟨observed, h⟩ := h
  have heval : condition.timed.during history now = (.ok (.notYet observed), now) := by
    rw [Action.during_timed, h]
  rw [runFrom, Action.schedule_bind_ok heval]
  refine (congrArg (condition.timed.schedule history now ++ ·)
    (Action.schedule_clock_bind le_rfl)).trans ?_
  simp only [Nat.not_le.mpr hearly, dite_false]
  rw [Action.schedule_sleep_bind]

/-- Ticks before the deadline that leave the condition pending come one after the other. -/
lemma runFrom_schedule_tick (k : Nat)
    (hpending : ∀ j < k, PendingAt history condition (start + j * polling.interval))
    (hearly : ∀ j < k, j * polling.interval < polling.timeout) :
    (polling.runFrom condition start start).schedule history start =
      ticksSchedule history condition start polling.interval k ++
        (polling.runFrom condition start (start + k * polling.interval)).schedule history
          (start + k * polling.interval) := by
  induction k with
  | zero => simp [ticksSchedule]
  | succ k ih =>
    have hbefore := ih (fun j hj => hpending j (Nat.lt_succ_of_lt hj))
      (fun j hj => hearly j (Nat.lt_succ_of_lt hj))
    have hlt : start + k * polling.interval < start + polling.timeout :=
      Nat.add_lt_add_left (hearly k (Nat.lt_succ_self k)) start
    rw [hbefore, runFrom_schedule_again (hpending k (Nat.lt_succ_self k)) hlt,
      ticksSchedule_succ, List.append_assoc, Nat.succ_mul, Nat.add_assoc]

/-- Ticks that leave the condition pending before the deadline, and the one that decides the
polling, are all ticks. -/
lemma run_schedule {k : Nat} {finding : Finding α}
    (hpending : ∀ j < k, PendingAt history condition (start + j * polling.interval))
    (hearly : ∀ j < k, j * polling.interval < polling.timeout)
    (hlast : condition.under (history (start + k * polling.interval)) = .ok finding)
    (hdecided : ∀ observed, finding = .notYet observed →
      polling.timeout ≤ k * polling.interval) :
    (polling.run condition).schedule history start =
      ticksSchedule history condition start polling.interval (k + 1) := by
  have hstart : (polling.run condition).schedule history start =
      (polling.runFrom condition start start).schedule history start :=
    Action.schedule_clock_bind (Nat.zero_le start)
  rw [hstart, runFrom_schedule_tick k hpending hearly, ticksSchedule_succ]
  refine congrArg (_ ++ ·) (runFrom_schedule_of_decided hlast fun observed hobserved => ?_)
  exact Nat.add_le_add_left (hdecided observed hobserved) start

end Polling

section Poll

variable {description : String} {interval timeout start : Nat}

/-- A polling asks what its condition asks at each tick up to the first at which it is reached. -/
theorem poll_schedule_reached {k : Nat} {value : α} (hpos : 0 < interval)
    (hlt : interval < timeout) (hk : k ≤ ⌈(timeout : ℚ) / interval⌉₊)
    (hpending : ∀ j < k, PendingAt history condition (start + j * interval))
    (hreached : condition.under (history (start + k * interval)) = .ok (.reached value)) :
    (poll description interval timeout condition).schedule history start =
      ticksSchedule history condition start interval (k + 1) := by
  have hearly : ∀ j < k, j * interval < timeout :=
    fun j hj => (lt_ceil_div_iff hpos).mp (Nat.lt_of_lt_of_le hj hk)
  rw [poll_eq_run hpos hlt]
  exact Polling.run_schedule hpending hearly hreached (by simp)

/-- A polling whose condition is not reached at any tick asks what it asks at all of them. -/
theorem poll_schedule_deadline (hpos : 0 < interval) (hlt : interval < timeout)
    (hpending : ∀ k ≤ ⌈(timeout : ℚ) / interval⌉₊,
      PendingAt history condition (start + k * interval)) :
    (poll description interval timeout condition).schedule history start =
      ticksSchedule history condition start interval (⌈(timeout : ℚ) / interval⌉₊ + 1) := by
  obtain ⟨observed, hlast⟩ := hpending _ le_rfl
  have hearly : ∀ j < ⌈(timeout : ℚ) / interval⌉₊, j * interval < timeout :=
    fun j hj => (lt_ceil_div_iff hpos).mp hj
  rw [poll_eq_run hpos hlt]
  exact Polling.run_schedule (fun j hj => hpending j hj.le) hearly hlast
    fun _ _ => le_ceil_div_mul hpos

end Poll

end BrokerHarness
