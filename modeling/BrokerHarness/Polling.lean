import BrokerHarness.Program

/-!
# Polling

Polling evaluates a condition at once and then once per interval, until the condition is reached
or an evaluation that does not reach it ends at or after the deadline. A failing evaluation ends the
polling with its failure: nothing is evaluated again because of a failure.

The deadline is tested behind an evaluation only, so a condition that holds at the last evaluation
is found, even past the deadline. `Polling.evaluationBound` bounds the number of evaluations. The
evaluations are not counted on the way: a count of 32 bits would be told in log messages only, and
no decision depends on it.
-/

namespace BrokerHarness

/-- What one evaluation of a condition finds. -/
inductive Finding (α : Type) where
  /-- The condition holds, and gives this value. -/
  | reached (value : α)
  /-- The condition does not hold yet; the text tells what was seen instead. -/
  | notYet (observed : String)
deriving DecidableEq, Repr

/-- The finding about a condition without a value. -/
def Finding.ofBool (holds : Bool) (observed : String) : Finding Unit :=
  if holds then .reached () else .notYet observed

/-- The parameters of polling: what is looked for, as told in the failure, the time between two
evaluations, and the deadline, counted from the first one. There is time for a second evaluation
before the deadline. -/
structure Polling where
  description : String
  interval : Nat
  timeout : Nat
  interval_pos : 0 < interval
  interval_lt_timeout : interval < timeout
deriving DecidableEq, Repr

namespace Polling

variable {I : Interface} {α : Type}

/-- Polling with these parameters, or the fault that they have. -/
def ofParameters (description : String) (interval timeout : Nat) :
    Except Failure Polling :=
  if hp : interval = 0 then
    .error (.badSettings (.pollNotPositive description))
  else if ht : timeout ≤ interval then
    .error (.badSettings (.timeoutTooShort timeout interval description))
  else
    .ok {
      description, interval, timeout
      interval_pos := Nat.pos_of_ne_zero hp
      interval_lt_timeout := Nat.lt_of_not_le ht }

/-- The greatest number of evaluations that polling makes: one at the start, and one for each
interval that begins before the deadline. -/
def evaluationBound (polling : Polling) : Nat :=
  (polling.timeout + polling.interval - 1) / polling.interval + 1

/-- The rest of a run that began at `start`, when the clock cannot show a time before `since`.
Behind each evaluation that does not reach the condition the time is read; before the deadline the
run sleeps and goes on, when the clock has moved on by the interval at least. It ends because of the
clock: no number of evaluations is kept beside it. -/
def runFrom (polling : Polling) (condition : Action I (Finding α)) (start since : Nat) :
    Action I.timed α := do
  match ← condition.timed with
  | .reached value => return value
  | .notYet observed =>
    let ⟨time, _⟩ ← Action.clock since
    if _ : start + polling.timeout ≤ time then
      throw (.deadlinePassed polling.description (time - start) observed)
    else
      Action.sleep polling.interval
      polling.runFrom condition start (time + polling.interval)
termination_by start + polling.timeout - since
decreasing_by have := polling.interval_pos; omega

/-- Polls until the condition is reached, or fails when the deadline passes before. -/
def run (polling : Polling) (condition : Action I (Finding α)) : Action I.timed α := do
  let ⟨start, _⟩ ← Action.clock 0
  polling.runFrom condition start start

end Polling

/-- Checks the parameters and then polls; invalid parameters fail before any evaluation. -/
def poll {I : Interface} {α : Type} (description : String) (interval timeout : Nat)
    (condition : Action I (Finding α)) : Action I.timed α := do
  let polling ← Action.ofExcept (Polling.ofParameters description interval timeout)
  polling.run condition

end BrokerHarness
