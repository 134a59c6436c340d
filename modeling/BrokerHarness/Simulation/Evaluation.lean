import BrokerHarness.Polling

/-!
# Simulated conditions

A condition whose evaluations are planned in advance, each with the time that it takes, on a clock
that only evaluations and sleeps move.
-/

namespace BrokerHarness

/-- The question for one evaluation of a condition. -/
def evaluation (α : Type) : Interface := ⟨Unit, fun _ => Except Failure (Finding α)⟩

/-- Asks for one evaluation of a condition. -/
def askEvaluation {α : Type} : Action (evaluation α) (Finding α) :=
  ExceptT.mk (Program.request (I := evaluation α) ())

/-- An evaluation as it is planned: the time that it takes, and what it finds or how it fails. -/
structure PlannedEvaluation (α : Type) where
  cost : Nat := 0
  outcome : Except Failure (Finding α)

/-- A condition at one moment of the polling: the next evaluation and those behind it, of which the
last one is repeated, the time on the clock, and how many evaluations and sleeps were made. -/
structure SimulatedCondition (α : Type) where
  next : PlannedEvaluation α
  later : List (PlannedEvaluation α)
  now : Nat := 0
  evaluations : Nat := 0
  sleeps : Nat := 0

namespace SimulatedCondition

variable {α : Type}

/-- The course behind one evaluation. -/
def advance (course : SimulatedCondition α) : SimulatedCondition α :=
  let passed :=
    { course with
      now := course.now + course.next.cost
      evaluations := course.evaluations + 1 }
  match course.later with
  | [] => passed
  | next :: later => { passed with next, later }

/-- Answers a request to the condition or to the clock. -/
def answer :
    (request : (evaluation α).timed.Request) → SimulatedCondition α →
      (evaluation α).timed.Answer request × SimulatedCondition α
  | .clock since, course => (⟨max since course.now, Nat.le_max_left ..⟩, course)
  | .sleep time, course =>
    ((), { course with now := course.now + time, sleeps := course.sleeps + 1 })
  | .other (), course => (course.next.outcome, course.advance)

/-- Runs an action from the start of a course. -/
def run {β : Type} (action : Action (evaluation α).timed β) (course : SimulatedCondition α) :
    Except Failure β × SimulatedCondition α :=
  Program.runWith answer action.run course

end SimulatedCondition

end BrokerHarness
