import BrokerHarness.Condition.Basic
import BrokerHarness.Failure
import BrokerHarness.Text.Occurrence
import BrokerHarness.Text.Quoted

/-!
# Expectations on condition lists

A list may hold several conditions of one type. Only the *latest* one counts: the one that changed
last, where a condition without a time is older than every other, and of equally old ones the last
in the list. An expectation names the status of a type, and perhaps a reason and a text that the
message has to contain.
-/

namespace BrokerHarness

namespace Condition

/-- Whether a condition is not older than another: a missing time is before every time. -/
def notOlder (newer older : Condition) : Bool :=
  match older.lastTransitionTime, newer.lastTransitionTime with
  | none, _ => true
  | some _, none => false
  | some a, some b => decide (a ≤ b)

/-- The newer of two conditions, the second if they are equally old. -/
def newer (first second : Condition) : Condition :=
  if second.notOlder first then second else first

/-- The condition of a type that counts, if the list has one of the type. -/
def latest (type : String) (conditions : List Condition) : Option Condition :=
  (conditions.filter (·.type = type)).foldl
    (fun best c => some (match best with
      | none => c
      | some b => newer b c))
    none

end Condition

/-- What the condition of a type is expected to report: a status, perhaps a reason, and perhaps a
text that its message contains. -/
structure Expectation where
  type : String
  status : ConditionStatus := .holds
  reason : Option String := none
  messageContains : Option String := none
deriving DecidableEq, Repr

/-- How a condition list compares with an expectation. -/
inductive Verdict where
  /-- The condition that counts is as expected. -/
  | matched (condition : Condition)
  /-- The condition that counts is not as expected. -/
  | mismatch (condition : Condition)
  /-- The list has no condition of the type. -/
  | absent
deriving DecidableEq, Repr

namespace Expectation

/-- The text of an expectation. -/
def text (e : Expectation) : String :=
  e.type ++ "=" ++ e.status.text ++
    (match e.reason with
      | some reason => s!" ({reason})"
      | none => "") ++
    (match e.messageContains with
      | some fragment => " with message containing " ++ Text.quoted fragment
      | none => "")

/-- Whether a condition of the type is as expected. A missing message counts as empty. -/
def accepts (e : Expectation) (c : Condition) : Bool :=
  c.status = e.status &&
    (match e.reason with
      | some reason => c.reason = some reason
      | none => true) &&
    (match e.messageContains with
      | some fragment => Text.occursIn fragment.toList (c.message.getD "").toList
      | none => true)

/-- Compares the condition that counts with the expectation. -/
def judge (e : Expectation) (conditions : List Condition) : Verdict :=
  match Condition.latest e.type conditions with
  | none => .absent
  | some c => if e.accepts c then .matched c else .mismatch c

/-- Whether the condition that counts is as expected. -/
def isMet (e : Expectation) (conditions : List Condition) : Bool :=
  match e.judge conditions with
  | .matched _ => true
  | _ => false

/-- Fails unless the condition that counts is as expected. -/
def expect (e : Expectation) (conditions : List Condition) : Except Failure Unit :=
  match e.judge conditions with
  | .matched _ => .ok ()
  | .mismatch c => .error (.conditionDiffers e.type e.text c.text)
  | .absent => .error (.conditionDiffers e.type e.text "absent")

end Expectation

end BrokerHarness
