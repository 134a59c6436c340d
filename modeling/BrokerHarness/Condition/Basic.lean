import BrokerHarness.Json.Record
import BrokerHarness.Timestamp.Printer
import BrokerHarness.Timestamp.Reader

/-!
# Status conditions

A condition is one entry of the list in which the operator reports the status of a resource.
-/

namespace BrokerHarness

/-- Whether what a condition reports holds. -/
inductive ConditionStatus where
  /-- It holds. -/
  | holds
  /-- It does not hold. -/
  | fails
  /-- It is not known. -/
  | unknown
deriving DecidableEq, Repr

namespace ConditionStatus

/-- The written form. -/
def text : ConditionStatus → String
  | holds => "True"
  | fails => "False"
  | unknown => "Unknown"

/-- The status with a written form. -/
def ofText? (s : String) : Option ConditionStatus :=
  if s = "True" then some holds
  else if s = "False" then some fails
  else if s = "Unknown" then some unknown
  else none

/-- Reads a status: its written form as a text, or as the only key of an object, with null. -/
def ofJson? : Json → Option ConditionStatus
  | .string s => ofText? s
  | .object [(key, .null)] => ofText? key
  | _ => none

/-- A status is read back from its text. -/
theorem ofText?_text (s : ConditionStatus) : ofText? s.text = some s := by
  cases s <;> decide

end ConditionStatus

/-- One reported status condition: what it is about and whether it holds, why in one word and in
words, when the status last changed, and the generation of the object that it was reported for. -/
structure Condition where
  type : String
  status : ConditionStatus
  reason : Option String := none
  message : Option String := none
  lastTransitionTime : Option Timestamp := none
  observedGeneration : Option Int64 := none
deriving DecidableEq, Repr

namespace Condition

/-- The text of a condition: its type and status, the reason in brackets, the message. -/
def text (c : Condition) : String :=
  c.type ++ "=" ++ c.status.text ++
    (match c.reason with
      | some reason => s!" ({reason})"
      | none => "") ++
    (match c.message with
      | some message => s!": {message}"
      | none => "")

/-- The members of a condition in the order of their declaration. -/
def memberNames : List String :=
  ["type", "status", "reason", "message", "lastTransitionTime", "observedGeneration"]

/-- Reads a condition. -/
def ofJson? (v : Json) : Option Condition := do
  let r ← v.record? memberNames
  let type ← r.required "type" Json.string?
  let status ← r.required "status" ConditionStatus.ofJson?
  let reason ← r.optional "reason" Json.string?
  let message ← r.optional "message" Json.string?
  let lastTransitionTime ←
    r.optional "lastTransitionTime" fun time => time.string?.bind Timestamp.read?
  let observedGeneration ← r.optional "observedGeneration" Json.int64?
  return { type, status, reason, message, lastTransitionTime, observedGeneration }

/-- The condition as a value, with null for every member that is not there. -/
def toJson (c : Condition) : Json :=
  .ofFields [
    ("type", .string c.type),
    ("status", .string c.status.text),
    ("reason", .orNull (c.reason.map .string)),
    ("message", .orNull (c.message.map .string)),
    ("lastTransitionTime", .orNull (c.lastTransitionTime.map fun time => .string time.text)),
    ("observedGeneration", .orNull (c.observedGeneration.map .ofInt64))]

/-- The texts of the conditions of a list, as told in failures. -/
def listText (conditions : List Condition) : String :=
  if conditions.isEmpty then "no conditions" else ", ".intercalate (conditions.map text)

end Condition

end BrokerHarness
