import BrokerHarness.ApiServer.Request
import BrokerHarness.Json.Reader
import BrokerHarness.Text.Quoted

/-!
# Status answers

The API server answers a request that it refuses with an error status and a *status object*, which
tells a code, a reason and a message of its own. Its other fields are left out of the failure. It
may also answer a deletion with a status object in place of the object.
-/

namespace BrokerHarness

/-- Why the API server refused a request, as its answer tells it: a code, a reason in one word and a
message in its own words. -/
structure Refusal where
  code : Nat
  reason : String
  message : String
deriving DecidableEq, Repr

namespace Refusal

/-- Reads a code, a number of 16 bits. -/
def code? (d : Json.Document) : Option Nat := (d.read? (Json.intBetween? 0 65535)).map Int.toNat

/-- Reads the refusal that a status object tells. -/
def ofDocument? (d : Json.Document) : Option Refusal := do
  let r ← d.record? ["status", "message", "reason", "code"]
  let _ ← r.required "status" Json.Document.string?
  let message ← r.withDefault "message" "" Json.Document.string?
  let reason ← r.withDefault "reason" "" Json.Document.string?
  let code ← r.required "code" code?
  return { code, reason, message }

/-- The refusal of an answer with an error status. An answer without a status object is a refusal
with the status as its code and the quoted text as its message. -/
def ofReply (reply : ApiReply) : Refusal :=
  ((Json.Document.parse? reply.text).bind ofDocument?).getD {
    code := reply.status
    reason := "Failed to parse error data"
    message := Text.quoted reply.text }

/-- Whether a refusal says, by its reason, that the object is not there. -/
def isAbsence (refusal : Refusal) : Bool := refusal.reason = "NotFound"

/-- What a refusal reports. -/
def report (refusal : Refusal) : String := refusal.message ++ ": " ++ refusal.reason

/-- The failure that a refusal is. -/
def failure (refusal : Refusal) : Failure := .apiServer (some refusal.code) refusal.report

end Refusal

/-- Whether an answer has an error status. -/
def ApiReply.isRefusal (reply : ApiReply) : Bool := 400 ≤ reply.status && reply.status < 600

/-! ### Status objects in place of an object -/

namespace StatusObject

/-- Whether a document tells success or failure: as a text, or as the only key of an object, with
null. -/
def isOutcome : Json.Document → Bool
  | .string s => s = "Success" || s = "Failure"
  | .object [(some key, .null)] => key = "Success" || key = "Failure"
  | _ => false

/-- Reads a document for which only its form matters. -/
def formOf (isForm : Json.Document → Bool) (d : Json.Document) : Option Unit :=
  if isForm d then some () else none

/-- Whether a document has the form of one cause. -/
def isCause (d : Json.Document) : Bool :=
  Option.isSome do
    let r ← d.record? ["reason", "message", "field"]
    let _ ← r.withDefault "reason" "" Json.Document.string?
    let _ ← r.withDefault "message" "" Json.Document.string?
    r.withDefault "field" "" Json.Document.string?

/-- Whether a document has the form of the details of a status. -/
def isDetails (d : Json.Document) : Bool :=
  Option.isSome do
    let r ← d.record? ["name", "group", "kind", "uid", "causes", "retryAfterSeconds"]
    let _ ← r.withDefault "name" "" Json.Document.string?
    let _ ← r.withDefault "group" "" Json.Document.string?
    let _ ← r.withDefault "kind" "" Json.Document.string?
    let _ ← r.withDefault "uid" "" Json.Document.string?
    let _ ← r.withDefault "causes" [] (Json.Document.listOf? (formOf isCause))
    r.withDefault "retryAfterSeconds" 0 (·.read? (Json.intBetween? 0 4294967295))

/-- Whether a document has the form of a status object. -/
def isStatus (d : Json.Document) : Bool :=
  Option.isSome do
    let r ← d.record? ["status", "code", "message", "reason", "details"]
    let _ ← r.withDefault "status" none (Json.Document.orNull? (formOf isOutcome))
    let _ ← r.withDefault "code" 0 Refusal.code?
    let _ ← r.withDefault "message" "" Json.Document.string?
    let _ ← r.withDefault "reason" "" Json.Document.string?
    r.withDefault "details" none (Json.Document.orNull? (formOf isDetails))

end StatusObject

end BrokerHarness
