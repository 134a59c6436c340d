import BrokerHarness.Proofs.ApiServer.Apply

/-!
# Refusals that stand for absence

The API server refuses a request about an object that is not there.  A look-up tells this from other
refusals by the reason, a deletion by the code.  So the two do not always agree: for a refusal with
the reason of absence and another code a look-up finds nothing while a deletion fails, and for one
with the code 404 and another reason it is the other way round.  The latter is what an answer is
that holds no status object, such as the page for an address that the server does not know, since
its code is the status of the answer (`Refusal.ofReply`).

`get_yields_iff` and `delete_yields_iff` give the runs of both, each with what it makes of the reply
as a function, and `refusals_sorted_by_reason_and_code` compares the two on every refusal.
-/

namespace BrokerHarness.ApiServer

variable {kind : ObjectKind} {ns name : String} {target : ObjectAddress} {reply : ApiReply}
  {t : List (Exchange apiServer)}

/-! ### Look-ups and deletions -/

/-- What a look-up makes of an object, if one was found. -/
def snapshotOf (kind : ObjectKind) : Option StoredObject → Except Failure (Option Snapshot)
  | some object => some <$> snapshot kind object
  | none => .ok none

/-- What a deletion makes of what came back for it. -/
def deletedBy (target : ObjectAddress) : Reception → Except Failure Unit
  | .accepted text => readFrom (StatusObject.formOf StoredObject.isDeletionAnswer) text
  | .refused refusal =>
    if refusal.code = 404 then
      .error (.notFound target.kind.name (target.scope.getD "") target.name)
    else .error refusal.failure
  | .nothing => .error unanswered

/-- A look-up that finds an object makes a snapshot of it, without a further request. -/
lemma get_eq : get kind ns name = lookUp ⟨kind, some ns⟩ name >>= fun found =>
    Action.ofExcept (snapshotOf kind found) := by
  unfold get
  congr 1
  funext found
  cases found with
  | none => rfl
  | some object =>
    dsimp only [snapshotOf]
    cases snapshot kind object with
    | ok s => rfl
    | error e => rfl

/-- A look-up is one exchange, unless it cannot be sent. -/
lemma get_yields_iff {r : Except Failure (Option Snapshot)} :
    (get kind ns name).Yields t r ↔
      SentOnce (.read ⟨kind, some ns⟩ name)
        (fun reception => foundBy reception >>= snapshotOf kind) t r := by
  rw [get_eq, Action.yields_bind_read_iff fun _ _ _ => Action.yields_ofExcept_iff]
  simp only [lookUp_yields_iff]
  exact sentOnce_read_iff

/-- A deletion is one exchange, unless it cannot be sent. -/
lemma delete_yields_iff {r : Except Failure Unit} :
    (delete target).Yields t r ↔
      SentOnce (.delete ⟨target.kind, target.scope⟩ target.name) (deletedBy target) t r := by
  refine send_read_yields_iff fun reception t r => ?_
  cases reception with
  | accepted text =>
    simp only [answered_eq, deletedBy]
    exact Action.yields_ofExcept_iff
  | refused refusal =>
    simp only [deletedBy]
    split
    · exact Action.yields_throw_iff
    · exact Action.yields_throw_iff
  | nothing => exact Action.yields_throw_iff

/-! ### Refused look-ups and deletions -/

/-- A look-up that is refused finds nothing if the reason is absence, and else fails with the
code. -/
lemma get_yields_iff_of_refusal (hrefusal : reply.isRefusal = true)
    (hsendable : (ApiRequest.read ⟨kind, some ns⟩ name).isSendable = true)
    {r : Except Failure (Option Snapshot)} :
    (get kind ns name).Yields [⟨.read ⟨kind, some ns⟩ name, some reply⟩] r ↔
      r = if (Refusal.ofReply reply).isAbsence then .ok none
        else .error (Refusal.ofReply reply).failure := by
  rw [get_yields_iff, sentOnce_reply_iff hsendable, ofReply_of_refusal hrefusal, foundBy_refused]
  cases (Refusal.ofReply reply).isAbsence with
  | true => rfl
  | false => rfl

/-- A deletion that is refused tells that the object is not there if the code is 404, and else fails
with the code. -/
lemma delete_yields_iff_of_refusal (hrefusal : reply.isRefusal = true)
    (hsendable :
      (ApiRequest.delete ⟨target.kind, target.scope⟩ target.name).isSendable = true)
    {r : Except Failure Unit} :
    (delete target).Yields
        [⟨.delete ⟨target.kind, target.scope⟩ target.name, some reply⟩] r ↔
      r = if (Refusal.ofReply reply).code = 404 then
          .error (.notFound target.kind.name (target.scope.getD "") target.name)
        else .error (Refusal.ofReply reply).failure := by
  rw [delete_yields_iff, sentOnce_reply_iff hsendable, ofReply_of_refusal hrefusal]
  rfl

/-- What a look-up and a deletion of the same object make of the same refusal: the look-up takes it
for absence by its reason, the deletion by its code, and in every other case it is a failure with
its code and its report.  So both agree exactly on the refusals that have the reason and the code,
or neither. -/
theorem refusals_sorted_by_reason_and_code (kind : ObjectKind) (ns name : String)
    (reply : ApiReply) (hrefusal : reply.isRefusal = true)
    (hread : (ApiRequest.read ⟨kind, some ns⟩ name).isSendable = true)
    (hdelete : (ApiRequest.delete ⟨kind, some ns⟩ name).isSendable = true) :
    ∃ found deleted,
      (∀ r, (get kind ns name).Yields [⟨.read ⟨kind, some ns⟩ name, some reply⟩] r ↔ r = found) ∧
      (∀ r, (delete ⟨kind, some ns, name⟩).Yields
        [⟨.delete ⟨kind, some ns⟩ name, some reply⟩] r ↔ r = deleted) ∧
      (found = .ok none ↔ (Refusal.ofReply reply).reason = "NotFound") ∧
      (deleted = .error (.notFound kind.name ns name) ↔ (Refusal.ofReply reply).code = 404) ∧
      (found ≠ .ok none → found = .error
        (.apiServer (some (Refusal.ofReply reply).code) (Refusal.ofReply reply).report)) ∧
      (deleted ≠ .error (.notFound kind.name ns name) → deleted = .error
        (.apiServer (some (Refusal.ofReply reply).code) (Refusal.ofReply reply).report)) ∧
      ((found = .ok none ↔ deleted = .error (.notFound kind.name ns name)) ↔
        ((Refusal.ofReply reply).reason = "NotFound" ↔ (Refusal.ofReply reply).code = 404)) := by
  refine ⟨_, _, fun r => get_yields_iff_of_refusal hrefusal hread,
    fun r => delete_yields_iff_of_refusal hrefusal hdelete, ?_⟩
  unfold Refusal.isAbsence Refusal.failure
  by_cases hreason : (Refusal.ofReply reply).reason = "NotFound" <;>
    by_cases hcode : (Refusal.ofReply reply).code = 404 <;> simp [hreason, hcode]

/-! ### Refusals of a broker -/

namespace Absence.Sample

def objects : Collection := ⟨.broker, some "test"⟩

/-- The usual refusal: the object is not there. -/
def absent : ApiReply where
  status := 404
  text := "\x7b\"status\":\"Failure\",\"reason\":\"NotFound\",\"code\":404\x7d"

/-- The page for an address that the server does not know, as for a kind that is not installed. -/
def page : ApiReply := ⟨404, "404 page not found"⟩

/-- The reason of absence, with another code. -/
def gone : ApiReply where
  status := 410
  text := "\x7b\"status\":\"Failure\",\"reason\":\"NotFound\",\"code\":410\x7d"

lemma ofReply_absent : Refusal.ofReply absent = ⟨404, "NotFound", ""⟩ := by decide +kernel

/-- The page is no status object, so its status is the code and its text is the message. -/
lemma ofReply_page : Refusal.ofReply page =
    ⟨404, "Failed to parse error data", "\"404 page not found\""⟩ := by
  decide +kernel

lemma ofReply_gone : Refusal.ofReply gone = ⟨410, "NotFound", ""⟩ := by decide +kernel

lemma read_isSendable : (ApiRequest.read objects "broker").isSendable = true := by decide +kernel

lemma delete_isSendable : (ApiRequest.delete objects "broker").isSendable = true := by
  decide +kernel

end Absence.Sample

open Absence.Sample in
/-- The usual refusal is absence for both. -/
theorem refusal_of_absent_broker :
    (get .broker "test" "broker").Yields [⟨.read objects "broker", some absent⟩] (.ok none) ∧
      (delete ⟨.broker, some "test", "broker"⟩).Yields [⟨.delete objects "broker", some absent⟩]
        (.error (.notFound "ActiveMQArtemis" "test" "broker")) := by
  obtain ⟨found, deleted, hget, hdelete, hfound, hdeleted, -⟩ :=
    refusals_sorted_by_reason_and_code .broker "test" "broker" absent rfl read_isSendable
      delete_isSendable
  rw [ofReply_absent] at hfound hdeleted
  exact ⟨(hget _).mpr (hfound.mpr rfl).symm, (hdelete _).mpr (hdeleted.mpr rfl).symm⟩

open Absence.Sample in
/-- For the page a deletion tells that the broker is not there and a look-up fails, and for the
reason of absence with another code it is the other way round. -/
theorem look_up_and_deletion_disagree :
    page.isRefusal = true ∧ gone.isRefusal = true ∧
      (get .broker "test" "broker").Yields [⟨.read objects "broker", some page⟩]
        (.error (.apiServer (some 404) "\"404 page not found\": Failed to parse error data")) ∧
      (delete ⟨.broker, some "test", "broker"⟩).Yields [⟨.delete objects "broker", some page⟩]
        (.error (.notFound "ActiveMQArtemis" "test" "broker")) ∧
      (get .broker "test" "broker").Yields [⟨.read objects "broker", some gone⟩] (.ok none) ∧
      (delete ⟨.broker, some "test", "broker"⟩).Yields [⟨.delete objects "broker", some gone⟩]
        (.error (.apiServer (some 410) ": NotFound")) := by
  have hget := fun reply (h : reply.isRefusal = true) r =>
    @get_yields_iff_of_refusal .broker "test" "broker" reply h read_isSendable r
  have hdelete := fun reply (h : reply.isRefusal = true) r =>
    @delete_yields_iff_of_refusal ⟨.broker, some "test", "broker"⟩ reply h delete_isSendable r
  refine ⟨rfl, rfl, (hget page rfl _).mpr ?_, (hdelete page rfl _).mpr ?_,
    (hget gone rfl _).mpr ?_, (hdelete gone rfl _).mpr ?_⟩
  · rw [ofReply_page]
    rfl
  · rw [ofReply_page]
    rfl
  · rw [ofReply_gone]
    rfl
  · rw [ofReply_gone]
    rfl

end BrokerHarness.ApiServer
