import BrokerHarness.ApiServer.Client
import BrokerHarness.Proofs.Object.Manifest
import BrokerHarness.Proofs.Run

/-!
# Runs of an application at the API server

A request to the server is one exchange at most, and what came back for it is read (`SentOnce`).
Applying a manifest reads the object and then writes it.  `lookUp_yields_iff` and `ask_yields_iff`
give the runs of both steps, each with what it makes of the reply as a function, and `AppliesWith`
is the account of a whole application (`apply_yields_iff`).  `ApplyRun` is what is left of it if
only the exchanges count, and whether the request that writes was accepted.

The request that writes depends on what was read: `StoredObject.stringAt?_resourceVersion` says
that it carries this version, whatever version the manifest may have carried.
-/

namespace BrokerHarness

/-! ### Fields of values that are written -/

deriving instance DecidableEq for StoredObject, Manifest

namespace StoredObject

variable {object : StoredObject}

lemma get?_metadata : object.toJson.get? "metadata" = some object.metadata.toJson :=
  Json.lookup_insertField_self _ _ _

/-- What is written of an object tells the version of its metadata. -/
lemma stringAt?_resourceVersion :
    object.toJson.stringAt? ["metadata", "resourceVersion"] = object.metadata.resourceVersion :=
  Json.stringAt?_pair get?_metadata ObjectMetadata.get?_resourceVersion

/-- What is written of an object tells the name of its metadata. -/
lemma stringAt?_name : object.toJson.stringAt? ["metadata", "name"] = object.metadata.name :=
  Json.stringAt?_pair get?_metadata ObjectMetadata.get?_name

end StoredObject

/-! ### Replies -/

namespace ApiReply

/-- The server did what was asked, and shows an object. -/
def Shows (reply : ApiReply) (object : StoredObject) : Prop :=
  reply.isRefusal = false ∧
    (Json.Document.parse? reply.text).bind StoredObject.ofDocument? = some object

/-- The server says that the object is not there. -/
def SaysAbsent (reply : ApiReply) : Prop :=
  reply.isRefusal = true ∧ (Refusal.ofReply reply).isAbsence = true

end ApiReply

namespace ApiServer

variable {α : Type} {q : ApiRequest} {t : List (Exchange apiServer)}

/-- A request that can be sent is one exchange; for one that cannot be sent nothing comes back. -/
lemma send_bind_yields_iff {f : Reception → Action apiServer α} {r : Except Failure α} :
    Action.Yields ((liftM (send q) : Action apiServer Reception) >>= f) t r ↔
      (q.isSendable = false ∧ (f .nothing).Yields t r) ∨
        q.isSendable = true ∧ ∃ x rest, t = ⟨q, x⟩ :: rest ∧ (f (.ofReply x)).Yields rest r := by
  rw [Action.yields_lift_bind_iff]
  unfold send
  cases hsendable : q.isSendable with
  | false =>
    simp only [Bool.false_eq_true, if_false, Program.yields_done_iff, false_and, or_false, true_and]
    constructor
    · rintro ⟨_, _, _, rfl, ⟨rfl, rfl⟩, h⟩
      exact h
    · intro h
      exact ⟨[], t, .nothing, rfl, ⟨rfl, rfl⟩, h⟩
  | true =>
    simp only [if_true, reduceCtorEq, false_and, false_or, true_and]
    constructor
    · rintro ⟨_, rest, reception, rfl, hsend, h⟩
      obtain ⟨x, _, rfl, hdone⟩ := Program.yields_ask_iff.mp hsend
      obtain ⟨rfl, rfl⟩ := Program.yields_done_iff.mp hdone
      exact ⟨x, rest, rfl, h⟩
    · rintro ⟨x, rest, rfl, h⟩
      exact ⟨[⟨q, x⟩], rest, .ofReply x, rfl, .ask (.done _), h⟩

/-- At most one exchange: the request is sent if it can be, and the result is read from what came
back for it. -/
def SentOnce (q : ApiRequest) (result : Reception → Except Failure α)
    (t : List (Exchange apiServer)) (r : Except Failure α) : Prop :=
  (q.isSendable = false ∧ t = [] ∧ r = result .nothing) ∨
    q.isSendable = true ∧ ∃ x, t = [⟨q, x⟩] ∧ r = result (.ofReply x)

/-- A request whose reply only has to be read is one exchange at most. -/
lemma send_read_yields_iff {f : Reception → Action apiServer α}
    {result : Reception → Except Failure α}
    (hread : ∀ reception t r, (f reception).Yields t r ↔ t = [] ∧ r = result reception)
    {r : Except Failure α} :
    Action.Yields ((liftM (send q) : Action apiServer Reception) >>= f) t r ↔
      SentOnce q result t r := by
  unfold SentOnce
  simp only [send_bind_yields_iff, hread]
  refine or_congr_right (and_congr_right fun _ => exists_congr fun x => ?_)
  constructor
  · rintro ⟨rest, rfl, rfl, rfl⟩
    exact ⟨rfl, rfl⟩
  · rintro ⟨rfl, rfl⟩
    exact ⟨[], rfl, rfl, rfl⟩

/-- What came of one exchange at most may be read on. -/
lemma sentOnce_read_iff {β : Type} {result : Reception → Except Failure α}
    {read : α → Except Failure β} {r : Except Failure β} :
    (∃ x, SentOnce q result t x ∧ r = x >>= read) ↔
      SentOnce q (fun reception => result reception >>= read) t r := by
  constructor
  · rintro ⟨_, ⟨hunsendable, rfl, rfl⟩ | ⟨hsendable, x, rfl, rfl⟩, rfl⟩
    · exact .inl ⟨hunsendable, rfl, rfl⟩
    · exact .inr ⟨hsendable, x, rfl, rfl⟩
  · rintro (⟨hunsendable, rfl, rfl⟩ | ⟨hsendable, x, rfl, rfl⟩)
    · exact ⟨_, .inl ⟨hunsendable, rfl, rfl⟩, rfl⟩
    · exact ⟨_, .inr ⟨hsendable, x, rfl, rfl⟩, rfl⟩

/-- What comes of a request that can be sent is read from its reply. -/
lemma sentOnce_reply_iff (hsendable : q.isSendable = true) {result : Reception → Except Failure α}
    {x : Option ApiReply} {r : Except Failure α} :
    SentOnce q result [⟨q, x⟩] r ↔ r = result (.ofReply x) := by
  constructor
  · rintro (⟨hunsendable, -⟩ | ⟨-, y, hy, rfl⟩)
    · rw [hsendable] at hunsendable
      cases hunsendable
    · cases hy
      rfl
  · rintro rfl
    exact .inr ⟨hsendable, x, rfl, rfl⟩

/-! ### What is read -/

/-- What is read from an accepted answer. -/
def readFrom (read : Json.Document → Option α) (text : String) : Except Failure α :=
  match (Json.Document.parse? text).bind read with
  | some a => .ok a
  | none => .error (unreadable text)

/-- What is read from what came back for a request that is not to be refused. -/
def receivedBy (read : Json.Document → Option α) : Reception → Except Failure α
  | .accepted text => readFrom read text
  | .refused refusal => .error refusal.failure
  | .nothing => .error unanswered

/-- What a look-up finds out from what came back for it. -/
def foundBy : Reception → Except Failure (Option StoredObject)
  | .accepted text => some <$> readFrom StoredObject.ofDocument? text
  | .refused refusal => if refusal.isAbsence then .ok none else .error refusal.failure
  | .nothing => .error unanswered

/-- Reading an answer asks nothing. -/
lemma answered_eq (read : Json.Document → Option α) (text : String) :
    answered read text = Action.ofExcept (readFrom read text) := by
  unfold answered readFrom
  cases (Json.Document.parse? text).bind read with
  | some a => rfl
  | none => rfl

/-- A request that is not to be refused is one exchange, unless it cannot be sent. -/
lemma ask_yields_iff {read : Json.Document → Option α} {r : Except Failure α} :
    (ask read q).Yields t r ↔ SentOnce q (receivedBy read) t r := by
  refine send_read_yields_iff fun reception t r => ?_
  cases reception with
  | accepted text =>
    simp only [answered_eq, receivedBy]
    exact Action.yields_ofExcept_iff
  | refused refusal => exact Action.yields_throw_iff
  | nothing => exact Action.yields_throw_iff

/-- A look-up is one exchange, unless it cannot be sent. -/
lemma lookUp_yields_iff {objects : Collection} {name : String}
    {r : Except Failure (Option StoredObject)} :
    (lookUp objects name).Yields t r ↔ SentOnce (.read objects name) foundBy t r := by
  refine send_read_yields_iff fun reception t r => ?_
  cases reception with
  | accepted text =>
    simp only [answered_eq, foundBy]
    cases readFrom StoredObject.ofDocument? text with
    | ok object => exact Action.yields_pure_iff
    | error e => exact Action.yields_throw_iff
  | refused refusal =>
    simp only [foundBy]
    split
    · exact Action.yields_pure_iff
    · exact Action.yields_throw_iff
  | nothing => exact Action.yields_throw_iff

/-! ### What came back -/

/-- The request was accepted. -/
def IsAccepted (x : Option ApiReply) : Prop := ∃ reply, x = some reply ∧ reply.isRefusal = false

/-- An error status is a refusal, whatever the text says. -/
lemma ofReply_of_refusal {reply : ApiReply} (h : reply.isRefusal = true) :
    Reception.ofReply (some reply) = .refused (.ofReply reply) := if_pos h

/-- Any other status is an acceptance, whatever the text says. -/
lemma ofReply_of_not_refusal {reply : ApiReply} (h : reply.isRefusal = false) :
    Reception.ofReply (some reply) = .accepted reply.text := if_neg (Bool.eq_false_iff.mp h)

lemma readFrom_eq_ok_iff {read : Json.Document → Option α} {text : String} {a : α} :
    readFrom read text = .ok a ↔ (Json.Document.parse? text).bind read = some a := by
  unfold readFrom
  cases (Json.Document.parse? text).bind read with
  | some b => simp
  | none => simp

/-- The only failure of reading is that of an answer that cannot be read. -/
lemma readFrom_eq_error {read : Json.Document → Option α} {text : String} {e : Failure}
    (h : readFrom read text = .error e) : e = unreadable text := by
  unfold readFrom at h
  split at h
  · cases h
  · exact (Except.error.inj h).symm

/-- Whatever goes wrong with a request that is not to be refused, it is a failure of the API server.
-/
lemma receivedBy_eq_error {read : Json.Document → Option α} {reception : Reception} {e : Failure}
    (h : receivedBy read reception = .error e) : ∃ code report, e = .apiServer code report := by
  cases reception with
  | accepted text => exact ⟨_, _, readFrom_eq_error h⟩
  | refused refusal => exact ⟨_, _, (Except.error.inj h).symm⟩
  | nothing => exact ⟨_, _, (Except.error.inj h).symm⟩

/-- Only an accepted request gives a value. -/
lemma isAccepted_of_receivedBy {read : Json.Document → Option α} {x : Option ApiReply} {a : α}
    (h : receivedBy read (.ofReply x) = .ok a) : IsAccepted x := by
  cases x with
  | none => cases h
  | some reply =>
    cases hrefusal : reply.isRefusal with
    | false => exact ⟨reply, rfl, hrefusal⟩
    | true =>
      rw [ofReply_of_refusal hrefusal] at h
      cases h

lemma foundBy_accepted (text : String) : foundBy (.accepted text) =
    some <$> readFrom StoredObject.ofDocument? text := rfl

lemma foundBy_refused (refusal : Refusal) : foundBy (.refused refusal) =
    if refusal.isAbsence then .ok none else .error refusal.failure := rfl

/-- An accepted look-up finds the object that can be read from its answer. -/
lemma foundBy_accepted_eq_ok {text : String} {existing : Option StoredObject}
    (h : foundBy (.accepted text) = .ok existing) : ∃ object, existing = some object ∧
      (Json.Document.parse? text).bind StoredObject.ofDocument? = some object := by
  rw [foundBy_accepted] at h
  cases hread : readFrom StoredObject.ofDocument? text with
  | ok object =>
    rw [hread] at h
    exact ⟨object, (Except.ok.inj h).symm, readFrom_eq_ok_iff.mp hread⟩
  | error e =>
    rw [hread] at h
    cases h

/-- A refused look-up that does not fail finds nothing, since it was told of the absence. -/
lemma foundBy_refused_eq_ok {refusal : Refusal} {existing : Option StoredObject}
    (h : foundBy (.refused refusal) = .ok existing) :
    existing = none ∧ refusal.isAbsence = true := by
  rw [foundBy_refused] at h
  split at h
  · next habsence => exact ⟨(Except.ok.inj h).symm, habsence⟩
  · cases h

/-- Whatever goes wrong with a look-up, it is a failure of the API server. -/
lemma foundBy_eq_error {reception : Reception} {e : Failure}
    (h : foundBy reception = .error e) : ∃ code report, e = .apiServer code report := by
  cases reception with
  | accepted text =>
    rw [foundBy_accepted] at h
    cases hread : readFrom StoredObject.ofDocument? text with
    | ok object =>
      rw [hread] at h
      cases h
    | error failure =>
      obtain rfl := readFrom_eq_error hread
      rw [hread] at h
      exact ⟨_, _, (Except.error.inj h).symm⟩
  | refused refusal =>
    rw [foundBy_refused] at h
    split at h
    · cases h
    · exact ⟨_, _, (Except.error.inj h).symm⟩
  | nothing => exact ⟨_, _, (Except.error.inj h).symm⟩

/-- A look-up finds an object only if the server shows it, and nothing only if the server says
so. -/
lemma exists_reply_of_foundBy {x : Option ApiReply} {existing : Option StoredObject}
    (h : foundBy (.ofReply x) = .ok existing) : ∃ reply, x = some reply ∧
      ((existing = none ∧ reply.SaysAbsent) ∨ ∃ object, existing = some object ∧
        reply.Shows object) := by
  cases x with
  | none => cases h
  | some reply =>
    refine ⟨reply, rfl, ?_⟩
    cases hrefusal : reply.isRefusal with
    | false =>
      rw [ofReply_of_not_refusal hrefusal] at h
      obtain ⟨object, hobject, hread⟩ := foundBy_accepted_eq_ok h
      exact .inr ⟨object, hobject, hrefusal, hread⟩
    | true =>
      rw [ofReply_of_refusal hrefusal] at h
      obtain ⟨hnone, habsence⟩ := foundBy_refused_eq_ok h
      exact .inl ⟨hnone, hrefusal, habsence⟩

/-- A look-up finds what it is shown. -/
lemma foundBy_of_shows {reply : ApiReply} {object : StoredObject} (h : reply.Shows object) :
    foundBy (.ofReply (some reply)) = .ok (some object) := by
  obtain ⟨haccepted, hread⟩ := h
  rw [ofReply_of_not_refusal haccepted, foundBy_accepted, readFrom_eq_ok_iff.mpr hread]
  rfl

/-- A look-up finds the object that the server shows. -/
lemma foundBy_eq_some_iff {x : Option ApiReply} {existing : StoredObject} :
    foundBy (.ofReply x) = .ok (some existing) ↔
      ∃ reply, x = some reply ∧ reply.Shows existing := by
  constructor
  · intro h
    obtain ⟨reply, hreply, ⟨hnone, -⟩ | ⟨object, hobject, hshows⟩⟩ := exists_reply_of_foundBy h
    · cases hnone
    · cases hobject
      exact ⟨reply, hreply, hshows⟩
  · rintro ⟨reply, rfl, hshows⟩
    exact foundBy_of_shows hshows

/-- A look-up finds nothing if the server says that the object is absent. -/
lemma foundBy_eq_none_iff {x : Option ApiReply} :
    foundBy (.ofReply x) = .ok none ↔ ∃ reply, x = some reply ∧ reply.SaysAbsent := by
  constructor
  · intro h
    obtain ⟨reply, hreply, ⟨-, habsent⟩ | ⟨object, hobject, -⟩⟩ := exists_reply_of_foundBy h
    · exact ⟨reply, hreply, habsent⟩
    · cases hobject
  · rintro ⟨reply, rfl, hrefusal, habsence⟩
    rw [ofReply_of_refusal hrefusal, foundBy_refused, habsence]
    rfl

/-- An accepted request is answered with the object that the server shows. -/
lemma receivedBy_eq_ok_iff {x : Option ApiReply} {stored : StoredObject} :
    receivedBy StoredObject.ofDocument? (.ofReply x) = .ok stored ↔
      ∃ reply, x = some reply ∧ reply.Shows stored := by
  constructor
  · intro h
    obtain ⟨reply, rfl, haccepted⟩ := isAccepted_of_receivedBy h
    rw [ofReply_of_not_refusal haccepted] at h
    exact ⟨reply, rfl, haccepted, readFrom_eq_ok_iff.mp h⟩
  · rintro ⟨reply, rfl, haccepted, hread⟩
    rw [ofReply_of_not_refusal haccepted]
    exact readFrom_eq_ok_iff.mpr hread

/-! ### Applications -/

/-- What an application does behind the decoding of its manifest. -/
lemma apply_eq_of_desired {manifest : Manifest} {object : StoredObject}
    (hdesired : desired manifest = .ok object) :
    apply manifest = lookUp (collection manifest) manifest.name >>= fun existing =>
      ask StoredObject.ofDocument? (write manifest object existing) >>= fun stored =>
        Action.ofExcept (snapshot manifest.kind stored) := by
  unfold apply
  rw [hdesired]
  rfl

/-- An application writes what its look-up decides for, and its result is read from the answer. -/
lemma apply_yields_of_foundBy {manifest : Manifest} {object : StoredObject}
    {x y : Option ApiReply} {existing : Option StoredObject}
    (hdesired : desired manifest = .ok object)
    (hread : (ApiRequest.read (collection manifest) manifest.name).isSendable = true)
    (hwrite : (write manifest object existing).isSendable = true)
    (hfound : foundBy (.ofReply x) = .ok existing) :
    (apply manifest).Yields
      [⟨.read (collection manifest) manifest.name, x⟩, ⟨write manifest object existing, y⟩]
      (receivedBy StoredObject.ofDocument? (.ofReply y) >>= snapshot manifest.kind) := by
  rw [apply_eq_of_desired hdesired]
  refine Action.yields_bind_iff.mpr (.inr ⟨[_], [_], existing, rfl, ?_, ?_⟩)
  · exact lookUp_yields_iff.mpr (.inr ⟨hread, x, rfl, hfound.symm⟩)
  have hask : ∀ r, r = receivedBy StoredObject.ofDocument? (.ofReply y) →
      (ask StoredObject.ofDocument? (write manifest object existing)).Yields
        [⟨write manifest object existing, y⟩] r :=
    fun r hr => ask_yields_iff.mpr (.inr ⟨hwrite, y, rfl, hr⟩)
  cases hreceived : receivedBy StoredObject.ofDocument? (.ofReply y) with
  | error e => exact Action.yields_bind_iff.mpr (.inl ⟨e, hask _ hreceived.symm, rfl⟩)
  | ok stored =>
    refine Action.yields_bind_iff.mpr (.inr ⟨[_], [], stored, rfl, hask _ hreceived.symm, ?_⟩)
    exact Action.yields_ofExcept_iff.mpr ⟨rfl, rfl⟩

/-- A whole application of a manifest that describes an object: its exchanges and its result.  The
first request that fails ends it. -/
inductive AppliesWith (manifest : Manifest) (object : StoredObject) :
    List (Exchange apiServer) → Except Failure Snapshot → Prop where
  /-- The look-up cannot be sent. -/
  | unsent (unsendable : (ApiRequest.read (collection manifest) manifest.name).isSendable = false) :
      AppliesWith manifest object [] (.error unanswered)
  /-- The look-up fails. -/
  | unread {x : Option ApiReply} {code : Option Nat} {report : String}
      (sendable : (ApiRequest.read (collection manifest) manifest.name).isSendable = true)
      (failed : foundBy (.ofReply x) = .error (.apiServer code report)) :
      AppliesWith manifest object [⟨.read (collection manifest) manifest.name, x⟩]
        (.error (.apiServer code report))
  /-- The request that writes cannot be sent. -/
  | unwritten {x : Option ApiReply} {existing : Option StoredObject}
      (sendable : (ApiRequest.read (collection manifest) manifest.name).isSendable = true)
      (found : foundBy (.ofReply x) = .ok existing)
      (unsendable : (write manifest object existing).isSendable = false) :
      AppliesWith manifest object [⟨.read (collection manifest) manifest.name, x⟩]
        (.error unanswered)
  /-- The request that writes fails. -/
  | refused {x y : Option ApiReply} {existing : Option StoredObject} {code : Option Nat}
      {report : String}
      (sendable : (ApiRequest.read (collection manifest) manifest.name).isSendable = true)
      (found : foundBy (.ofReply x) = .ok existing)
      (sent : (write manifest object existing).isSendable = true)
      (failed : receivedBy StoredObject.ofDocument? (.ofReply y) =
        .error (.apiServer code report)) :
      AppliesWith manifest object
        [⟨.read (collection manifest) manifest.name, x⟩, ⟨write manifest object existing, y⟩]
        (.error (.apiServer code report))
  /-- The object is written, and the result is the snapshot of what was answered. -/
  | written {x y : Option ApiReply} {existing : Option StoredObject} {stored : StoredObject}
      (sendable : (ApiRequest.read (collection manifest) manifest.name).isSendable = true)
      (found : foundBy (.ofReply x) = .ok existing)
      (sent : (write manifest object existing).isSendable = true)
      (answered : receivedBy StoredObject.ofDocument? (.ofReply y) = .ok stored) :
      AppliesWith manifest object
        [⟨.read (collection manifest) manifest.name, x⟩, ⟨write manifest object existing, y⟩]
        (snapshot manifest.kind stored)

/-- The runs of an application of a manifest that can be decoded. -/
theorem apply_yields_iff {manifest : Manifest} {object : StoredObject}
    {r : Except Failure Snapshot} (hdesired : desired manifest = .ok object) :
    (apply manifest).Yields t r ↔ AppliesWith manifest object t r := by
  constructor
  · intro h
    rw [apply_eq_of_desired hdesired] at h
    -- What is found out decides what is written.
    obtain ⟨e, hfail, rfl⟩ | ⟨t₁, t₃, existing, rfl, hlook, hwriting⟩ :=
      Action.yields_bind_iff.mp h
    · obtain ⟨hsendable, rfl, hnothing⟩ | ⟨hsendable, x, rfl, hfound⟩ := lookUp_yields_iff.mp hfail
      · obtain rfl := Except.error.inj hnothing
        exact .unsent hsendable
      · obtain ⟨code, report, rfl⟩ := foundBy_eq_error hfound.symm
        exact .unread hsendable hfound.symm
    obtain ⟨-, -, hnothing⟩ | ⟨hsendable, x, rfl, hfound⟩ := lookUp_yields_iff.mp hlook
    · cases hnothing
    obtain ⟨e, hfail, rfl⟩ | ⟨t₁, t₃, stored, rfl, hask, hsnapshot⟩ :=
      Action.yields_bind_iff.mp hwriting
    · obtain ⟨hunsendable, rfl, hnothing⟩ | ⟨hsent, y, rfl, hreceived⟩ := ask_yields_iff.mp hfail
      · obtain rfl := Except.error.inj hnothing
        exact .unwritten hsendable hfound.symm hunsendable
      · obtain ⟨code, report, rfl⟩ := receivedBy_eq_error hreceived.symm
        exact .refused hsendable hfound.symm hsent hreceived.symm
    · obtain ⟨-, -, hnothing⟩ | ⟨hsent, y, rfl, hreceived⟩ := ask_yields_iff.mp hask
      · cases hnothing
      obtain ⟨rfl, rfl⟩ := Action.yields_ofExcept_iff.mp hsnapshot
      exact .written hsendable hfound.symm hsent hreceived.symm
  · intro h
    cases h with
    | unsent unsendable =>
      rw [apply_eq_of_desired hdesired]
      have hlook := lookUp_yields_iff.mpr (.inl ⟨unsendable, rfl, rfl⟩)
      exact Action.yields_bind_iff.mpr (.inl ⟨_, hlook, rfl⟩)
    | @unread x code report sendable failed =>
      rw [apply_eq_of_desired hdesired]
      have hlook := lookUp_yields_iff.mpr (.inr ⟨sendable, x, rfl, failed.symm⟩)
      exact Action.yields_bind_iff.mpr (.inl ⟨_, hlook, rfl⟩)
    | @unwritten x existing sendable found unsendable =>
      rw [apply_eq_of_desired hdesired]
      have hlook := lookUp_yields_iff.mpr (.inr ⟨sendable, x, rfl, found.symm⟩)
      have hask : (ask StoredObject.ofDocument? (write manifest object existing)).Yields []
          (.error unanswered) := ask_yields_iff.mpr (.inl ⟨unsendable, rfl, rfl⟩)
      refine Action.yields_bind_iff.mpr (.inr ⟨[_], [], existing, rfl, hlook, ?_⟩)
      exact Action.yields_bind_iff.mpr (.inl ⟨_, hask, rfl⟩)
    | @refused x y existing code report sendable found sent failed =>
      have happly := apply_yields_of_foundBy (y := y) hdesired sendable sent found
      rw [failed] at happly
      exact happly
    | @written x y existing stored sendable found sent answered =>
      have happly := apply_yields_of_foundBy (y := y) hdesired sendable sent found
      rw [answered] at happly
      exact happly

/-- The exchanges of an application of a manifest that describes an object, with its result as far
as it tells that nothing was written. -/
inductive ApplyRun (manifest : Manifest) (object : StoredObject) :
    List (Exchange apiServer) → Except Failure Snapshot → Prop where
  /-- Nothing could be sent. -/
  | unsent {code : Option Nat} {report : String} :
      ApplyRun manifest object [] (.error (.apiServer code report))
  /-- Nothing was found out, or the request that writes could not be sent. -/
  | unwritten {x : Option ApiReply} {code : Option Nat} {report : String} :
      ApplyRun manifest object [⟨.read (collection manifest) manifest.name, x⟩]
        (.error (.apiServer code report))
  /-- The request that writes was not accepted. -/
  | refused {x y : Option ApiReply} {existing : Option StoredObject} {code : Option Nat}
      {report : String}
      (found : foundBy (.ofReply x) = .ok existing) (refused : ¬ IsAccepted y) :
      ApplyRun manifest object
        [⟨.read (collection manifest) manifest.name, x⟩, ⟨write manifest object existing, y⟩]
        (.error (.apiServer code report))
  /-- The request that writes was accepted, and the result is read from what came back. -/
  | written {x : Option ApiReply} {answer : ApiReply} {existing : Option StoredObject}
      {r : Except Failure Snapshot} (found : foundBy (.ofReply x) = .ok existing)
      (accepted : answer.isRefusal = false) :
      ApplyRun manifest object
        [⟨.read (collection manifest) manifest.name, x⟩,
          ⟨write manifest object existing, some answer⟩] r

/-- Every run of an application of a manifest that can be decoded is one of these. -/
theorem applyRun_of_yields {manifest : Manifest} {object : StoredObject}
    {r : Except Failure Snapshot} (hdesired : desired manifest = .ok object)
    (h : (apply manifest).Yields t r) : ApplyRun manifest object t r := by
  cases (apply_yields_iff hdesired).mp h with
  | unsent => exact .unsent
  | unread | unwritten => exact .unwritten
  | @refused x y existing code report _ found _ failed =>
    by_cases hy : IsAccepted y
    · obtain ⟨answer, rfl, haccepted⟩ := hy
      exact .written found haccepted
    · exact .refused found hy
  | written _ found _ answered =>
    obtain ⟨answer, rfl, haccepted⟩ := isAccepted_of_receivedBy answered
    exact .written found haccepted

end ApiServer

end BrokerHarness
