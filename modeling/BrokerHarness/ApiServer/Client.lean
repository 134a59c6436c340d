import BrokerHarness.ApiServer.StoredObject
import BrokerHarness.ControlPlane
import BrokerHarness.Json.Printer

/-!
# The control plane through the API server

The requests to the control plane, carried out by requests to the API server. Applying an object
reads it first: an object that exists is replaced at the version that was read, so that a write in
between makes the replacement fail instead of being lost, and an object that does not exist is
created. No request is sent for a body that is no object.

A failure of the API server carries the code and the report of a refusal, or the text of an answer
that cannot be read.
-/

namespace BrokerHarness.ApiServer

/-- What came back for a request. -/
inductive Reception where
  /-- The server did what was asked, and answered a text. -/
  | accepted (text : String)
  /-- The server refused the request. -/
  | refused (refusal : Refusal)
  /-- No reply came, or the request was not sent. -/
  | nothing
deriving DecidableEq, Repr

/-- What a reply means. -/
def Reception.ofReply : Option ApiReply → Reception
  | none => nothing
  | some reply => if reply.isRefusal then refused (.ofReply reply) else accepted reply.text

/-- Sends a request, unless it cannot be sent. -/
def send (request : ApiRequest) : Program apiServer Reception :=
  if request.isSendable then (Program.request (I := apiServer) request).bind fun reply =>
    .done (.ofReply reply)
  else .done .nothing

/-- The failure of an answer that cannot be read. -/
def unreadable (text : String) : Failure := .apiServer none ("unreadable answer: " ++ text)

/-- The failure of a request that no reply came for, or that was not sent. -/
def unanswered : Failure := .apiServer none "no answer"

/-- Reads what the server answered to an accepted request. -/
def answered {α : Type} (read : Json.Document → Option α) (text : String) : Action apiServer α :=
  Action.ofOption (unreadable text) ((Json.Document.parse? text).bind read)

/-- Sends a request that is not to be refused, and reads the answer. -/
def ask {α : Type} (read : Json.Document → Option α) (request : ApiRequest) :
    Action apiServer α := do
  match ← (send request : Program apiServer Reception) with
  | .accepted text => answered read text
  | .refused refusal => throw refusal.failure
  | .nothing => throw unanswered

/-- Reads an object, unless the server tells that it is not there. -/
def lookUp (objects : Collection) (name : String) : Action apiServer (Option StoredObject) := do
  match ← (send (.read objects name) : Program apiServer Reception) with
  | .accepted text => some <$> answered StoredObject.ofDocument? text
  | .refused refusal => if refusal.isAbsence then return none else throw refusal.failure
  | .nothing => throw unanswered

/-- The snapshot of an object under a kind. -/
def snapshot (kind : ObjectKind) (object : StoredObject) : Except Failure Snapshot :=
  Snapshot.ofBody kind object.toJson

/-- The collection that a manifest's object belongs to. -/
def collection (manifest : Manifest) : Collection := ⟨manifest.kind, manifest.scope⟩

/-- The object that a manifest describes, for a first writing. -/
def desired (manifest : Manifest) : Except Failure StoredObject :=
  match StoredObject.ofJson? manifest.body with
  | some object => .ok (object.atVersion none)
  | none => .error (.malformed manifest.body.render)

/-- The request that writes an object, depending on what was found under its name. -/
def write (manifest : Manifest) (object : StoredObject) : Option StoredObject → ApiRequest
  | some existing =>
    .replace (collection manifest) manifest.name
      (object.atVersion existing.metadata.resourceVersion).toJson
  | none => .create (collection manifest) object.toJson

/-- Creates the object of a manifest, or replaces it as a whole. -/
def apply (manifest : Manifest) : Action apiServer Snapshot := do
  let object ← Action.ofExcept (desired manifest)
  let existing ← lookUp (collection manifest) manifest.name
  let stored ← ask StoredObject.ofDocument? (write manifest object existing)
  Action.ofExcept (snapshot manifest.kind stored)

/-- Asks for the deletion of an object. A refusal with the code 404 says that it is not there. -/
def delete (target : ObjectAddress) : Action apiServer Unit := do
  let request := ApiRequest.delete ⟨target.kind, target.scope⟩ target.name
  match ← (send request : Program apiServer Reception) with
  | .accepted text =>
    answered (StatusObject.formOf StoredObject.isDeletionAnswer) text
  | .refused refusal =>
    if refusal.code = 404 then
      throw (.notFound target.kind.name (target.scope.getD "") target.name)
    else throw refusal.failure
  | .nothing => throw unanswered

/-- Looks an object up by its name. -/
def get (kind : ObjectKind) (ns name : String) : Action apiServer (Option Snapshot) := do
  match ← lookUp ⟨kind, some ns⟩ name with
  | some object => some <$> Action.ofExcept (snapshot kind object)
  | none => return none

/-- Lists the objects whose names start with `stem`. -/
def list (kind : ObjectKind) (ns stem : String) : Action apiServer (List Snapshot) := do
  let objects ← ask StoredObject.list? (.list ⟨kind, some ns⟩)
  Action.ofExcept ((objects.filter (StoredObject.isNamedFrom stem)).mapM (snapshot kind))

/-- Carries out a request to the control plane. -/
def serve : (request : ControlPlaneRequest) → Program apiServer request.Answer
  | .apply manifest => (apply manifest).run
  | .delete target => (delete target).run
  | .get kind ns name => (get kind ns name).run
  | .list kind ns stem => (list kind ns stem).run

end BrokerHarness.ApiServer
