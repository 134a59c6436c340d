import BrokerHarness.ApiServer.Target
import BrokerHarness.Json.Basic
import BrokerHarness.Object.Kind
import BrokerHarness.Program

/-!
# Requests to the API server

The API server keeps the objects of a kind in *collections*, one for each namespace, or a single one
for a kind of the whole cluster. A request is about a collection or about one object of it, and has
the form of a method, an address, a query and perhaps a body.

The transport carries a request to the server and brings its reply, or brings none. Why it brings
none is left out.
-/

namespace BrokerHarness

/-- The objects of one kind in one namespace, or in the whole cluster. -/
structure Collection where
  kind : ObjectKind
  scope : Option String
deriving DecidableEq, Repr

/-- The address of a collection: the API of the kind, the namespace, the plural. -/
def Collection.path (objects : Collection) : String :=
  (if objects.kind.group.isEmpty then "/api/" else "/apis/") ++ objects.kind.apiVersion ++
    (match objects.scope with
      | some ns => "/namespaces/" ++ ns
      | none => "") ++
    "/" ++ objects.kind.plural

/-- A request to the API server. -/
inductive ApiRequest where
  /-- Reads an object. -/
  | read (objects : Collection) (name : String)
  /-- Reads the whole collection. -/
  | list (objects : Collection)
  /-- Adds an object, which must not exist. -/
  | create (objects : Collection) (body : Json)
  /-- Replaces an object, which must exist. -/
  | replace (objects : Collection) (name : String) (body : Json)
  /-- Deletes an object. -/
  | delete (objects : Collection) (name : String)

/-- The method of a request. -/
inductive ApiMethod where
  /-- Reads. -/
  | get
  /-- Adds. -/
  | post
  /-- Replaces. -/
  | put
  /-- Deletes. -/
  | delete
deriving DecidableEq, Repr

/-- The written form of a method. -/
def ApiMethod.text : ApiMethod → String
  | get => "GET"
  | post => "POST"
  | put => "PUT"
  | delete => "DELETE"

namespace ApiRequest

/-- The method of a request. -/
def method : ApiRequest → ApiMethod
  | read .. | list _ => .get
  | create .. => .post
  | replace .. => .put
  | delete .. => .delete

/-- The collection that a request is about. -/
def objects : ApiRequest → Collection
  | read objects _ | list objects | create objects _ | replace objects _ _ | delete objects _ =>
    objects

/-- The object that a request is about, if it is about one by name. -/
def name? : ApiRequest → Option String
  | read _ name | replace _ name _ | delete _ name => some name
  | list _ | create .. => none

/-- The address of the object or the collection that a request is about. -/
def address (request : ApiRequest) : String :=
  request.objects.path ++
    match request.name? with
    | some name => "/" ++ name
    | none => ""

/-- The name under which the library writes. -/
def fieldManager : String := "broker-operator-testkit"

/-- What the text of a target has behind the address: a write tells who writes. -/
def query : ApiRequest → String
  | read .. => ""
  | list _ | delete .. => "?"
  | create .. | replace .. => "?&fieldManager=" ++ fieldManager

/-- The target of a request, if a target can hold its address. -/
def target? (request : ApiRequest) : Option Target :=
  Target.ofText? (request.address ++ request.query)

/-- The body of a request. A deletion asks that dependent objects are deleted behind the object. -/
def body : ApiRequest → Option Json
  | create _ body | replace _ _ body => some body
  | delete .. => some (.ofFields [("propagationPolicy", .string "Background")])
  | read .. | list _ => none

/-- Whether a request can be sent: a name that it has is not empty, and it has a target. -/
def isSendable (request : ApiRequest) : Bool :=
  request.name? ≠ some "" && request.target?.isSome

end ApiRequest

/-- What the API server answers a request: a status and a text. -/
structure ApiReply where
  status : Nat
  text : String
deriving DecidableEq, Repr

/-- The transport to an API server, which may bring no reply. -/
def apiServer : Interface := ⟨ApiRequest, fun _ => Option ApiReply⟩

end BrokerHarness
