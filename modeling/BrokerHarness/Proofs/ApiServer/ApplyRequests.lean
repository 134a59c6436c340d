import BrokerHarness.Proofs.ApiServer.Apply

/-!
# What an application sends

An application sends a look-up and then at most one request that writes.  The object that it writes
is the one that the manifest describes, but never at the version that the manifest carries: a
replacement is at the version that the look-up returned, a creation is at none.
`StoredObject.IsDescribedAt` says that a body differs from a description in nothing but the version,
and `StoredObject.isDescribedAt_toJson` that this holds for what is written.

The address of a request is put together from texts that are not encoded.  So a name alone can keep
a request from being sent, and then the application ends as if the request had failed.
-/

namespace BrokerHarness

/-! ### Descriptions at a version -/

/-- Only the version of the metadata depends on the version. -/
lemma ObjectMetadata.get?_withVersion_of_ne {key : String} (h : key ≠ "resourceVersion")
    (m : ObjectMetadata) (version : Option String) :
    { m with resourceVersion := version }.toJson.get? key = m.toJson.get? key := by
  unfold toJson
  simp [Json.get?_ofPresent, Json.written, Ne.symm h]

namespace StoredObject

/-- The body is that of the described object at the version, and nothing else of it differs. -/
structure IsDescribedAt (described : StoredObject) (version : Option String) (body : Json) :
    Prop where
  version : body.at? ["metadata", "resourceVersion"] = version.map .string
  metadata : ∀ key, key ≠ "resourceVersion" →
    body.at? ["metadata", key] = described.toJson.at? ["metadata", key]
  others : ∀ key, key ≠ "metadata" → body.get? key = described.toJson.get? key

/-- What is written of the metadata stands below one key. -/
lemma at?_metadata (object : StoredObject) (key : String) :
    object.toJson.at? ["metadata", key] = object.metadata.toJson.get? key := by
  simp [Json.at?, get?_metadata]

/-- Every other field is written as it was read. -/
lemma get?_of_ne (object : StoredObject) {key : String} (h : key ≠ "metadata") :
    object.toJson.get? key = Json.lookup key object.rest :=
  Json.lookup_insertField_of_ne h _ _

/-- What is written of an object at a version is described by it, whatever version it was at. -/
lemma isDescribedAt_toJson (object : StoredObject) (version : Option String) :
    object.IsDescribedAt version (object.atVersion version).toJson where
  version := (at?_metadata _ _).trans ObjectMetadata.get?_resourceVersion
  metadata := by
    intro key hkey
    rw [at?_metadata, at?_metadata]
    exact ObjectMetadata.get?_withVersion_of_ne hkey _ _
  others := by
    intro key hkey
    rw [get?_of_ne _ hkey, get?_of_ne _ hkey]
    rfl

end StoredObject

namespace ApiServer

/-! ### The requests of an application -/

/-- How a manifest is applied that describes an object. -/
structure AppliesDescription (manifest : Manifest) (described : StoredObject) : Prop where
  /-- An application looks up and then writes, until a request fails or cannot be sent. -/
  runs : ∀ t r, (apply manifest).Yields t r ↔ AppliesWith manifest (described.atVersion none) t r
  /-- The look-up finds the object that the server shows. -/
  shown : ∀ x existing, foundBy (.ofReply x) = .ok (some existing) ↔
    ∃ reply, x = some reply ∧ reply.Shows existing
  /-- The look-up finds nothing if the server says that the object is absent. -/
  absent : ∀ x, foundBy (.ofReply x) = .ok none ↔ ∃ reply, x = some reply ∧ reply.SaysAbsent
  /-- The request that writes is answered with the object that the server shows. -/
  answered : ∀ y stored, receivedBy StoredObject.ofDocument? (.ofReply y) = .ok stored ↔
    ∃ reply, y = some reply ∧ reply.Shows stored
  /-- An object that is found is replaced at the version that was found. -/
  replaces : ∀ existing, ∃ body, write manifest (described.atVersion none) (some existing) =
      .replace (collection manifest) manifest.name body ∧
    described.IsDescribedAt existing.metadata.resourceVersion body
  /-- An object that is absent is created without a version. -/
  creates : ∃ body, write manifest (described.atVersion none) none =
      .create (collection manifest) body ∧ described.IsDescribedAt none body

/-- A manifest that describes an object is applied as the description asks for. -/
lemma appliesDescription {manifest : Manifest} {described : StoredObject}
    (h : StoredObject.ofJson? manifest.body = some described) :
    AppliesDescription manifest described where
  runs t r := by
    refine apply_yields_iff ?_
    unfold desired
    rw [h]
  shown _ _ := foundBy_eq_some_iff
  absent _ := foundBy_eq_none_iff
  answered _ _ := receivedBy_eq_ok_iff
  replaces _ := ⟨_, rfl, described.isDescribedAt_toJson _⟩
  creates := ⟨_, rfl, described.isDescribedAt_toJson none⟩

/-- A manifest that describes no object is not applied. -/
lemma apply_yields_iff_of_malformed {manifest : Manifest} {t : List (Exchange apiServer)}
    {r : Except Failure Snapshot} (h : StoredObject.ofJson? manifest.body = none) :
    (apply manifest).Yields t r ↔ t = [] ∧ r = .error (.malformed manifest.body.render) := by
  have happly : apply manifest = throw (.malformed manifest.body.render) := by
    unfold apply desired
    rw [h]
    rfl
  rw [happly]
  exact Action.yields_throw_iff

/-- An application comes to an end, whatever the server answers.  It sends nothing for a body that
describes no object.  Otherwise it looks up the object of the manifest, and writes once: it replaces
what is there at the version that is there, or creates what is not there without a version.  The
first request that fails or cannot be sent ends it. -/
theorem application_requests (manifest : Manifest) :
    (∀ (σ : Type) (answer : ApiRequest → σ → Option ApiReply × σ) (s : σ), ∃ t r,
      (apply manifest).Yields t r ∧ Program.Answered (I := apiServer) answer s t) ∧
    (StoredObject.ofJson? manifest.body = none →
      ∀ t r, (apply manifest).Yields t r ↔
        t = [] ∧ r = .error (.malformed manifest.body.render)) ∧
    ∀ described, StoredObject.ofJson? manifest.body = some described →
      AppliesDescription manifest described := by
  exact ⟨fun _ answer s => (apply manifest).exists_yields answer s,
    fun h _ _ => apply_yields_iff_of_malformed h, fun _ => appliesDescription⟩

/-! ### A manifest that was saved with a version -/

namespace Saved

def objects : Collection := ⟨.broker, some "test"⟩

def object (version : String) : StoredObject :=
  { metadata := { name := some "broker", resourceVersion := some version }, rest := [] }

/-- A manifest of what was stored once, with the version that it had then. -/
def manifest : Manifest := ⟨.broker, some "test", "broker", (object "7").toJson⟩

/-- A manifest without metadata that can be read. -/
def damaged : Manifest :=
  ⟨.broker, some "test", "broker", .ofFields [("metadata", .string "broker")]⟩

/-- The object at a version, as the server shows it. -/
def shown (version : String) : ApiReply where
  status := 200
  text := "\x7b\"metadata\":\x7b\"name\":\"broker\",\"resourceVersion\":\"" ++ version ++
    "\"\x7d\x7d"

lemma shows_found : (shown "41").Shows (object "41") := ⟨rfl, by decide +kernel⟩

lemma shows_written : (shown "42").Shows (object "42") := ⟨rfl, by decide +kernel⟩

end Saved

open Saved in
/-- What was saved is written at the version that is there, and nothing is sent for the manifest
that is damaged. -/
theorem application_replaces_saved_at_current_version :
    (∃ body, (object "7").IsDescribedAt (some "41") body ∧ (apply manifest).Yields
        [⟨.read objects "broker", some (shown "41")⟩,
          ⟨.replace objects "broker" body, some (shown "42")⟩]
        (snapshot .broker (object "42"))) ∧
      (apply damaged).Yields [] (.error (.malformed damaged.body.render)) := by
  obtain ⟨-, -, hdescribed⟩ := application_requests manifest
  obtain ⟨-, hmalformed, -⟩ := application_requests damaged
  have happlies := hdescribed (object "7") (by decide +kernel)
  obtain ⟨body, hbody, hversion⟩ := happlies.replaces (object "41")
  have hsent : (ApiRequest.replace objects "broker" .null).isSendable = true := by
    decide +kernel
  have hrun : AppliesWith manifest ((object "7").atVersion none)
      [⟨.read objects "broker", some (shown "41")⟩,
        ⟨write manifest ((object "7").atVersion none) (some (object "41")), some (shown "42")⟩]
      (snapshot .broker (object "42")) :=
    .written (by decide +kernel) ((happlies.shown _ _).mpr ⟨_, rfl, shows_found⟩) hsent
      ((happlies.answered _ _).mpr ⟨_, rfl, shows_written⟩)
  rw [hbody] at hrun
  exact ⟨⟨body, hversion, (happlies.runs _ _).mpr hrun⟩,
    (hmalformed (by decide +kernel) _ _).mpr ⟨rfl, rfl⟩⟩

/-! ### A name that no target can hold -/

namespace BlankName

/-- The body of an object whose name has a blank. -/
def body : Json := .ofFields [("apiVersion", .string "v1"), ("kind", .string "ConfigMap"),
  ("metadata", .ofFields [("name", .string "a b"), ("namespace", .string "test")])]

def manifest : Manifest := ⟨.ofApiVersion "v1" "ConfigMap", some "test", "a b", body⟩

end BlankName

open BlankName in
/-- Nothing is sent for a name with a blank, although the manifest describes an object. -/
theorem application_sends_nothing_for_blank_name :
    Manifest.ofBody body = .ok manifest ∧ (StoredObject.ofJson? manifest.body).isSome = true ∧
      ∀ t r, (apply manifest).Yields t r ↔ t = [] ∧ r = .error unanswered := by
  have hdescribed : (StoredObject.ofJson? manifest.body).isSome = true := by
    decide +kernel
  have hunsendable : (ApiRequest.read (collection manifest) manifest.name).isSendable = false := by
    decide +kernel
  refine ⟨by decide +kernel, hdescribed, fun t r => ?_⟩
  obtain ⟨described, h⟩ := Option.isSome_iff_exists.mp hdescribed
  rw [(appliesDescription h).runs]
  constructor
  · intro hrun
    cases hrun with
    | unsent => exact ⟨rfl, rfl⟩
    | unread sendable | unwritten sendable | refused sendable | written sendable =>
      rw [hunsendable] at sendable
      cases sendable
  · rintro ⟨rfl, rfl⟩
    exact .unsent hunsendable

end ApiServer

end BrokerHarness
