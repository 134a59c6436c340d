import BrokerHarness.CustomResource.Metadata
import BrokerHarness.Object.Manifest
import BrokerHarness.Proofs.Json.Record

/-!
# The manifest of a written object

The address of a manifest is read from the body.  For a body that is written under typed metadata it
is the name and the namespace of the metadata; a name that is missing or empty is the only reason to
refuse such a body (`Manifest.ofBody_eq_ok`, `Manifest.ofBody_eq_error`).
-/

namespace BrokerHarness

/-! ### Texts in bodies -/

namespace Json

variable {path : List String} {body inner : Json} {outer key text : String}

/-- A text is found behind a key and a key. -/
lemma stringAt?_pair {text : Option String} (houter : body.get? outer = some inner)
    (hinner : inner.get? key = text.map string) : body.stringAt? [outer, key] = text := by
  unfold stringAt?
  simp only [at?, houter, Option.bind_some, hinner]
  cases text with
  | none => rfl
  | some text => rfl

/-- A path of one key is this key. -/
lemma stringAt?_singleton (h : body.get? key = some (.string text)) :
    body.stringAt? [key] = some text := by
  unfold stringAt?
  simp only [at?, h, Option.bind_some, string?]

/-- A text that is not empty is found. -/
lemma nonEmptyAt_eq_ok (h : body.stringAt? path = some text) (htext : text ≠ "") :
    body.nonEmptyAt path = .ok text := by
  unfold nonEmptyAt
  rw [h]
  simp [htext]

/-- Only a text that is not empty is found. -/
lemma nonEmptyAt_eq_ok_iff :
    body.nonEmptyAt path = .ok text ↔ body.stringAt? path = some text ∧ text ≠ "" := by
  constructor
  · intro h
    unfold nonEmptyAt at h
    cases hfound : body.stringAt? path with
    | none => simp [hfound] at h
    | some found =>
      by_cases hempty : found = ""
      · simp [hfound, hempty] at h
      · have htext : found = text := by simpa [hfound, hempty] using h
        exact ⟨congrArg some htext, htext ▸ hempty⟩
  · rintro ⟨htext, hne⟩
    exact nonEmptyAt_eq_ok htext hne

/-- A text that is missing or empty is reported with its path. -/
lemma nonEmptyAt_eq_error (h : (body.stringAt? path).getD "" = "") :
    body.nonEmptyAt path = .error (.badManifest (.missing path)) := by
  unfold nonEmptyAt
  cases htext : body.stringAt? path with
  | none => rfl
  | some text =>
    rw [htext, Option.getD_some] at h
    simp [h]

end Json

/-! ### Metadata -/

namespace ObjectMetadata

variable {m : ObjectMetadata} {body : Json}

/-- What is written of metadata has its name. -/
lemma get?_name : m.toJson.get? "name" = m.name.map Json.string := by
  unfold toJson
  rw [Json.get?_ofPresent]
  simp [Json.written]

/-- What is written of metadata has its namespace. -/
lemma get?_namespace : m.toJson.get? "namespace" = m.ns.map Json.string := by
  unfold toJson
  rw [Json.get?_ofPresent]
  simp [Json.written]

/-- What is written of metadata has its version. -/
lemma get?_resourceVersion :
    m.toJson.get? "resourceVersion" = m.resourceVersion.map Json.string := by
  unfold toJson
  rw [Json.get?_ofPresent]
  simp [Json.written]

end ObjectMetadata

/-! ### Manifests -/

/-- The body says of which kind it is, and under which metadata it stands. -/
structure Json.IsObjectOf (apiVersion kind : String) (m : ObjectMetadata) (body : Json) : Prop where
  apiVersion : body.get? "apiVersion" = some (.string apiVersion)
  kind : body.get? "kind" = some (.string kind)
  metadata : body.get? "metadata" = some m.toJson

namespace Manifest

variable {apiVersion kind name : String} {m : ObjectMetadata} {body : Json}

/-- A body under metadata with a name is that of a manifest. -/
lemma ofBody_eq_ok (h : body.IsObjectOf apiVersion kind m) (hversion : apiVersion ≠ "")
    (hkind : kind ≠ "") (hname : m.name = some name) (hne : name ≠ "") :
    ofBody body = .ok ⟨.ofApiVersion apiVersion kind, m.ns, name, body⟩ := by
  have hnameAt : body.stringAt? ["metadata", "name"] = some name := by
    rw [Json.stringAt?_pair h.metadata ObjectMetadata.get?_name, hname]
  have hscope : body.stringAt? namespacePath = m.ns :=
    Json.stringAt?_pair h.metadata ObjectMetadata.get?_namespace
  unfold ofBody
  rw [Json.nonEmptyAt_eq_ok (Json.stringAt?_singleton h.apiVersion) hversion,
    Json.nonEmptyAt_eq_ok (Json.stringAt?_singleton h.kind) hkind,
    Json.nonEmptyAt_eq_ok hnameAt hne, hscope]
  rfl

/-- A body under metadata without a name is refused. -/
lemma ofBody_eq_error (h : body.IsObjectOf apiVersion kind m) (hversion : apiVersion ≠ "")
    (hkind : kind ≠ "") (hname : m.name.getD "" = "") :
    ofBody body = .error (.badManifest (.missing ["metadata", "name"])) := by
  have hnameAt : (body.stringAt? ["metadata", "name"]).getD "" = "" := by
    rw [Json.stringAt?_pair h.metadata ObjectMetadata.get?_name, hname]
  unfold ofBody
  rw [Json.nonEmptyAt_eq_ok (Json.stringAt?_singleton h.apiVersion) hversion,
    Json.nonEmptyAt_eq_ok (Json.stringAt?_singleton h.kind) hkind, Json.nonEmptyAt_eq_error hnameAt]
  rfl

end Manifest

end BrokerHarness
