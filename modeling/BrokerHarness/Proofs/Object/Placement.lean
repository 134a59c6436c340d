import BrokerHarness.Proofs.Json.Frame
import BrokerHarness.Proofs.Object.Manifest
import Mathlib.Data.List.Induction

/-!
# Manifests under another kind and in another namespace

The address of a manifest is told twice: by its fields, which the path of a request is made of, and
by its body, which is what the request sends.  `Manifest.IsAddressedByBody` says that the two agree.
A manifest that was read from a body is addressed by it, and remains so however often it is put
under another kind and moved to another namespace (`Manifest.address_kept_by_changes`).

The two kinds of changes are independent of each other, and of several changes of one kind only the
last counts.  So a sequence of changes has the normal form `Manifest.settledAs`, by which it is
compared with every other sequence.
-/

namespace BrokerHarness

namespace Json

/-- What the metadata of a body say under a key. -/
lemma stringAt?_metadata (key : String) (body : Json) :
    body.stringAt? ["metadata", key] =
      ((body.get? "metadata").bind fun metadata => metadata.get? key).bind string? := by
  unfold stringAt?
  rw [at?_pair]

lemma stringAt?_eq_some_iff {path : List String} {body : Json} {text : String} :
    body.stringAt? path = some text ↔ body.at? path = some (.string text) := by
  unfold stringAt?
  cases body.at? path with
  | none => simp
  | some value => cases value <;> simp [string?]

end Json

namespace Manifest

variable {manifest : Manifest} {body : Json}

/-! ### The address that a body tells -/

/-- The name and the namespace of the manifest are those in the metadata of its body. -/
structure IsAddressedByBody (manifest : Manifest) : Prop where
  name : manifest.body.stringAt? ["metadata", "name"] = some manifest.name
  scope : manifest.body.stringAt? ["metadata", "namespace"] = manifest.scope

/-- A body is that of a manifest exactly if it tells an API version, a kind and a name, none of them
empty. -/
lemma ofBody_eq_ok_iff :
    ofBody body = .ok manifest ↔
      ∃ apiVersion kind name, body.nonEmptyAt ["apiVersion"] = .ok apiVersion ∧
        body.nonEmptyAt ["kind"] = .ok kind ∧ body.nonEmptyAt ["metadata", "name"] = .ok name ∧
        manifest = ⟨.ofApiVersion apiVersion kind, body.stringAt? namespacePath, name, body⟩ := by
  unfold ofBody
  constructor
  · intro h
    cases hversion : body.nonEmptyAt ["apiVersion"] with
    | error e => simp [hversion, bind, Except.bind] at h
    | ok apiVersion =>
      cases hkind : body.nonEmptyAt ["kind"] with
      | error e => simp [hversion, hkind, bind, Except.bind] at h
      | ok kind =>
        cases hname : body.nonEmptyAt ["metadata", "name"] with
        | error e => simp [hversion, hkind, hname, bind, Except.bind] at h
        | ok name =>
          simp only [hversion, hkind, hname, bind, Except.bind, pure, Except.pure,
            Except.ok.injEq] at h
          exact ⟨apiVersion, kind, name, rfl, rfl, rfl, h.symm⟩
  · rintro ⟨apiVersion, kind, name, hversion, hkind, hname, rfl⟩
    rw [hversion, hkind, hname]
    rfl

/-- A manifest that is read from a body has this body and is addressed by it. -/
lemma isAddressedByBody_of_ofBody (h : ofBody body = .ok manifest) :
    manifest.body = body ∧ manifest.IsAddressedByBody := by
  obtain ⟨apiVersion, kind, name, -, -, hname, rfl⟩ := ofBody_eq_ok_iff.mp h
  exact ⟨rfl, (Json.nonEmptyAt_eq_ok_iff.mp hname).1, rfl⟩

/-- A body that tells a name has an object for its metadata. -/
lemma IsAddressedByBody.exists_metadata (h : manifest.IsAddressedByBody) :
    ∃ fields, manifest.body.get? "metadata" = some (.object fields) := by
  have hname := h.name
  rw [Json.stringAt?_metadata] at hname
  obtain ⟨value, hvalue, -⟩ := Option.bind_eq_some_iff.mp hname
  obtain ⟨metadata, hmetadata, hmember⟩ := Option.bind_eq_some_iff.mp hvalue
  obtain ⟨fields, rfl⟩ := Json.exists_fields_of_get? hmember
  exact ⟨fields, hmetadata⟩

/-- A manifest has no namespace exactly if its metadata has no text in that place. -/
lemma IsAddressedByBody.scope_eq_none_iff (h : manifest.IsAddressedByBody) :
    manifest.scope = none ↔
      ∀ ns, manifest.body.at? ["metadata", "namespace"] ≠ some (.string ns) := by
  simp only [← h.scope, ne_eq, ← Json.stringAt?_eq_some_iff]
  exact Option.eq_none_iff_forall_ne_some

/-! ### One change -/

lemma get?_metadata_movedTo (manifest : Manifest) (ns : String) :
    (manifest.movedTo ns).body.get? "metadata" =
      (manifest.body.get? "metadata").map (·.insert "namespace" (.string ns)) :=
  Json.get?_modify_self

/-- A manifest that is moved on is in its last namespace only. -/
lemma movedTo_movedTo (manifest : Manifest) (ns ns' : String) :
    (manifest.movedTo ns).movedTo ns' = manifest.movedTo ns' := by
  have hbody : ((manifest.movedTo ns).movedTo ns').body = (manifest.movedTo ns').body :=
    Json.modify_modify.trans (Json.modify_congr fun _ _ => Json.insert_insert)
  exact congrArg (Manifest.mk manifest.kind (some ns') manifest.name) hbody

/-- A move changes nothing of the body but the namespace of its metadata. -/
lemma movedTo_differsOnlyAt (manifest : Manifest) (ns : String) :
    Json.DiffersOnlyAt {Json.memberPath ["metadata", "namespace"]} manifest.body
      (manifest.movedTo ns).body := by
  have hmetadata := Json.differsOnlyAt_modify manifest.body "metadata"
    (Set.singleton_nonempty [.member "namespace"]) fun metadata _ =>
      Json.differsOnlyAt_insert metadata "namespace" (.string ns)
  refine hmetadata.mono ?_
  rintro place ⟨_, rfl, rfl⟩
  rfl

/-- A move puts the same namespace into the address and into the body. -/
lemma IsAddressedByBody.movedTo (h : manifest.IsAddressedByBody) (ns : String) :
    (manifest.movedTo ns).IsAddressedByBody := by
  obtain ⟨fields, hmetadata⟩ := h.exists_metadata
  have hmoved : (manifest.movedTo ns).body.get? "metadata" =
      some ((Json.object fields).insert "namespace" (.string ns)) := by
    rw [get?_metadata_movedTo, hmetadata]
    rfl
  constructor
  · have hname := h.name
    rw [Json.stringAt?_metadata, hmetadata] at hname
    rw [Json.stringAt?_metadata, hmoved, Option.bind_some,
      Json.get?_insert_of_ne (by decide)]
    exact hname
  · rw [Json.stringAt?_metadata, hmoved, Option.bind_some, Json.get?_insert_self]
    rfl

/-- The kind is no part of the body. -/
lemma IsAddressedByBody.asKind (h : manifest.IsAddressedByBody) (kind : ObjectKind) :
    (manifest.asKind kind).IsAddressedByBody :=
  ⟨h.name, h.scope⟩

/-! ### Sequences of changes -/

/-- A change of where the object of a manifest is addressed. -/
inductive Change where
  /-- It is put under another kind. -/
  | asKind (kind : ObjectKind)
  /-- It is moved to a namespace. -/
  | movedTo (ns : String)

namespace Change

/-- The manifest with the change made. -/
def apply : Change → Manifest → Manifest
  | asKind kind, manifest => manifest.asKind kind
  | movedTo ns, manifest => manifest.movedTo ns

def kind? : Change → Option ObjectKind
  | asKind kind => some kind
  | movedTo _ => none

def namespace? : Change → Option String
  | asKind _ => none
  | movedTo ns => some ns

/-- The kind of the last change to another kind. -/
def lastKind? (changes : List Change) : Option ObjectKind := (changes.filterMap kind?).getLast?

/-- The namespace of the last move. -/
def lastNamespace? (changes : List Change) : Option String :=
  (changes.filterMap namespace?).getLast?

end Change

/-- The manifest with the changes made, one after the other. -/
def changed (manifest : Manifest) (changes : List Change) : Manifest :=
  changes.foldl (fun current change => change.apply current) manifest

/-- The manifest under a kind and in a namespace, or as it is where none is given. -/
def settledAs (manifest : Manifest) (kind : Option ObjectKind) (ns : Option String) : Manifest :=
  let named := kind.elim manifest manifest.asKind
  ns.elim named named.movedTo

/-- The kind and the namespace that are given are those of the address. -/
lemma address_settledAs (manifest : Manifest) (kind : Option ObjectKind) (ns : Option String) :
    (manifest.settledAs kind ns).address =
      ⟨kind.getD manifest.kind, ns.or manifest.scope, manifest.name⟩ := by
  cases kind <;> cases ns <;> rfl

/-- Another kind replaces the one that was given. -/
lemma asKind_settledAs (manifest : Manifest) (kind : Option ObjectKind) (ns : Option String)
    (last : ObjectKind) :
    (manifest.settledAs kind ns).asKind last = manifest.settledAs (some last) ns := by
  cases kind <;> cases ns <;> rfl

/-- Another namespace replaces the one that was given. -/
lemma movedTo_settledAs (manifest : Manifest) (kind : Option ObjectKind) (ns : Option String)
    (last : String) :
    (manifest.settledAs kind ns).movedTo last = manifest.settledAs kind (some last) := by
  cases ns with
  | none => rfl
  | some ns => exact movedTo_movedTo _ ns last

/-- The last change is made to what the others leave. -/
lemma changed_concat (manifest : Manifest) (changes : List Change) (last : Change) :
    manifest.changed (changes ++ [last]) = last.apply (manifest.changed changes) :=
  List.foldl_append

/-- Of the changes of each kind only the last counts. -/
theorem changed_eq_settledAs (manifest : Manifest) (changes : List Change) :
    manifest.changed changes =
      manifest.settledAs (Change.lastKind? changes) (Change.lastNamespace? changes) := by
  -- The last change is the one that counts, so the induction adds changes at the end.
  induction changes using List.reverseRecOn with
  | nil => rfl
  | append_singleton changes last ih =>
    rw [changed_concat, ih]
    cases last with
    | asKind kind =>
      have hkind : Change.lastKind? (changes ++ [.asKind kind]) = some kind := by
        simp [Change.lastKind?, Change.kind?]
      have hns : Change.lastNamespace? (changes ++ [.asKind kind]) =
          Change.lastNamespace? changes := by
        simp [Change.lastNamespace?, Change.namespace?]
      rw [hkind, hns]
      exact asKind_settledAs manifest _ _ kind
    | movedTo ns =>
      have hkind : Change.lastKind? (changes ++ [.movedTo ns]) = Change.lastKind? changes := by
        simp [Change.lastKind?, Change.kind?]
      have hns : Change.lastNamespace? (changes ++ [.movedTo ns]) = some ns := by
        simp [Change.lastNamespace?, Change.namespace?]
      rw [hkind, hns]
      exact movedTo_settledAs manifest _ _ ns

/-- A change keeps a manifest addressed by its body. -/
lemma IsAddressedByBody.apply (h : manifest.IsAddressedByBody) (change : Change) :
    (change.apply manifest).IsAddressedByBody := by
  cases change with
  | asKind kind => exact h.asKind kind
  | movedTo ns => exact h.movedTo ns

/-- A change leaves the body alone but for the namespace of its metadata. -/
lemma Change.apply_differsOnlyAt (change : Change) (manifest : Manifest) :
    Json.DiffersOnlyAt {Json.memberPath ["metadata", "namespace"]} manifest.body
      (change.apply manifest).body := by
  cases change with
  | asKind kind => exact .refl _ _
  | movedTo ns => exact movedTo_differsOnlyAt manifest ns

/-- Any number of changes keep a manifest addressed by its body. -/
lemma IsAddressedByBody.changed (h : manifest.IsAddressedByBody) (changes : List Change) :
    (manifest.changed changes).IsAddressedByBody := by
  induction changes generalizing manifest with
  | nil => exact h
  | cons change changes ih => exact ih (h.apply change)

/-- Any number of changes leave the body alone but for the namespace of its metadata. -/
lemma changed_differsOnlyAt (manifest : Manifest) (changes : List Change) :
    Json.DiffersOnlyAt {Json.memberPath ["metadata", "namespace"]} manifest.body
      (manifest.changed changes).body := by
  induction changes generalizing manifest with
  | nil => exact .refl _ _
  | cons change changes ih =>
    exact (change.apply_differsOnlyAt manifest).trans (ih (change.apply manifest))

/-- However often the manifest of a body is put under another kind and moved to another namespace,
it is addressed by its body: its name is the one in the metadata, and its namespace too, none
exactly if there is no text in that place.  The body differs from the given one in its namespace
only.  The result is the manifest under the last kind and in the last namespace, or in its own
where there is no such change, so two sequences of changes with the same ends have the same
result. -/
theorem address_kept_by_changes (hread : ofBody body = .ok manifest) (changes : List Change) :
    (manifest.changed changes).IsAddressedByBody ∧
      ((manifest.changed changes).scope = none ↔
        ∀ ns, (manifest.changed changes).body.at? ["metadata", "namespace"] ≠
          some (.string ns)) ∧
      Json.DiffersOnlyAt {Json.memberPath ["metadata", "namespace"]} body
        (manifest.changed changes).body ∧
      manifest.changed changes =
        manifest.settledAs (Change.lastKind? changes) (Change.lastNamespace? changes) ∧
      (manifest.changed changes).address = ⟨(Change.lastKind? changes).getD manifest.kind,
        (Change.lastNamespace? changes).or manifest.scope, manifest.name⟩ ∧
      ∀ others, Change.lastKind? others = Change.lastKind? changes →
        Change.lastNamespace? others = Change.lastNamespace? changes →
          manifest.changed others = manifest.changed changes := by
  obtain ⟨hbody, haddressed⟩ := isAddressedByBody_of_ofBody hread
  have hkept := haddressed.changed changes
  refine ⟨hkept, hkept.scope_eq_none_iff, ?_, changed_eq_settledAs manifest changes, ?_, ?_⟩
  · rw [← hbody]
    exact changed_differsOnlyAt manifest changes
  · rw [changed_eq_settledAs]
    exact address_settledAs manifest _ _
  · intro others hkind hns
    rw [changed_eq_settledAs, changed_eq_settledAs, hkind, hns]

end Manifest

/-! ### A service account that is moved twice -/

namespace Placement.Sample

def body : Json := .object [
  ("apiVersion", .string "v1"),
  ("kind", .string "ServiceAccount"),
  ("metadata", .object [
    ("labels", .object [("app", .string "broker")]),
    ("name", .string "operator"),
    ("namespace", .string "elsewhere")])]

def manifest : Manifest :=
  ⟨.ofApiVersion "v1" "ServiceAccount", some "elsewhere", "operator", body⟩

def kind : ObjectKind := ⟨"", "v1", "ServiceAccount", "serviceaccounts"⟩

lemma ofBody_body : Manifest.ofBody body = .ok manifest := rfl

end Placement.Sample

open Placement in
/-- A service account that is moved twice and put under two kinds is in the last namespace and under
the last kind. -/
theorem address_kept_by_two_moves :
    Manifest.ofBody Sample.body = .ok Sample.manifest ∧
      Manifest.IsAddressedByBody (Sample.manifest.changed
        [.movedTo "tests", .asKind .pod, .movedTo "broker", .asKind Sample.kind]) ∧
      Sample.manifest.changed
          [.movedTo "tests", .asKind .pod, .movedTo "broker", .asKind Sample.kind] =
        (Sample.manifest.asKind Sample.kind).movedTo "broker" ∧
      (Sample.manifest.changed
          [.movedTo "tests", .asKind .pod, .movedTo "broker", .asKind Sample.kind]).address =
        ⟨Sample.kind, some "broker", "operator"⟩ ∧
      Sample.manifest.changed [.asKind Sample.kind, .movedTo "broker"] =
        Sample.manifest.changed
          [.movedTo "tests", .asKind .pod, .movedTo "broker", .asKind Sample.kind] := by
  obtain ⟨haddressed, -, -, hsettled, haddress, hothers⟩ :=
    Manifest.address_kept_by_changes Sample.ofBody_body
      [.movedTo "tests", .asKind .pod, .movedTo "broker", .asKind Sample.kind]
  exact ⟨Sample.ofBody_body, haddressed, hsettled, haddress, hothers _ rfl rfl⟩

end BrokerHarness
