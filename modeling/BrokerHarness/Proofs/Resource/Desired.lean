import BrokerHarness.Proofs.Json.Frame
import BrokerHarness.Proofs.Resource.Snapshot

/-!
# The desired object of a resource

A resource that is submitted again is sent as a whole: the body that was observed, with the current
spec, and without what only the cluster writes.  The first main result says that nothing else
differs from the observed body at any depth, and that stripping is done once: the desired object,
read as a snapshot, is a resource with the same desired object
(`Resource.desired_differs_by_edit`).

The second is about a resource that was not edited.  Its spec is that of the observed body if there
is one.  A body without a spec is read as one with the spec null, and this null is written, so the
desired state of such an object changes without an edit (`Resource.unedited_keeps_spec_iff`).
-/

namespace BrokerHarness

namespace Resource

variable {kind : ObjectKind} {body : Json} {snapshot : Snapshot} {resource : Resource}

/-! ### The members of a desired object -/

/-- Metadata without the fields that only the cluster writes. -/
def withoutServerFields (metadata : Json) : Json :=
  serverFields.foldl (fun acc field => acc.erase field) metadata

/-- The desired body is made by three edits of the observed one. -/
lemma desired_body_eq (resource : Resource) :
    resource.desired.body =
      ((resource.body.erase "status").insert "spec" resource.spec).modify "metadata"
        withoutServerFields :=
  rfl

/-- What only the cluster writes is taken out of the metadata. -/
lemma get?_withoutServerFields_of_mem {key : String} (h : key ∈ serverFields) (metadata : Json) :
    (withoutServerFields metadata).get? key = none := by
  unfold withoutServerFields
  rw [Json.get?_foldl_erase, if_pos h]

/-- What is taken out once is not there any more. -/
lemma withoutServerFields_idem (metadata : Json) :
    withoutServerFields (withoutServerFields metadata) = withoutServerFields metadata :=
  Json.foldl_erase_eq_self fun _ hkey => get?_withoutServerFields_of_mem hkey metadata

/-- The desired object has no status. -/
lemma get?_status_desired (resource : Resource) : resource.desired.body.get? "status" = none := by
  rw [desired_body_eq, Json.get?_modify_of_ne (by decide), Json.get?_insert_of_ne (by decide),
    Json.get?_erase_self]

/-- The desired object has the spec of the resource, whatever the observed one had. -/
lemma get?_spec_desired {fields : List (String × Json)} (h : resource.body = .object fields) :
    resource.desired.body.get? "spec" = some resource.spec := by
  rw [desired_body_eq, Json.get?_modify_of_ne (by decide), h]
  exact Json.get?_insert_self _

/-- Of the metadata nothing else is changed. -/
lemma get?_metadata_desired (resource : Resource) :
    resource.desired.body.get? "metadata" =
      (resource.body.get? "metadata").map withoutServerFields := by
  rw [desired_body_eq, Json.get?_modify_self, Json.get?_insert_of_ne (by decide),
    Json.get?_erase_of_ne (by decide)]

/-- The desired object has no metadata that only the cluster writes. -/
lemma at?_metadata_desired_of_mem {key : String} (h : key ∈ serverFields) (resource : Resource) :
    resource.desired.body.at? ["metadata", key] = none := by
  rw [Json.at?_pair, get?_metadata_desired]
  cases resource.body.get? "metadata" with
  | none => rfl
  | some metadata => exact get?_withoutServerFields_of_mem h metadata

/-- A body without members is not changed. -/
lemma desired_body_of_not_object (h : ∀ fields, resource.body ≠ .object fields) :
    resource.desired.body = resource.body := by
  rw [desired_body_eq]
  cases hbody : resource.body with
  | object fields => exact absurd hbody (h fields)
  | _ => rfl

/-! ### What a desired object leaves alone -/

/-- The places at which a desired object differs from the body that was observed. -/
def editedPlaces : Set (List Json.Step) :=
  {place | place = Json.memberPath ["status"] ∨ place = Json.memberPath ["spec"] ∨
    ∃ field ∈ ["resourceVersion", "uid", "generation", "creationTimestamp", "managedFields"],
      place = Json.memberPath ["metadata", field]}

/-- The desired object differs from the observed one in the edited places only. -/
lemma desired_differsOnlyAt (resource : Resource) :
    Json.DiffersOnlyAt editedPlaces resource.body resource.desired.body := by
  have hstatus := Json.differsOnlyAt_erase resource.body "status"
  have hspec := Json.differsOnlyAt_insert (resource.body.erase "status") "spec" resource.spec
  have hfields : {path | ∃ field ∈ serverFields, path = [Json.Step.member field]}.Nonempty :=
    ⟨[.member "uid"], "uid", by decide, rfl⟩
  have hmetadata := Json.differsOnlyAt_modify
    ((resource.body.erase "status").insert "spec" resource.spec) "metadata" hfields
    fun metadata _ => Json.differsOnlyAt_foldl_erase serverFields metadata
  refine (hstatus.mono ?_).trans ((hspec.mono ?_).trans (hmetadata.mono ?_))
  · rintro place rfl
    exact .inl rfl
  · rintro place rfl
    exact .inr (.inl rfl)
  · rintro place ⟨_, ⟨field, hfield, rfl⟩, rfl⟩
    exact .inr (.inr ⟨field, hfield, rfl⟩)

/-- What the cluster does not write in the metadata stays there. -/
lemma at?_metadata_desired_of_notMem {key : String}
    (h : key ∉ ["resourceVersion", "uid", "generation", "creationTimestamp", "managedFields"])
    (resource : Resource) :
    resource.desired.body.at? ["metadata", key] = resource.body.at? ["metadata", key] := by
  refine (desired_differsOnlyAt resource).at?_eq ?_
  rintro place (rfl | rfl | ⟨field, hfield, rfl⟩)
  · simp [Json.memberPath]
  · simp [Json.memberPath]
  · have hne : field ≠ key := fun heq => h (heq ▸ hfield)
    simp [Json.memberPath, hne, hne.symm]

/-- The desired object of a resource that holds a desired body and its spec is this body. -/
lemma desired_body_idem {again : Resource} (hbody : again.body = resource.desired.body)
    (hspec : again.spec = resource.spec) : again.desired.body = resource.desired.body := by
  -- The status is gone and the spec is there, so only the metadata is stripped once more; the spec
  -- is written in front of that change, under another member.
  have herase : resource.desired.body.erase "status" = resource.desired.body :=
    Json.erase_eq_self (get?_status_desired resource)
  rw [desired_body_eq again, hbody, hspec, herase, desired_body_eq,
    Json.insert_modify_of_ne (by decide), Json.insert_insert, Json.modify_modify]
  exact Json.modify_congr fun metadata _ => withoutServerFields_idem metadata

/-- The desired object is a snapshot of the same object, and the resource that it shows has the same
desired object. -/
lemma exists_same_desired (resource : Resource) (hname : resource.name ≠ "")
    (hnameAt : resource.body.stringAt? ["metadata", "name"] = some resource.name)
    (hnsAt : resource.body.stringAt? Manifest.namespacePath = some resource.ns) :
    ∃ shown again, Snapshot.ofBody resource.kind resource.desired.body = .ok shown ∧
      ofSnapshot shown = .ok again ∧ again.desired = resource.desired := by
  have hnamed : resource.desired.body.stringAt? ["metadata", "name"] = some resource.name := by
    unfold Json.stringAt?
    rw [at?_metadata_desired_of_notMem (by decide)]
    exact hnameAt
  have hplaced : resource.desired.body.stringAt? Manifest.namespacePath = some resource.ns := by
    unfold Json.stringAt? Manifest.namespacePath
    rw [at?_metadata_desired_of_notMem (by decide)]
    exact hnsAt
  obtain ⟨fields, hfields⟩ := Json.exists_fields_of_stringAt? hnameAt
  let shown : Snapshot := ⟨resource.kind, some resource.ns, resource.name,
    resource.desired.body.int64At? ["metadata", "generation"], resource.desired.body⟩
  have hshown : Snapshot.ofBody resource.kind resource.desired.body = .ok shown :=
    Snapshot.ofBody_eq_ok_iff.mpr ⟨resource.name, hnamed, hname, by rw [hplaced]⟩
  have hconditions : shown.statusConditions = .ok [] := by
    have hstatus : shown.body.at? ["status", "conditions"] = none := by
      rw [Json.at?_pair, get?_status_desired]
      rfl
    unfold Snapshot.statusConditions
    rw [hstatus]
  have hspec : Json.orNull shown.spec = resource.spec := by
    have hfound : shown.spec = some resource.spec := get?_spec_desired hfields
    rw [hfound]
    rfl
  let again : Resource := ⟨resource.kind, resource.ns, resource.name, .orNull shown.spec, [],
    shown.generation, resource.desired.body⟩
  have hagain : ofSnapshot shown = .ok again :=
    ofSnapshot_eq_ok_iff.mpr ⟨resource.ns, [], rfl, hconditions, rfl⟩
  have hbody : again.desired.body = resource.desired.body := desired_body_idem rfl hspec
  refine ⟨shown, again, hshown, hagain, ?_⟩
  exact congrArg (Manifest.mk resource.kind (some resource.ns) resource.name) hbody

/-! ### An edited resource -/

/-- The desired object of a resource with an edited spec has the address of the snapshot.  Its body
differs from the snapshot's only in that it has no status, has the edited spec, and has no metadata
that only the cluster writes.  Read as a snapshot, it shows a resource with the same desired
object. -/
theorem desired_differs_by_edit (hsnapshot : Snapshot.ofBody kind body = .ok snapshot)
    (hresource : ofSnapshot snapshot = .ok resource) (spec : Json) :
    (resource.withSpec spec).desired.address = snapshot.address ∧
      Json.DiffersOnlyAt editedPlaces snapshot.body (resource.withSpec spec).desired.body ∧
      (resource.withSpec spec).desired.body.get? "status" = none ∧
      (resource.withSpec spec).desired.body.get? "spec" = some spec ∧
      (∀ field ∈ ["resourceVersion", "uid", "generation", "creationTimestamp", "managedFields"],
        (resource.withSpec spec).desired.body.at? ["metadata", field] = none) ∧
      ∃ shown again,
        Snapshot.ofBody snapshot.kind (resource.withSpec spec).desired.body = .ok shown ∧
        ofSnapshot shown = .ok again ∧ again.desired = (resource.withSpec spec).desired := by
  obtain ⟨rfl, hne, hname, hns⟩ := Snapshot.ofBody_eq_ok hsnapshot
  have hholds : (resource.withSpec spec).Holds snapshot :=
    (holds_of_ofSnapshot hresource).withSpec spec
  obtain ⟨fields, hfields⟩ := Json.exists_fields_of_stringAt? hname
  have hframe := desired_differsOnlyAt (resource.withSpec spec)
  have hfixed := exists_same_desired (resource.withSpec spec)
  rw [hholds.body] at hframe hfixed
  rw [hholds.kind, hholds.name] at hfixed
  refine ⟨hholds.address_eq, hframe, get?_status_desired _, ?_, ?_, ?_⟩
  · exact get?_spec_desired (hholds.body.trans hfields)
  · exact fun field hfield => at?_metadata_desired_of_mem hfield _
  · exact hfixed hne hname (hns.trans hholds.scope)

end Resource

namespace DesiredObject.Sample

def brokerBody : Json := .object [
  ("apiVersion", .string "broker.amq.io/v1beta1"),
  ("kind", .string "ActiveMQArtemis"),
  ("metadata", .object [
    ("creationTimestamp", .string "2024-01-01T00:00:00Z"),
    ("generation", .int 2),
    ("labels", .object [("generation", .string "blue"), ("uid", .string "mine")]),
    ("managedFields", .array [.object [("manager", .string "operator")]]),
    ("name", .string "broker"),
    ("namespace", .string "test"),
    ("resourceVersion", .string "4711"),
    ("uid", .string "0d9c")]),
  ("spec", .object [("deploymentPlan", .object [("size", .int 1)])]),
  ("status", .object [
    ("conditions", .array [.object [("status", .string "True"), ("type", .string "Ready")]])])]

def broker : Snapshot := ⟨.broker, some "test", "broker", some 2, brokerBody⟩

def heldBroker : Resource :=
  ⟨.broker, "test", "broker", .object [("deploymentPlan", .object [("size", .int 1)])],
    [{ type := "Ready", status := .holds }], some 2, brokerBody⟩

/-- Two replicas instead of one. -/
def grown : Json := .object [("deploymentPlan", .object [("size", .int 2)])]

/-- The labels keep their members, whatever they are called. -/
example : (heldBroker.withSpec grown).desired.body = .object [
    ("apiVersion", .string "broker.amq.io/v1beta1"),
    ("kind", .string "ActiveMQArtemis"),
    ("metadata", .object [
      ("labels", .object [("generation", .string "blue"), ("uid", .string "mine")]),
      ("name", .string "broker"),
      ("namespace", .string "test")]),
    ("spec", grown)] := by
  decide

end DesiredObject.Sample

open DesiredObject in
/-- A broker whose size was edited, with what is shown and desired once more behind it. -/
theorem grown_broker_differs_by_edit :
    Snapshot.ofBody .broker Sample.brokerBody = .ok Sample.broker ∧
      Resource.ofSnapshot Sample.broker = .ok Sample.heldBroker ∧
      (Sample.heldBroker.withSpec Sample.grown).desired.address = Sample.broker.address ∧
      Json.DiffersOnlyAt Resource.editedPlaces Sample.brokerBody
        (Sample.heldBroker.withSpec Sample.grown).desired.body ∧
      ∃ shown again,
        Snapshot.ofBody .broker (Sample.heldBroker.withSpec Sample.grown).desired.body =
          .ok shown ∧
        Resource.ofSnapshot shown = .ok again ∧
        again.desired = (Sample.heldBroker.withSpec Sample.grown).desired := by
  have hsnapshot : Snapshot.ofBody .broker Sample.brokerBody = .ok Sample.broker := rfl
  have hresource : Resource.ofSnapshot Sample.broker = .ok Sample.heldBroker := rfl
  obtain ⟨haddress, hframe, -, -, -, hfixed⟩ :=
    Resource.desired_differs_by_edit hsnapshot hresource Sample.grown
  exact ⟨hsnapshot, hresource, haddress, hframe, hfixed⟩

/-! ### A resource that was not edited -/

namespace Resource

variable {snapshot : Snapshot} {resource : Resource}

/-- The desired object of a resource that was not edited has the spec of the snapshot exactly if the
snapshot's body has a spec, or has no members at all.  A body with members and without a spec gets
the spec null. -/
theorem unedited_keeps_spec_iff (hresource : ofSnapshot snapshot = .ok resource) :
    (resource.desired.body.get? "spec" = snapshot.body.get? "spec" ↔
      ∀ fields, snapshot.body = .object fields → snapshot.body.get? "spec" ≠ none) ∧
    ∀ fields, snapshot.body = .object fields → snapshot.body.get? "spec" = none →
      resource.desired.body.get? "spec" = some .null := by
  have hholds := holds_of_ofSnapshot hresource
  have hwritten : ∀ fields, snapshot.body = .object fields →
      resource.desired.body.get? "spec" = some (.orNull (snapshot.body.get? "spec")) := by
    intro fields hfields
    rw [get?_spec_desired (hholds.body.trans hfields), spec_of_ofSnapshot hresource]
  have hnull : ∀ fields, snapshot.body = .object fields → snapshot.body.get? "spec" = none →
      resource.desired.body.get? "spec" = some .null := by
    intro fields hfields hnone
    rw [hwritten fields hfields, hnone]
    rfl
  refine ⟨⟨?_, ?_⟩, hnull⟩
  · intro hsame fields hfields hnone
    have hadded := hnull fields hfields hnone
    rw [hsame, hnone] at hadded
    cases hadded
  · intro hspec
    by_cases hobject : ∃ fields, snapshot.body = .object fields
    · obtain ⟨fields, hfields⟩ := hobject
      obtain ⟨spec, hfound⟩ := Option.ne_none_iff_exists'.mp (hspec fields hfields)
      rw [hwritten fields hfields, hfound]
      rfl
    · have hbody : resource.desired.body = resource.body :=
        desired_body_of_not_object fun fields hfields =>
          hobject ⟨fields, hholds.body.symm.trans hfields⟩
      rw [hbody, hholds.body]

end Resource

namespace DesiredObject.Sample

/-- An object that has no spec, as most kinds of the core group. -/
def settingsBody : Json := .object [
  ("apiVersion", .string "v1"),
  ("data", .object [("mode", .string "test")]),
  ("kind", .string "ConfigMap"),
  ("metadata", .object [("name", .string "settings"), ("namespace", .string "test")])]

def settings : Snapshot :=
  ⟨.ofApiVersion "v1" "ConfigMap", some "test", "settings", none, settingsBody⟩

def heldSettings : Resource := ⟨settings.kind, "test", "settings", .null, [], none, settingsBody⟩

end DesiredObject.Sample

open DesiredObject in
/-- An object without a spec is desired with one. -/
theorem unedited_settings_desire_null_spec :
    Snapshot.ofBody (.ofApiVersion "v1" "ConfigMap") Sample.settingsBody = .ok Sample.settings ∧
      Resource.ofSnapshot Sample.settings = .ok Sample.heldSettings ∧
      Sample.settings.body.get? "spec" = none ∧
      Sample.heldSettings.desired.body.get? "spec" = some .null ∧
      Sample.heldSettings.desired.body.get? "spec" ≠ Sample.settings.body.get? "spec" :=
  ⟨rfl, rfl, rfl, rfl, by decide⟩

open DesiredObject in
/-- An unedited broker keeps its spec, and unedited settings without a spec get a null. -/
theorem unedited_broker_and_settings_specs :
    Resource.ofSnapshot Sample.broker = .ok Sample.heldBroker ∧
      Sample.heldBroker.desired.body.get? "spec" = Sample.brokerBody.get? "spec" ∧
      Resource.ofSnapshot Sample.settings = .ok Sample.heldSettings ∧
      Sample.heldSettings.desired.body.get? "spec" = some .null := by
  have hbroker : Resource.ofSnapshot Sample.broker = .ok Sample.heldBroker := rfl
  have hsettings : Resource.ofSnapshot Sample.settings = .ok Sample.heldSettings := rfl
  have hkept := (Resource.unedited_keeps_spec_iff hbroker).1.mpr fun _ _ => by decide
  have hadded := (Resource.unedited_keeps_spec_iff hsettings).2 _ rfl rfl
  exact ⟨hbroker, hkept, hsettings, hadded⟩

end BrokerHarness
