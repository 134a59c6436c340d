import BrokerHarness.Proofs.Object.Manifest
import BrokerHarness.Resource.Basic

/-!
# What snapshots and resources are read from

A snapshot is read from a body with a name, and a resource from a snapshot with a namespace whose
conditions can be decoded.  Nothing else is asked for, and everything that the results hold is a
part of what they were read from (`Snapshot.ofBody_eq_ok_iff`, `Resource.ofSnapshot_eq_ok_iff`).
-/

namespace BrokerHarness

/-! ### Snapshots -/

/-- A body is that of a snapshot exactly if it has a name that is not empty. -/
lemma Snapshot.ofBody_eq_ok_iff {kind : ObjectKind} {body : Json} {snapshot : Snapshot} :
    ofBody kind body = .ok snapshot ↔
      ∃ name, body.stringAt? ["metadata", "name"] = some name ∧ name ≠ "" ∧
        snapshot = ⟨kind, body.stringAt? Manifest.namespacePath, name,
          body.int64At? ["metadata", "generation"], body⟩ := by
  unfold ofBody
  constructor
  · intro h
    cases hname : body.nonEmptyAt ["metadata", "name"] with
    | error e => simp [hname, bind, Except.bind] at h
    | ok name =>
      obtain ⟨htext, hne⟩ := Json.nonEmptyAt_eq_ok_iff.mp hname
      simp only [hname, bind, Except.bind, pure, Except.pure, Except.ok.injEq] at h
      exact ⟨name, htext, hne, h.symm⟩
  · rintro ⟨name, htext, hne, rfl⟩
    rw [Json.nonEmptyAt_eq_ok htext hne]
    rfl

/-- What a snapshot says is read from its body. -/
lemma Snapshot.ofBody_eq_ok {kind : ObjectKind} {body : Json} {snapshot : Snapshot}
    (h : ofBody kind body = .ok snapshot) :
    snapshot.kind = kind ∧ snapshot.name ≠ "" ∧
      snapshot.body.stringAt? ["metadata", "name"] = some snapshot.name ∧
      snapshot.body.stringAt? Manifest.namespacePath = snapshot.scope := by
  obtain ⟨name, hname, hne, rfl⟩ := ofBody_eq_ok_iff.mp h
  exact ⟨rfl, hne, hname, rfl⟩

/-! ### Resources -/

namespace Resource

variable {snapshot : Snapshot} {resource : Resource}

/-- A snapshot is that of a resource exactly if it has a namespace and its conditions can be
decoded. -/
lemma ofSnapshot_eq_ok_iff :
    ofSnapshot snapshot = .ok resource ↔
      ∃ ns conditions, snapshot.scope = some ns ∧ snapshot.statusConditions = .ok conditions ∧
        resource = ⟨snapshot.kind, ns, snapshot.name, .orNull snapshot.spec, conditions,
          snapshot.generation, snapshot.body⟩ := by
  unfold ofSnapshot
  constructor
  · intro h
    cases hscope : snapshot.scope with
    | none => simp [hscope] at h
    | some ns =>
      cases hconditions : snapshot.statusConditions with
      | error e => simp [hscope, hconditions, bind, Except.bind] at h
      | ok conditions =>
        simp only [hscope, hconditions, bind, Except.bind, pure, Except.pure,
          Except.ok.injEq] at h
        exact ⟨ns, conditions, rfl, rfl, h.symm⟩
  · rintro ⟨ns, conditions, hscope, hconditions, rfl⟩
    rw [hscope, hconditions]
    rfl

/-- A resource has the conditions, the generation and the body of its snapshot. -/
lemma ofSnapshot_eq_ok (h : ofSnapshot snapshot = .ok resource) :
    snapshot.statusConditions = .ok resource.conditions ∧
      resource.generation = snapshot.generation ∧ resource.body = snapshot.body := by
  obtain ⟨ns, conditions, -, hconditions, rfl⟩ := ofSnapshot_eq_ok_iff.mp h
  exact ⟨hconditions, rfl, rfl⟩

/-- The resource holds the object of the snapshot, under a spec that may be another. -/
structure Holds (resource : Resource) (snapshot : Snapshot) : Prop where
  kind : resource.kind = snapshot.kind
  scope : snapshot.scope = some resource.ns
  name : resource.name = snapshot.name
  body : resource.body = snapshot.body

/-- A resource holds the object of its snapshot. -/
lemma holds_of_ofSnapshot (h : ofSnapshot snapshot = .ok resource) : resource.Holds snapshot := by
  obtain ⟨ns, conditions, hscope, -, rfl⟩ := ofSnapshot_eq_ok_iff.mp h
  exact ⟨rfl, hscope, rfl, rfl⟩

/-- A spec that the snapshot does not have is read as null. -/
lemma spec_of_ofSnapshot (h : ofSnapshot snapshot = .ok resource) :
    resource.spec = .orNull (snapshot.body.get? "spec") := by
  obtain ⟨ns, conditions, -, -, rfl⟩ := ofSnapshot_eq_ok_iff.mp h
  rfl

/-- An edit of the spec does not change which object a resource holds. -/
lemma Holds.withSpec (h : resource.Holds snapshot) (spec : Json) :
    (resource.withSpec spec).Holds snapshot :=
  ⟨h.kind, h.scope, h.name, h.body⟩

/-- What is desired of a resource is addressed as its snapshot is. -/
lemma Holds.address_eq (h : resource.Holds snapshot) :
    resource.desired.address = snapshot.address := by
  have haddress : resource.desired.address = ⟨resource.kind, some resource.ns, resource.name⟩ := rfl
  rw [haddress, h.kind, h.name, ← h.scope]
  rfl

end Resource

end BrokerHarness
