import BrokerHarness.Proofs.Confinement
import BrokerHarness.Proofs.Operator.Preparation

/-!
# The scope of what is applied and deleted

All that the calls on an operator change on a cluster are the objects of its prepared manifests
(`OperatorStep.within_targets`): a loop asks about its items only, and what is asked behind the loop
are look-ups.

`Installation.AddressedInScope` says where the object of a prepared manifest is.  The body tells the
same address as the manifest.  An object that belongs to a namespace is in that of the operator.  An
object of the whole cluster keeps the address that it was given, so it has no namespace exactly if
the given body tells none; it is not moved out of a namespace that its install file names
(`Lifetime.targets_follow_scope`).
-/

namespace BrokerHarness

/-! ### What the calls on an operator change -/

/-- Every exchange of a loop is about one of the items. -/
lemma Action.LoopRun.exists_item {I : Interface} {ι : Type} {passes : ι → Exchange I → Prop}
    {stops : ι → Failure → Exchange I → Prop} {items : List ι} {asked : List (Exchange I)}
    {r : Except Failure Unit} {x : Exchange I} (h : Action.LoopRun passes stops items asked r)
    (hx : x ∈ asked) : ∃ item ∈ items, passes item x ∨ ∃ e, stops item e x := by
  induction items generalizing asked with
  | nil =>
    obtain ⟨rfl, -⟩ := Action.LoopRun.nil_iff.mp h
    cases hx
  | cons item items ih =>
    rcases Action.LoopRun.cons_iff.mp h with ⟨y, e, rfl, hstop, -⟩ | ⟨y, rest, rfl, hpass, hrest⟩
    · obtain rfl := List.mem_singleton.mp hx
      exact ⟨item, List.mem_cons_self, .inr ⟨e, hstop⟩⟩
    · rcases List.mem_cons.mp hx with rfl | hbehind
      · exact ⟨item, List.mem_cons_self, .inl hpass⟩
      · obtain ⟨other, hother, habout⟩ := ih hrest hbehind
        exact ⟨other, List.mem_cons_of_mem item hother, habout⟩

/-- What a sweep asks are requests about its items, and look-ups. -/
lemma Sweep.within {ι : Type} {passes : ι → Exchange controlPlane → Prop}
    {stops : ι → Failure → Exchange controlPlane → Prop} {items : List ι}
    {t : List (Exchange controlPlane.timed)} {r : Except Failure Unit}
    {allowed : ControlPlaneRequest → Prop} (h : Sweep passes stops items t r)
    (hlookup : ∀ q, q.IsLookup → allowed q)
    (hitem : ∀ item ∈ items, ∀ x, (passes item x ∨ ∃ e, stops item e x) → allowed x.request) :
    ∀ e ∈ t, TimedRequest.Within allowed e.request := by
  have hloop : ∀ {asked r}, Action.LoopRun passes stops items asked r →
      ∀ e ∈ asked.map Exchange.timed, TimedRequest.Within allowed e.request := by
    intro asked r loop
    refine List.forall_mem_map.mpr fun x hx => ?_
    obtain ⟨item, hmem, habout⟩ := loop.exists_item hx
    exact hitem item hmem x habout
  cases h with
  | stopped loop => exact hloop loop
  | completed loop lookups =>
    refine List.forall_mem_append.mpr ⟨hloop loop, fun e he => ?_⟩
    exact TimedRequest.Within.mono hlookup (lookups e he)

/-- The request applies the manifest, or asks for the deletion of its object. -/
def ControlPlaneRequest.Targets (manifest : Manifest) : ControlPlaneRequest → Prop
  | apply applied => applied = manifest
  | delete target => target = manifest.address
  | get .. | list .. => False

/-- Beside look-ups, a call on an operator applies its manifests and deletes their objects. -/
theorem OperatorStep.within_targets (step : OperatorStep) :
    ∀ e ∈ step.exchanges, TimedRequest.Within
      (fun q : ControlPlaneRequest => q.IsLookup ∨ ∃ manifest ∈ step.before.manifests,
        q.Targets manifest)
      e.request := by
  obtain ⟨call, before, t, r, after, run⟩ := step
  cases OperatorCall.run_of_yields run with
  | deploy _ h =>
    refine h.sweep.within (fun q => .inl) fun manifest hmem x hx => .inr ⟨manifest, hmem, ?_⟩
    obtain happlies | ⟨e, hfails⟩ := hx
    · cases happlies
      rfl
    · cases hfails
      rfl
  | undeploy _ h =>
    refine h.sweep.within (fun q => .inl) fun target htarget x hx => .inr ?_
    obtain ⟨manifest, hmem, rfl⟩ := List.mem_map.mp htarget
    refine ⟨manifest, List.mem_reverse.mp hmem, ?_⟩
    obtain hdeletes | ⟨e, hfails⟩ := hx
    · cases hdeletes <;> rfl
    · cases hfails
      rfl
  | firstPod h =>
    intro e he
    have hlookup := (Operator.firstPod_asksOnly before).timed _ _ h e he
    exact TimedRequest.Within.mono (fun q => .inl) hlookup
  | refused => simp

/-! ### Where the object of a prepared manifest is -/

namespace Installation

variable {profile : OperatorProfile} {manifest given prepared : Manifest} {ns : String}

/-- The prepared manifest is about the given object, at an address that fits the scope of its kind
as far as the given body does. -/
structure AddressedInScope (ns : String) (given prepared : Manifest) : Prop where
  same : prepared.kind = given.kind ∧ prepared.name = given.name
  addressed : prepared.IsAddressedByBody
  /-- An object that belongs to a namespace is in the given one. -/
  namespaced : given.kind.belongsToCluster = false →
    prepared.scope = some ns ∧
      prepared.body.at? ["metadata", "namespace"] = some (.string ns)
  /-- An object of the whole cluster has no namespace exactly if the given body tells none. -/
  cluster : given.kind.belongsToCluster = true →
    prepared.scope = given.body.stringAt? ["metadata", "namespace"] ∧
      (prepared.scope = none ↔
        ∀ stray, given.body.at? ["metadata", "namespace"] ≠ some (.string stray))

/-- What an operator is told stands outside the metadata. -/
lemma stringAt?_metadata_tell (profile : OperatorProfile) (manifest : Manifest) (key : String) :
    (tell profile manifest).body.stringAt? ["metadata", key] =
      manifest.body.stringAt? ["metadata", key] := by
  have hmetadata : (tell profile manifest).body.get? "metadata" =
      manifest.body.get? "metadata" :=
    Json.get?_modify_of_ne (by decide)
  rw [Json.stringAt?_metadata, hmetadata, ← Json.stringAt?_metadata]

/-- Telling an operator what to watch does not touch its address. -/
lemma isAddressedByBody_tell (h : manifest.IsAddressedByBody) :
    (tell profile manifest).IsAddressedByBody :=
  ⟨(stringAt?_metadata_tell profile manifest "name").trans h.name,
    (stringAt?_metadata_tell profile manifest "namespace").trans h.scope⟩

/-- A manifest that is placed is addressed by its body. -/
lemma isAddressedByBody_place (h : manifest.IsAddressedByBody) :
    (place profile manifest).IsAddressedByBody := by
  by_cases hcluster : manifest.kind.belongsToCluster = true
  · rw [place_of_cluster hcluster]
    exact h
  · rw [place_of_namespaced hcluster]
    exact h.movedTo profile.deploymentNamespace

/-- A manifest that is prepared is addressed by its body. -/
lemma isAddressedByBody_prepare (h : manifest.IsAddressedByBody) :
    (prepare profile manifest).IsAddressedByBody := by
  have hplaced : (place profile manifest).IsAddressedByBody := isAddressedByBody_place h
  by_cases htells : TellsOperator profile manifest
  · rw [prepare_of_tellsOperator htells]
    exact isAddressedByBody_tell hplaced
  · rw [prepare_of_not_tellsOperator htells]
    exact hplaced

/-- A prepared manifest is addressed in the namespace of the operator, or where it was given if it
is of the whole cluster. -/
lemma addressedInScope_prepare (h : given.IsAddressedByBody) :
    AddressedInScope profile.deploymentNamespace given (prepare profile given) where
  same :=
    ⟨prepare_kind profile given, congrArg ObjectAddress.name (prepare_address profile given)⟩
  addressed := isAddressedByBody_prepare h
  namespaced hkind := by
    have hscope : (prepare profile given).scope = some profile.deploymentNamespace := by
      rw [prepare_scope, hkind]
      rfl
    refine ⟨hscope, Json.stringAt?_eq_some_iff.mp ?_⟩
    exact (isAddressedByBody_prepare h).scope.trans hscope
  cluster hkind := by
    have hscope : (prepare profile given).scope = given.scope := by
      rw [prepare_scope, hkind]
      rfl
    rw [hscope]
    exact ⟨h.scope.symm, h.scope_eq_none_iff⟩

end Installation

namespace Lifetime

/-- Whatever calls an operator takes, all that they change on the cluster are the objects of its
prepared manifests, each of them applied or deleted at the same address.  The manifests were read
from bodies, so the bodies tell these addresses as well.  An object that belongs to a namespace is
in the one that the operator runs in.  An object of the whole cluster has no namespace exactly if
the body that was read tells none, and otherwise the one that is told. -/
theorem targets_follow_scope {profile : OperatorProfile} {manifests : List Manifest}
    {settings : Settings} {steps : List OperatorStep} {operator : Operator}
    (hread : ∀ given ∈ manifests, ∃ body, Manifest.ofBody body = .ok given)
    (h : Lifetime (Operator.ofManifests profile manifests settings) steps operator) :
    ∀ step ∈ steps, ∀ e ∈ step.exchanges, TimedRequest.Within
      (fun q : ControlPlaneRequest => q.IsLookup ∨ ∃ given ∈ manifests,
        q.Targets (Installation.prepare profile given) ∧
          Installation.AddressedInScope profile.deploymentNamespace given
            (Installation.prepare profile given))
      e.request := by
  intro step hstep e he
  obtain ⟨earlier, later, rfl⟩ := List.append_of_mem hstep
  have hmanifests : step.before.manifests = manifests.map (Installation.prepare profile) :=
    h.until_call.manifests_eq
  refine TimedRequest.Within.mono (fun q hq => ?_) (step.within_targets e he)
  obtain hlookup | ⟨prepared, hmem, htargets⟩ := hq
  · exact .inl hlookup
  · rw [hmanifests] at hmem
    obtain ⟨given, hgiven, rfl⟩ := List.mem_map.mp hmem
    obtain ⟨body, hbody⟩ := hread given hgiven
    have haddressed := (Manifest.isAddressedByBody_of_ofBody hbody).2
    exact .inr ⟨given, hgiven, htargets, Installation.addressedInScope_prepare haddressed⟩

end Lifetime

/-! ### A role of the whole cluster with a namespace -/

namespace Scope.Sample

def roleBody : Json := .object [
  ("apiVersion", .string "rbac.authorization.k8s.io/v1"),
  ("kind", .string "ClusterRole"),
  ("metadata", .object [("name", .string "operator"), ("namespace", .string "elsewhere")])]

def accountBody : Json := .object [
  ("apiVersion", .string "v1"),
  ("kind", .string "ServiceAccount"),
  ("metadata", .object [("name", .string "operator")])]

def role : Manifest :=
  ⟨.ofApiVersion "rbac.authorization.k8s.io/v1" "ClusterRole", some "elsewhere", "operator",
    roleBody⟩

def account : Manifest := ⟨.ofApiVersion "v1" "ServiceAccount", none, "operator", accountBody⟩

lemma ofBody_eq_ok : ∀ given ∈ [role, account], ∃ body, Manifest.ofBody body = .ok given :=
  List.forall_mem_cons.mpr
    ⟨⟨roleBody, rfl⟩, List.forall_mem_singleton.mpr ⟨accountBody, rfl⟩⟩

def operator : Operator := Operator.ofManifests Lifetime.Sample.profile [role, account] {}

def preparedAccount : Manifest := Installation.prepare Lifetime.Sample.profile account

def stored (manifest : Manifest) : Snapshot :=
  ⟨manifest.kind, manifest.scope, manifest.name, some 1, manifest.body⟩

/-- The role is applied as it is. -/
def deployment : OperatorStep where
  call := .deploy false
  before := operator
  exchanges := [⟨.other (.apply role), .ok (stored role)⟩,
    ⟨.other (.apply preparedAccount), .ok (stored preparedAccount)⟩]
  outcome := .ok ()
  after := operator.inPhase .deployed
  run := .ask (.ask (.done _))

def undeployment : OperatorStep where
  call := .undeploy false
  before := operator.inPhase .deployed
  exchanges := [⟨.other (.delete preparedAccount.address), .ok ()⟩,
    ⟨.other (.delete role.address), .ok ()⟩]
  outcome := .ok ()
  after := operator.inPhase .undeployed
  run := .ask (.ask (.done _))

/-- A role and an account are applied and then deleted. -/
lemma life : Lifetime operator [deployment, undeployment] (operator.inPhase .undeployed) :=
  @Lifetime.call operator [deployment] undeployment (@Lifetime.call operator [] deployment .begin)

end Scope.Sample

open Scope in
/-- A role of the whole cluster, which its body puts into a namespace, and a service account are
deleted at the addresses of their prepared manifests. -/
theorem targets_follow_scope_of_role_and_account :
    (∀ given ∈ [Sample.role, Sample.account], ∃ body, Manifest.ofBody body = .ok given) ∧
      Lifetime Sample.operator [Sample.deployment, Sample.undeployment]
        (Sample.operator.inPhase .undeployed) ∧
      ∀ e ∈ Sample.undeployment.exchanges, TimedRequest.Within
        (fun q : ControlPlaneRequest => q.IsLookup ∨ ∃ given ∈ [Sample.role, Sample.account],
          q.Targets (Installation.prepare Lifetime.Sample.profile given) ∧
            Installation.AddressedInScope "broker" given
              (Installation.prepare Lifetime.Sample.profile given))
        e.request := by
  have hlaw := Lifetime.targets_follow_scope Sample.ofBody_eq_ok Sample.life
  exact ⟨Sample.ofBody_eq_ok, Sample.life, hlaw Sample.undeployment (by simp)⟩

open Scope in
/-- The role belongs to the whole cluster, but is applied and deleted in the namespace that its body
tells. -/
theorem role_targeted_in_stray_namespace :
    Manifest.ofBody Sample.roleBody = .ok Sample.role ∧
      Sample.role.kind.belongsToCluster = true ∧ Sample.role.address.scope = some "elsewhere" ∧
      Lifetime (Operator.ofManifests Lifetime.Sample.profile [Sample.role, Sample.account] {})
        [Sample.deployment, Sample.undeployment] (Sample.operator.inPhase .undeployed) ∧
      (∃ e ∈ Sample.deployment.exchanges,
        e.request = .other (ControlPlaneRequest.apply Sample.role)) ∧
      ∃ e ∈ Sample.undeployment.exchanges,
        e.request = .other (ControlPlaneRequest.delete Sample.role.address) := by
  refine ⟨rfl, by decide, rfl, Sample.life, ?_, ?_⟩
  · exact ⟨_, List.mem_cons_self, rfl⟩
  · exact ⟨_, List.mem_cons_of_mem _ List.mem_cons_self, rfl⟩

end BrokerHarness
