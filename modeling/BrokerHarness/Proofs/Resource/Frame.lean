import BrokerHarness.Proofs.Confinement
import BrokerHarness.Proofs.FailingCalls
import BrokerHarness.Proofs.History
import BrokerHarness.Proofs.Resource.Readiness

/-!
# What the operations on resources touch

An operation on resources writes to the object that it is given, and to no other: a creation and an
update apply it once, a deletion deletes it once, and nothing else writes.  It looks at this object
only, or lists volume claims in its namespace.

An update finds the claims under what it reads from the object, and a wait looks the object up under
what the answer to the application carries.  So that only the object is looked at holds as long as
the cluster shows what it was asked for (`Exchange.IsFaithful`), whereas what is written does not
depend on it.

It follows that the operations cannot tell apart two clusters that agree on these requests, whatever
they show elsewhere.
-/

namespace BrokerHarness

/-! ### Operations -/

/-- An operation of the manager of resources, with its arguments. -/
inductive ResourceOperation where
  /-- An operation that fails if it does not reach its end. -/
  | ofCall (call : ResourceCall)
  /-- The wait that answers whether a condition was reported. -/
  | awaitCondition (resource : Resource) (expected : Expectation) (timeout : Nat)

namespace ResourceOperation

/-- What the operation gives if it succeeds. -/
def Result : ResourceOperation → Type
  | ofCall call => call.Result
  | awaitCondition .. => Bool

/-- What the operation does. -/
def action (provisioning : Provisioning) :
    (operation : ResourceOperation) → Action controlPlane.timed operation.Result
  | ofCall call => call.operation provisioning
  | awaitCondition resource expected timeout =>
    provisioning.awaitCondition resource expected timeout

/-- The object that the operation is about, if it is about one: an object that is created by its
name in the given namespace, and otherwise that of the resource. -/
def target : ResourceOperation → Option ObjectAddress
  | ofCall (.create ns manifest _) => some ⟨manifest.kind, some ns, manifest.name⟩
  | ofCall (.update resource _) | ofCall (.delete resource) | ofCall (.refresh resource)
  | ofCall (.requireCondition resource _ _) | ofCall (.awaitRemoval resource _)
  | awaitCondition resource _ _ => some resource.address
  | ofCall (.listByStem ..) => none

/-- What the operation writes. -/
def writes : ResourceOperation → List ControlPlaneRequest
  | ofCall (.create ns manifest _) => [.apply (manifest.movedTo ns)]
  | ofCall (.update resource _) => [.apply resource.desired]
  | ofCall (.delete resource) => [.delete resource.address]
  | ofCall (.refresh _) | ofCall (.requireCondition ..) | ofCall (.awaitRemoval ..)
  | ofCall (.listByStem ..) | awaitCondition .. => []

/-- What the operation may look at. -/
inductive LooksAt : ResourceOperation → ControlPlaneRequest → Prop where
  /-- The object that it is about. -/
  | target {operation : ResourceOperation} {kind : ObjectKind} {ns name : String}
      (h : operation.target = some ⟨kind, some ns, name⟩) : LooksAt operation (.get kind ns name)
  /-- The volume claims in the namespace of an object that is updated. -/
  | claims {resource : Resource} {options : WaitOptions} :
      LooksAt (.ofCall (.update resource options))
        (.list .persistentVolumeClaim resource.ns (Label.volumeClaimStem resource.name))
  /-- The list that it is asked for. -/
  | listed {kind : ObjectKind} {ns stem : String} :
      LooksAt (.ofCall (.listByStem kind ns stem)) (.list kind ns stem)

/-- What the operation may ask of the cluster. -/
def MayAsk (operation : ResourceOperation) (q : ControlPlaneRequest) : Prop :=
  q ∈ operation.writes ∨ operation.LooksAt q

end ResourceOperation

/-- The manager of resources, as an interface: its operations, and what they give. -/
def resourceManager : Interface :=
  ⟨ResourceOperation, fun operation => Except Failure operation.Result⟩

/-- Carries out an operation. -/
def Provisioning.perform (provisioning : Provisioning) (operation : resourceManager.Request) :
    Program controlPlane.timed (resourceManager.Answer operation) :=
  (ResourceOperation.action provisioning operation).run

/-! ### Faithful answers -/

/-- An answer that shows an object shows the one that was asked for: an object that is applied is
answered under the address of the manifest, and one that is looked up under kind, namespace and
name. -/
def Exchange.IsFaithful : Exchange controlPlane → Prop
  | ⟨.apply manifest, x⟩ => ∀ snapshot, x = .ok snapshot → snapshot.address = manifest.address
  | ⟨.get kind ns name, x⟩ =>
    ∀ snapshot, x = .ok (some snapshot) → snapshot.address = ⟨kind, some ns, name⟩
  | ⟨.delete _, _⟩ | ⟨.list .., _⟩ => True

/-! ### Writes -/

/-- The object that a request writes to, if it writes. -/
def ControlPlaneRequest.written : ControlPlaneRequest → Option ObjectAddress
  | apply manifest => some manifest.address
  | delete target => some target
  | get .. | list .. => none

/-- What an exchange writes, if it does. -/
def Exchange.write? (e : Exchange controlPlane.timed) : Option ControlPlaneRequest :=
  match e.request with
  | .other (ControlPlaneRequest.apply manifest) => some (.apply manifest)
  | .other (ControlPlaneRequest.delete target) => some (.delete target)
  | _ => none

/-- What the exchanges of a run write, in their order. -/
def writesOf (t : List (Exchange controlPlane.timed)) : List ControlPlaneRequest :=
  t.filterMap Exchange.write?

/-- Look-ups write nothing. -/
lemma writesOf_eq_nil {t : List (Exchange controlPlane.timed)}
    (h : ∀ e ∈ t, TimedRequest.Within ControlPlaneRequest.IsLookup e.request) :
    writesOf t = [] := by
  refine List.filterMap_eq_nil_iff.mpr fun e he => ?_
  have hlookup := h e he
  unfold Exchange.write?
  split
  · next hrequest => rw [hrequest] at hlookup; exact hlookup.elim
  · next hrequest => rw [hrequest] at hlookup; exact hlookup.elim
  · rfl

/-- An operation writes to the object that it is about. -/
lemma ResourceOperation.written_of_mem_writes {operation : ResourceOperation}
    {q : ControlPlaneRequest} (h : q ∈ operation.writes) : q.written = operation.target := by
  cases operation with
  | awaitCondition => cases h
  | ofCall call =>
    cases call with
    | create | update | delete =>
      obtain rfl := List.mem_singleton.mp h
      rfl
    | refresh | requireCondition | awaitRemoval | listByStem => cases h

/-- A run that begins with a write and only looks behind it, writes nothing else. -/
lemma Action.BeginsWith.writesOf_eq {α : Type} {action : Action controlPlane.timed α}
    {q : ControlPlaneRequest} {r : Except Failure α} {t : List (Exchange controlPlane.timed)}
    (h : action.BeginsWith (I := controlPlane.timed) (.other q)
      (TimedRequest.Within ControlPlaneRequest.IsLookup))
    (hwrite : q.written ≠ none) (run : action.Yields t r) : writesOf t = [q] := by
  obtain ⟨x, rest, rfl, hrest⟩ := h t r run
  have hfirst : Exchange.write? ⟨.other q, x⟩ = some q := by
    cases q with
    | apply manifest => rfl
    | delete target => rfl
    | get | list => exact absurd rfl hwrite
  unfold writesOf
  rw [List.filterMap_cons_some hfirst, List.cons_inj_right]
  exact writesOf_eq_nil hrest

namespace Provisioning

variable {provisioning : Provisioning} {resource : Resource} {expected : Expectation}
  {manifest : Manifest} {options : WaitOptions} {timeout : Nat}

/-! ### What is looked at -/

section LookUps

variable {kind : ObjectKind} {ns name : String}

lemma get_asks :
    (ControlPlane.get kind ns name).AsksOnly (· = ControlPlaneRequest.get kind ns name) := by
  intro t r h
  obtain rfl := ControlPlane.get_yields_iff.mp h
  exact List.forall_mem_singleton.mpr rfl

lemma list_asks :
    (ControlPlane.list kind ns name).AsksOnly (· = ControlPlaneRequest.list kind ns name) := by
  intro t r h
  obtain rfl := ControlPlane.list_yields_iff.mp h
  exact List.forall_mem_singleton.mpr rfl

lemma delete_asks {target : ObjectAddress} :
    (ControlPlane.delete target).AsksOnly (· = ControlPlaneRequest.delete target) := by
  intro t r h
  obtain rfl := ControlPlane.delete_yields_iff.mp h
  exact List.forall_mem_singleton.mpr rfl

/-- A look at the readiness of an object looks up this object only. -/
lemma observeReadiness_asks :
    (observeReadiness kind ns name).AsksOnly (· = ControlPlaneRequest.get kind ns name) := by
  refine get_asks.bind fun found => ?_
  cases found with
  | none => exact Action.asksOnly_pure _
  | some snapshot => exact Action.asksOnly_ofExcept _

end LookUps

/-- The look-up of a resource. -/
def lookUpOf (resource : Resource) : ControlPlaneRequest :=
  .get resource.kind resource.ns resource.name

/-- A refresh looks up its own object only. -/
lemma refresh_asks : (refresh resource).AsksOnly (· = lookUpOf resource) := by
  refine get_asks.bind fun found => ?_
  cases found with
  | none => exact Action.asksOnly_throw _
  | some snapshot => exact Action.asksOnly_ofExcept _

/-- A look at a condition of a resource looks up this resource only. -/
lemma observeCondition_asks :
    (observeCondition resource expected).AsksOnly (· = lookUpOf resource) := by
  have hlook : (ControlPlane.statusConditions resource.kind resource.ns resource.name).AsksOnly
      (· = lookUpOf resource) := by
    refine get_asks.bind fun found => ?_
    cases found with
    | none => exact Action.asksOnly_pure _
    | some snapshot => exact (Action.asksOnly_ofExcept _).bind fun _ => Action.asksOnly_pure _
  refine hlook.bind fun found => ?_
  cases found with
  | none => exact Action.asksOnly_pure _
  | some conditions =>
    dsimp only
    split <;> exact Action.asksOnly_pure _

lemma observeRemoval_asks : (observeRemoval resource).AsksOnly (· = lookUpOf resource) :=
  (get_asks.bind fun _ => Action.asksOnly_pure _).bind fun _ => Action.asksOnly_pure _

/-- The wait for a condition looks up its own object only, besides the clock. -/
lemma awaitCondition_asks :
    Action.AsksOnly (I := controlPlane.timed) (TimedRequest.Within (· = lookUpOf resource))
      (provisioning.awaitCondition resource expected timeout) := by
  refine Action.AsksOnly.tryCatch ?_ fun failure => ?_
  · exact (poll_asksOnly observeCondition_asks).bind fun _ => Action.asksOnly_pure _
  · split
    · exact Action.asksOnly_pure _
    · exact Action.asksOnly_throw _

/-- The claims are listed in the namespace of the snapshot, by the stem of its name. -/
lemma unresizedClaims_asks (snapshot : Snapshot) :
    (unresizedClaims snapshot).AsksOnly
      (· = ControlPlaneRequest.list .persistentVolumeClaim (snapshot.scope.getD "")
        (Label.volumeClaimStem snapshot.name)) := by
  unfold unresizedClaims
  split
  · exact Action.asksOnly_pure _
  split
  · exact Action.asksOnly_pure _
  · exact list_asks.bind fun _ => Action.asksOnly_pure _

/-! ### What is asked under faithful answers -/

/-- A faithful answer to an application shows the object that was applied. -/
lemma apply_confined : (ControlPlane.apply manifest).Confined Exchange.IsFaithful
    (· = ControlPlaneRequest.apply manifest)
    (fun snapshot => snapshot.address = manifest.address) := by
  intro t r h hfaithful
  obtain rfl := ControlPlane.apply_yields_iff.mp h
  exact ⟨List.forall_mem_singleton.mpr rfl, List.forall_mem_singleton.mp hfaithful⟩

/-- A manifest is applied and looked up under its own address, and so is what is read then. -/
lemma submit_confined {operation : ResourceOperation} {ns : String} (defaultTimeout : Nat)
    (hwrites : ControlPlaneRequest.apply manifest ∈ operation.writes)
    (htarget : operation.target = some manifest.address) (hscope : manifest.scope = some ns) :
    Action.Confined (I := controlPlane.timed) (TrustedTimed Exchange.IsFaithful)
      (TimedRequest.Within operation.MayAsk) (fun snapshot => snapshot.address = manifest.address)
      (provisioning.submit manifest options defaultTimeout) := by
  have haddress : manifest.address = ⟨manifest.kind, some ns, manifest.name⟩ := by
    rw [← hscope]
    rfl
  have happlying : Action.Confined (I := controlPlane.timed) (TrustedTimed Exchange.IsFaithful)
      (TimedRequest.Within operation.MayAsk) (fun snapshot => snapshot.address = manifest.address)
      (ControlPlane.apply manifest).timed := by
    refine apply_confined.timed.mono fun _ => TimedRequest.Within.mono ?_
    rintro _ rfl
    exact .inl hwrites
  refine happlying.bind fun applied happlied => ?_
  split
  · have hseen : applied.address = ⟨manifest.kind, some ns, manifest.name⟩ :=
      happlied.trans haddress
    have hkind : applied.kind = manifest.kind := congrArg ObjectAddress.kind hseen
    have hns : applied.scope = some ns := congrArg ObjectAddress.scope hseen
    have hname : applied.name = manifest.name := congrArg ObjectAddress.name hseen
    unfold awaitReadiness
    rw [hkind, hns, hname, Option.getD_some]
    refine Action.poll_confined (observeReadiness_asks.mono ?_) ?_
    · rintro q rfl
      exact .inr (.target (htarget.trans (congrArg some haddress)))
    · intro asked snapshot hasked hfaithful
      obtain ⟨rfl, -⟩ := observeReadiness_yields_reached hasked
      have hlast := List.forall_mem_singleton.mp hfaithful snapshot rfl
      exact hlast.trans haddress.symm
  · exact Action.confined_pure happlied

/-- As long as answers are faithful, an operation asks what it may ask. -/
lemma action_confined (provisioning : Provisioning) (operation : ResourceOperation) :
    Action.Confined (I := controlPlane.timed) (TrustedTimed Exchange.IsFaithful)
      (TimedRequest.Within operation.MayAsk) (fun _ => True) (operation.action provisioning) := by
  cases operation with
  | awaitCondition resource expected timeout =>
    exact (awaitCondition_asks.within (.inr (.target rfl))).confined
  | ofCall call =>
    cases call with
    | create ns manifest options =>
      refine (submit_confined _ (List.mem_singleton.mpr rfl) rfl rfl).bind fun snapshot _ => ?_
      exact (Action.asksOnly_ofExcept _).confined
    | update resource options =>
      refine (submit_confined _ (List.mem_singleton.mpr rfl) rfl rfl).bind fun snapshot hseen => ?_
      have hns : snapshot.scope = some resource.ns := congrArg ObjectAddress.scope hseen
      have hname : snapshot.name = resource.name := congrArg ObjectAddress.name hseen
      have hclaims := unresizedClaims_asks snapshot
      rw [hns, hname] at hclaims
      refine ((hclaims.timed.within (.inr .claims)).bind fun _ => ?_).confined
      exact (Action.asksOnly_ofExcept _).bind fun _ => Action.asksOnly_pure _
    | delete resource =>
      exact (delete_asks.timed.within (.inl (List.mem_singleton.mpr rfl))).confined
    | refresh resource => exact (refresh_asks.timed.within (.inr (.target rfl))).confined
    | requireCondition resource expected timeout =>
      exact ((poll_asksOnly observeCondition_asks).within (.inr (.target rfl))).confined
    | awaitRemoval resource timeout =>
      exact ((poll_asksOnly observeRemoval_asks).within (.inr (.target rfl))).confined
    | listByStem kind ns stem => exact (list_asks.timed.within (.inr .listed)).confined

/-! ### What is written -/

/-- A submission begins with its application, and does not write behind it. -/
lemma submit_beginsWith (provisioning : Provisioning) (manifest : Manifest)
    (options : WaitOptions) (defaultTimeout : Nat) :
    Action.BeginsWith (I := controlPlane.timed) (.other (ControlPlaneRequest.apply manifest))
      (TimedRequest.Within ControlPlaneRequest.IsLookup)
      (provisioning.submit manifest options defaultTimeout) := by
  have happly : Action.BeginsWith (I := controlPlane.timed)
      (.other (ControlPlaneRequest.apply manifest))
      (TimedRequest.Within ControlPlaneRequest.IsLookup) (ControlPlane.apply manifest).timed := by
    intro t r h
    obtain ⟨asked, rfl, hasked⟩ := Action.yields_timed_iff.mp h
    obtain rfl := ControlPlane.apply_yields_iff.mp hasked
    exact ⟨r, [], rfl, by simp⟩
  refine happly.bind fun applied => ?_
  split
  · exact (poll_asksOnly observeReadiness_asks).within trivial
  · exact Action.asksOnly_pure _

/-- Every run of an operation writes what the operation writes, whatever it is answered. -/
lemma writesOf_action {operation : ResourceOperation} {t : List (Exchange controlPlane.timed)}
    {r : Except Failure operation.Result} (run : (operation.action provisioning).Yields t r) :
    writesOf t = operation.writes := by
  cases operation with
  | awaitCondition resource expected timeout =>
    exact writesOf_eq_nil ((awaitCondition_asks.within trivial) t r run)
  | ofCall call =>
    cases call with
    | create ns manifest options =>
      have hbegins := (submit_beginsWith provisioning (manifest.movedTo ns) options
        provisioning.readyTimeout).bind fun snapshot =>
          Action.asksOnly_ofExcept (Resource.ofSnapshot snapshot)
      exact hbegins.writesOf_eq (by simp [ControlPlaneRequest.written]) run
    | update resource options =>
      have hbegins := (submit_beginsWith provisioning resource.desired options
        provisioning.updateTimeout).bind fun snapshot =>
          ((unresizedClaims_asks snapshot).timed.within trivial).bind fun claims =>
            (Action.asksOnly_ofExcept (Resource.ofSnapshot snapshot)).bind fun read =>
              Action.asksOnly_pure (Update.mk read claims)
      exact hbegins.writesOf_eq (by simp [ControlPlaneRequest.written]) run
    | delete resource =>
      obtain ⟨asked, rfl, hasked⟩ := Action.yields_timed_iff.mp run
      obtain rfl := ControlPlane.delete_yields_iff.mp hasked
      rfl
    | refresh resource => exact writesOf_eq_nil ((refresh_asks.timed.within trivial) t r run)
    | requireCondition resource expected timeout =>
      exact writesOf_eq_nil (((poll_asksOnly observeCondition_asks).within trivial) t r run)
    | awaitRemoval resource timeout =>
      exact writesOf_eq_nil (((poll_asksOnly observeRemoval_asks).within trivial) t r run)
    | listByStem kind ns stem =>
      exact writesOf_eq_nil ((list_asks.timed.within trivial) t r run)

end Provisioning

/-! ### Sequences of operations -/

/-- The exchanges of one operation of a sequence: they write what the operation writes, in its
order, and as long as the answers are faithful they ask only what it may ask. -/
structure Framed (operation : ResourceOperation) (piece : List (Exchange controlPlane.timed)) :
    Prop where
  writes : writesOf piece = operation.writes
  asks : (∀ e ∈ piece, TrustedTimed Exchange.IsFaithful e) →
    ∀ e ∈ piece, TimedRequest.Within operation.MayAsk e.request

/-- What the operations of a sequence may ask of the cluster. -/
def MayAskFor (asked : List (Exchange resourceManager)) (q : ControlPlaneRequest) : Prop :=
  ∃ e ∈ asked, ResourceOperation.MayAsk e.request q

namespace Provisioning

variable {provisioning : Provisioning} {asked : List (Exchange resourceManager)}
  {t : List (Exchange controlPlane.timed)}

/-- The exchanges of a sequence are those of its operations, one after the other, each in its frame.
-/
lemma exists_framed (h : Program.Interpreted provisioning.perform asked t) :
    ∃ pieces, t = pieces.flatten ∧
      List.Forall₂ (fun e piece => Framed e.request piece) asked pieces := by
  obtain ⟨pieces, rfl, hpieces⟩ := h.exists_pieces
  refine ⟨pieces, rfl, hpieces.imp fun e piece run => ⟨writesOf_action run, fun hfaithful => ?_⟩⟩
  exact (action_confined provisioning e.request piece _ run hfaithful).1

/-- What a sequence writes, its operations write, one after the other. -/
lemma writesOf_eq_flatMap (h : Program.Interpreted provisioning.perform asked t) :
    writesOf t = asked.flatMap fun e => ResourceOperation.writes e.request := by
  induction h with
  | nil => rfl
  | cons head rest ih =>
    unfold writesOf at ih ⊢
    rw [List.filterMap_append, List.flatMap_cons, ih]
    exact congrArg (· ++ _) (writesOf_action head)

/-- As long as the answers are faithful, a sequence asks only what its operations may ask. -/
lemma mayAskFor_of_faithful (h : Program.Interpreted provisioning.perform asked t)
    (hfaithful : ∀ e ∈ t, TrustedTimed Exchange.IsFaithful e) :
    ∀ e ∈ t, TimedRequest.Within (MayAskFor asked) e.request := by
  induction h with
  | nil => simp
  | @cons operation x asked t₁ t₂ head rest ih =>
    obtain ⟨hfirst, hbehind⟩ := List.forall_mem_append.mp hfaithful
    have hasks := (action_confined provisioning operation t₁ _ head hfirst).1
    refine List.forall_mem_append.mpr ⟨fun e he => (hasks e he).mono ?_, fun e he => ?_⟩
    · exact fun q hq => ⟨_, List.mem_cons_self, hq⟩
    · refine (ih hbehind e he).mono ?_
      rintro q ⟨later, hlater, hq⟩
      exact ⟨later, List.mem_cons_of_mem _ hlater, hq⟩

/-- Operations on resources, one after the other, write to the objects that they are given, each one
what it is to write and nothing else, and as long as the cluster shows what it was asked for they
look at these objects only.  So two clusters that agree on what the operations may ask give each of
them the same result, by the same exchanges. -/
theorem operations_keep_to_their_objects (provisioning : Provisioning) :
    (∀ asked t, Program.Interpreted provisioning.perform asked t →
      (∃ pieces, t = pieces.flatten ∧
        List.Forall₂ (fun e piece => Framed e.request piece) asked pieces) ∧
      ∀ q ∈ writesOf t, ∃ e ∈ asked,
        q ∈ ResourceOperation.writes e.request ∧
          q.written = ResourceOperation.target e.request) ∧
    ∀ (σ τ : Type) (f : (q : controlPlane.timed.Request) → σ → controlPlane.timed.Answer q × σ)
      (g : (q : controlPlane.timed.Request) → τ → controlPlane.timed.Answer q × τ)
      (related : σ → τ → Prop) (s : σ) (u : τ) (asked others : List (Exchange resourceManager))
      (t t' : List (Exchange controlPlane.timed)),
      Program.Interpreted provisioning.perform asked t → Program.Answered f s t →
      Program.Interpreted provisioning.perform others t' → Program.Answered g u t' →
      asked.map Exchange.request = others.map Exchange.request →
      (∀ e ∈ t, TrustedTimed Exchange.IsFaithful e) →
      Program.AgreeOn (TimedRequest.Within (MayAskFor asked)) related f g → related s u →
        asked = others ∧ t = t' := by
  refine ⟨fun asked t h => ⟨exists_framed h, ?_⟩, ?_⟩
  · intro q hq
    rw [writesOf_eq_flatMap h] at hq
    obtain ⟨e, he, hwrites⟩ := List.mem_flatMap.mp hq
    exact ⟨e, he, hwrites, ResourceOperation.written_of_mem_writes hwrites⟩
  · intro σ τ f g related s u asked others t t' h ht h' ht' hsame hfaithful hagree hrelated
    have hanswered : Program.Answered g u t :=
      hagree.answered hrelated ht (mayAskFor_of_faithful h hfaithful)
    exact h.eq_of_answered h' hsame hanswered ht'

end Provisioning

/-! ### Two clusters that differ elsewhere -/

namespace Framing.Sample

def manifest : Manifest := ⟨.broker, none, "broker", .object []⟩

def body : Json :=
  .object [("spec", .object [("deploymentPlan", .object [("storage", .object [
    ("size", .string "2Gi")])])])]

def broker : Resource := ⟨.broker, "test", "broker", .object [], [], some 1, body⟩

/-- A broker is created and then updated, without waiting for it. -/
def operations : List ResourceOperation :=
  [.ofCall (.create "test" manifest { awaitReady := false }),
    .ofCall (.update broker { awaitReady := false })]

/-- A cluster that holds a broker, and perhaps objects of every other name. -/
def cluster (crowded : Bool) : ClusterHistory where
  stored _ manifest := ⟨manifest.kind, manifest.scope, manifest.name, some 1, body⟩
  object _ kind ns name :=
    if name = "broker" ∨ crowded then some ⟨kind, some ns, name, some 1, body⟩ else none
  listed _ kind ns stem :=
    if kind ≠ .persistentVolumeClaim ∧ crowded then [⟨kind, some ns, stem, none, .object []⟩]
    else []

def surroundings (crowded : Bool) (q : controlPlane.timed.Request) (now : Nat) :
    controlPlane.timed.Answer q × Nat :=
  Program.onTime (cluster crowded).answer q now

/-- Both clusters answer about the objects that they are asked for. -/
lemma surroundings_faithful {crowded : Bool} {now : Nat} {t : List (Exchange controlPlane.timed)}
    (h : Program.Answered (surroundings crowded) now t) :
    ∀ e ∈ t, TrustedTimed Exchange.IsFaithful e := by
  induction t generalizing now with
  | nil => simp
  | cons e t ih =>
    refine List.forall_mem_cons.mpr ⟨?_, ih h.2⟩
    obtain ⟨q, x⟩ := e
    obtain rfl : (surroundings crowded q now).1 = x := h.1
    cases q with
    | clock since => trivial
    | sleep time => trivial
    | other q =>
      cases q with
      | apply manifest =>
        rintro snapshot hsnapshot
        cases hsnapshot
        rfl
      | get kind ns name =>
        intro snapshot hsnapshot
        have hshown : (cluster crowded).object now kind ns name = some snapshot :=
          Except.ok.inj hsnapshot
        simp only [cluster, Option.ite_none_right_eq_some, Option.some.injEq] at hshown
        obtain ⟨-, rfl⟩ := hshown
        rfl
      | delete target => trivial
      | list kind ns stem => trivial

/-- Both clusters show the same of what the operations may ask. -/
lemma answer_eq {operation : ResourceOperation} (hoperation : operation ∈ operations)
    {q : ControlPlaneRequest} (hmay : operation.MayAsk q) (now : Nat) :
    (cluster false).answer now q = (cluster true).answer now q := by
  have hbroker : operation.target = some ⟨.broker, some "test", "broker"⟩ := by
    obtain rfl | rfl : operation = _ ∨ operation = _ := by simpa [operations] using hoperation
    · rfl
    · rfl
  cases q with
  | apply manifest => rfl
  | delete target => rfl
  | get kind ns name =>
    obtain hwrites | hlooks := hmay
    · cases ResourceOperation.written_of_mem_writes hwrites ▸ hbroker
    · cases hlooks with
      | target htarget =>
        cases htarget.symm.trans hbroker
        rfl
  | list kind ns stem =>
    obtain hwrites | hlooks := hmay
    · cases ResourceOperation.written_of_mem_writes hwrites ▸ hbroker
    · cases hlooks with
      | claims => rfl
      | listed => cases hbroker

/-- Both clusters answer what the operations may ask in the same way. -/
lemma surroundings_agree {asked : List (Exchange resourceManager)}
    (hasked : asked.map Exchange.request = operations) :
    Program.AgreeOn (TimedRequest.Within (MayAskFor asked)) Eq (surroundings false)
      (surroundings true) := by
  rintro q now _ hq rfl
  cases q with
  | clock since => exact ⟨rfl, rfl⟩
  | sleep time => exact ⟨rfl, rfl⟩
  | other q =>
    obtain ⟨e, he, hmay⟩ := hq
    have hoperation : e.request ∈ operations := hasked ▸ List.mem_map_of_mem he
    exact ⟨answer_eq hoperation hmay now, rfl⟩

end Framing.Sample

open Framing in
/-- A broker is created and updated in the same way beside objects of every other name. -/
theorem same_results_in_crowded_cluster : ∃ asked t,
    asked.map Exchange.request = Sample.operations ∧
      Program.Interpreted Provisioning.Sample.provisioning.perform asked t ∧
      Program.Answered (Sample.surroundings false) 0 t ∧
      Program.Answered (Sample.surroundings true) 0 t := by
  obtain ⟨asked, t, hasked, run, ht⟩ := Program.exists_interpreted
    Provisioning.Sample.provisioning.perform (Sample.surroundings false) Sample.operations 0
  obtain ⟨others, t', hothers, run', ht'⟩ := Program.exists_interpreted
    Provisioning.Sample.provisioning.perform (Sample.surroundings true) Sample.operations 0
  obtain ⟨rfl, rfl⟩ :=
    (Provisioning.operations_keep_to_their_objects Provisioning.Sample.provisioning).2 Nat Nat
      (Sample.surroundings false) (Sample.surroundings true) Eq 0 0 asked others t t' run ht run'
      ht' (hasked.trans hothers.symm) (Sample.surroundings_faithful ht)
      (Sample.surroundings_agree hasked) rfl
  exact ⟨asked, t, hasked, run, ht, ht'⟩

end BrokerHarness
