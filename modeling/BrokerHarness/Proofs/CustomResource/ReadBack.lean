import BrokerHarness.CustomResource.Address
import BrokerHarness.CustomResource.Broker
import BrokerHarness.Proofs.Object.Manifest
import BrokerHarness.Resource.Basic

/-!
# Typed resources that are written and read back

What is not set in a typed resource is omitted when it is written, and is restored when it is read.
So writing loses nothing: every typed value is read back from what is written of it.  The proof goes
along the structures: one lemma for each, which goes through the members in the order of their
declaration.

Metadata and moments are read back only if they have a written form of their own
(`ObjectMetadata.ReadsBack`, `Timestamp.ReadsBack`); a fraction of a second in metadata has none,
for example.  This is assumed of the values that hold some.
-/

namespace BrokerHarness

open Json

/-! ### The desired state of a broker -/

/-- A map without entries is omitted. -/
lemma TextMap.toJsonUnlessEmpty_eq (m : TextMap) :
    m.toJsonUnlessEmpty = if m.isEmpty then none else some m.toJson := rfl

/-- There is only one map without entries. -/
lemma TextMap.eq_empty_of_isEmpty {m : TextMap} (h : m.isEmpty = true) : empty = m := by
  obtain ⟨entries, ascending⟩ := m
  obtain rfl := List.isEmpty_iff.mp h
  rfl

lemma Storage.roundTrips (s : Storage) : RoundTrips ofJson? toJson s where
  read_write := by
    unfold ofJson? toJson
    rw [record?_ofPresent_bind]
    refine optional_bind_eq s.size (by simp [written]) (fun x _ => roundTrips_string x) ?_
    refine optional_bind_eq s.storageClassName (by simp [written])
      (fun x _ => roundTrips_string x) ?_
    rfl
  ne_null := ofPresent_ne_null _

/-- An amount that is omitted is read as no amount. -/
lemma ResourceRequirements.roundTrips (r : ResourceRequirements) :
    RoundTrips ofJson? toJson r where
  read_write := by
    unfold ofJson? toJson
    rw [record?_ofPresent_bind]
    refine withDefault_bind_eq r.limits r.limits.isEmpty
      (by simp [written, TextMap.toJsonUnlessEmpty_eq]) TextMap.eq_empty_of_isEmpty
      r.limits.ofJson?_toJson ?_
    refine withDefault_bind_eq r.requests r.requests.isEmpty
      (by simp [written, TextMap.toJsonUnlessEmpty_eq]) TextMap.eq_empty_of_isEmpty
      r.requests.ofJson?_toJson ?_
    rfl
  ne_null := ofPresent_ne_null _

lemma DeploymentPlan.roundTrips (p : DeploymentPlan) : RoundTrips ofJson? toJson p where
  read_write := by
    unfold ofJson? toJson
    rw [record?_ofPresent_bind]
    refine optional_bind_eq p.size (by simp [written]) (fun x _ => roundTrips_int32 x) ?_
    refine optional_bind_eq p.image (by simp [written]) (fun x _ => roundTrips_string x) ?_
    refine optional_bind_eq p.persistenceEnabled (by simp [written])
      (fun x _ => roundTrips_bool x) ?_
    refine optional_bind_eq p.storage (by simp [written]) (fun x _ => x.roundTrips) ?_
    refine optional_bind_eq p.resources (by simp [written]) (fun x _ => x.roundTrips) ?_
    refine optional_bind_eq p.requireLogin (by simp [written]) (fun x _ => roundTrips_bool x) ?_
    refine optional_bind_eq p.messageMigration (by simp [written])
      (fun x _ => roundTrips_bool x) ?_
    rfl
  ne_null := ofPresent_ne_null _

lemma Acceptor.roundTrips (a : Acceptor) : RoundTrips ofJson? toJson a where
  read_write := by
    unfold ofJson? toJson
    rw [record?_ofPresent_bind]
    refine required_bind_eq a.name (by simp [written]) (roundTrips_string a.name).read_write ?_
    refine optional_bind_eq a.protocols (by simp [written]) (fun x _ => roundTrips_string x) ?_
    refine optional_bind_eq a.port (by simp [written]) (fun x _ => roundTrips_int32 x) ?_
    refine optional_bind_eq a.expose (by simp [written]) (fun x _ => roundTrips_bool x) ?_
    refine optional_bind_eq a.sslEnabled (by simp [written]) (fun x _ => roundTrips_bool x) ?_
    refine optional_bind_eq a.sslSecret (by simp [written]) (fun x _ => roundTrips_string x) ?_
    refine optional_bind_eq a.needClientAuth (by simp [written]) (fun x _ => roundTrips_bool x) ?_
    rfl
  ne_null := ofPresent_ne_null _

lemma Console.roundTrips (c : Console) : RoundTrips ofJson? toJson c where
  read_write := by
    unfold ofJson? toJson
    rw [record?_ofPresent_bind]
    refine optional_bind_eq c.expose (by simp [written]) (fun x _ => roundTrips_bool x) ?_
    refine optional_bind_eq c.sslEnabled (by simp [written]) (fun x _ => roundTrips_bool x) ?_
    refine optional_bind_eq c.sslSecret (by simp [written]) (fun x _ => roundTrips_string x) ?_
    rfl
  ne_null := ofPresent_ne_null _

lemma EnvVar.roundTrips (e : EnvVar) : RoundTrips ofJson? toJson e where
  read_write := by
    unfold ofJson? toJson
    rw [record?_ofPresent_bind]
    refine required_bind_eq e.name (by simp [written]) (roundTrips_string e.name).read_write ?_
    refine optional_bind_eq e.value (by simp [written]) (fun x _ => roundTrips_string x) ?_
    rfl
  ne_null := ofPresent_ne_null _

/-- A list that is empty is omitted, and what is missing is read as the empty list. -/
lemma BrokerSpec.roundTrips (s : BrokerSpec) : RoundTrips ofJson? toJson s where
  read_write := by
    unfold ofJson? toJson
    rw [record?_ofPresent_bind]
    refine optional_bind_eq s.deploymentPlan (by simp [written]) (fun x _ => x.roundTrips) ?_
    refine withDefault_nil_bind_eq s.acceptors (by simp [written])
      (fun x _ => x.roundTrips.read_write) ?_
    refine optional_bind_eq s.console (by simp [written]) (fun x _ => x.roundTrips) ?_
    refine withDefault_nil_bind_eq s.env (by simp [written])
      (fun x _ => x.roundTrips.read_write) ?_
    refine withDefault_nil_bind_eq s.brokerProperties (by simp [written]; rfl)
      (fun x _ => (roundTrips_string x).read_write) ?_
    rfl
  ne_null := ofPresent_ne_null _

/-! ### The desired state of a broker address -/

lemma AddressSpec.roundTrips (s : AddressSpec) : RoundTrips ofJson? toJson s where
  read_write := by
    unfold ofJson? toJson
    rw [record?_ofPresent_bind]
    refine required_bind_eq s.addressName (by simp [written])
      (roundTrips_string s.addressName).read_write ?_
    refine optional_bind_eq s.queueName (by simp [written]) (fun x _ => roundTrips_string x) ?_
    refine optional_bind_eq s.routingType (by simp [written]) (fun x _ => roundTrips_string x) ?_
    refine optional_bind_eq s.removeFromBrokerOnDelete (by simp [written])
      (fun x _ => roundTrips_bool x) ?_
    rfl
  ne_null := ofPresent_ne_null _

/-! ### What is reported about a broker -/

/-- The moment is read back from its written form. -/
def Timestamp.ReadsBack (time : Timestamp) : Prop := read? time.text = some time

/-- The metadata is read back from what is written of it. -/
def ObjectMetadata.ReadsBack (m : ObjectMetadata) : Prop := ofJson? m.toJson = some m

lemma ConditionStatus.roundTrips (s : ConditionStatus) :
    RoundTrips ofJson? (fun s => .string s.text) s :=
  ⟨s.ofText?_text, nofun⟩

/-- A moment whose text is read as this moment is written as that text. -/
lemma Timestamp.ReadsBack.roundTrips {time : Timestamp} (h : time.ReadsBack) :
    RoundTrips (fun v => v.string?.bind Timestamp.read?) (fun time => .string time.text) time where
  read_write := by
    have hread : Timestamp.read? time.text = some time := h
    rw [string?, Option.bind_some, hread]
  ne_null := by simp

/-- A condition is read back as far as its moment is. -/
lemma Condition.roundTrips (c : Condition) (htime : ∀ time ∈ c.lastTransitionTime, time.ReadsBack) :
    RoundTrips ofJson? toJson c where
  read_write := by
    unfold ofJson? toJson
    rw [ofFields_eq_ofPresent, record?_ofPresent_bind]
    refine required_bind_eq c.type (by simp [written]) (roundTrips_string c.type).read_write ?_
    refine required_bind_eq c.status (by simp [written]) c.status.roundTrips.read_write ?_
    refine optional_orNull_bind_eq c.reason (by simp [written]) (fun x _ => roundTrips_string x) ?_
    refine optional_orNull_bind_eq c.message (by simp [written])
      (fun x _ => roundTrips_string x) ?_
    refine optional_orNull_bind_eq c.lastTransitionTime (by simp [written])
      (fun x hx => (htime x hx).roundTrips) ?_
    refine optional_orNull_bind_eq c.observedGeneration (by simp [written])
      (fun x _ => roundTrips_int64 x) ?_
    rfl
  ne_null := nofun

/-- A status is read back as far as the moments of its conditions are. -/
lemma BrokerStatus.roundTrips (s : BrokerStatus)
    (htime : ∀ c ∈ s.conditions, ∀ time ∈ c.lastTransitionTime, time.ReadsBack) :
    RoundTrips ofJson? toJson s where
  read_write := by
    have hconditions : listOf? Condition.ofJson? (.array (s.conditions.map Condition.toJson)) =
        some s.conditions := listOf?_array fun c hc => (c.roundTrips (htime c hc)).read_write
    unfold ofJson? toJson
    rw [ofFields_eq_ofPresent, record?_ofPresent_bind]
    refine withDefault_bind_eq s.conditions false (by simp [written]) nofun hconditions ?_
    rfl
  ne_null := nofun

/-! ### Resources -/

/-- The metadata of the broker and the moments of its conditions are read back. -/
structure Broker.HasReadableTimes (b : Broker) : Prop where
  metadata : b.metadata.ReadsBack
  conditions : ∀ status ∈ b.status, ∀ c ∈ status.conditions, ∀ time ∈ c.lastTransitionTime,
    time.ReadsBack

/-- A broker is read back as far as its moments are. -/
lemma Broker.ofJson?_toJson {b : Broker} (h : b.HasReadableTimes) : ofJson? b.toJson = some b := by
  unfold ofJson? toJson
  rw [record?_ofPresent_bind]
  refine required_bind_eq b.metadata (by simp [written]) h.metadata ?_
  refine required_bind_eq b.spec (by simp [written]) b.spec.roundTrips.read_write ?_
  refine optional_bind_eq b.status (by simp [written])
    (fun x hx => x.roundTrips (h.conditions x hx)) ?_
  rfl

/-- An address is read back as far as the moments of its metadata are. -/
lemma BrokerAddress.ofJson?_toJson {a : BrokerAddress} (h : a.metadata.ReadsBack) :
    ofJson? a.toJson = some a := by
  unfold ofJson? toJson
  rw [ofFields_eq_ofPresent, record?_ofPresent_bind]
  refine required_bind_eq a.metadata (by simp [written]) h ?_
  refine required_bind_eq a.spec (by simp [written]) a.spec.roundTrips.read_write ?_
  rfl

/-! ### Manifests -/

/-- What is written of a broker is an object of the kind of brokers with its metadata. -/
lemma Broker.isObjectOf (b : Broker) :
    b.toJson.IsObjectOf ObjectKind.broker.apiVersion ObjectKind.broker.name b.metadata := by
  unfold toJson
  constructor <;> rw [get?_ofPresent] <;> simp [written]

/-- What is written of an address is an object of the kind of addresses with its metadata. -/
lemma BrokerAddress.isObjectOf (a : BrokerAddress) :
    a.toJson.IsObjectOf ObjectKind.brokerAddress.apiVersion ObjectKind.brokerAddress.name
      a.metadata := by
  unfold toJson
  rw [ofFields_eq_ofPresent]
  constructor <;> rw [get?_ofPresent] <;> simp [written]

/-- What is desired of an object of a kind under metadata is the body as it is, under the name and
in the namespace of the metadata; without a name there is no manifest. -/
structure IsDesiredUnder (kind : ObjectKind) (m : ObjectMetadata) (body : Json)
    (desired : Except Failure Manifest) : Prop where
  named : ∀ name, m.name = some name → name ≠ "" → desired = .ok ⟨kind, m.ns, name, body⟩
  nameless : m.name.getD "" = "" → desired = .error (.badManifest (.missing ["metadata", "name"]))

/-- Of an object with metadata there is a manifest exactly if the metadata has a name, and it holds
the object as it is. -/
lemma Json.IsObjectOf.isDesiredUnder {body : Json} {m : ObjectMetadata} {kind : ObjectKind}
    (h : body.IsObjectOf kind.apiVersion kind.name m) (hversion : kind.apiVersion ≠ "")
    (hname : kind.name ≠ "") :
    IsDesiredUnder kind m body ((Manifest.ofBody body).map (·.asKind kind)) where
  named name hnamed hne := by
    rw [Manifest.ofBody_eq_ok h hversion hname hnamed hne]
    rfl
  nameless hnameless := by
    rw [Manifest.ofBody_eq_error h hversion hname hnameless]
    rfl

/-- A manifest of an object under metadata holds the body as it is. -/
lemma IsDesiredUnder.body_eq {kind : ObjectKind} {m : ObjectMetadata} {body : Json}
    {desired : Except Failure Manifest} {manifest : Manifest}
    (h : IsDesiredUnder kind m body desired) (hmanifest : desired = .ok manifest) :
    manifest.body = body := by
  by_cases hname : m.name.getD "" = ""
  · rw [h.nameless hname] at hmanifest
    cases hmanifest
  · cases hnamed : m.name with
    | none => simp [hnamed] at hname
    | some name =>
      rw [hnamed, Option.getD_some] at hname
      rw [h.named name hnamed hname] at hmanifest
      rw [← Except.ok.inj hmanifest]

/-! ### What is read back -/

/-- A spec that was written is read as it was. -/
lemma Resource.typedSpec_withSpec {α : Type} {read : Json → Option α} {write : α → Json} {s : α}
    (h : RoundTrips read write s) (r : Resource) :
    (r.withSpec (write s)).typedSpec read = .ok s := by
  have hspec : (r.withSpec (write s)).spec = write s := rfl
  unfold typedSpec
  rw [hspec, h.read_write]

/-- A desired state that is set on a resource is read from it as it was set.  The manifest of a
broker or of a broker address is made under the kind, the name and the namespace, needs nothing but
a name, and its body is read as the broker or the address that it was made of.  And reading what was
written of a value that was read gives this value again.  What holds metadata or moments is assumed
to hold such as are read back themselves. -/
theorem typed_resources_read_back :
    (∀ (r : Resource) (s : BrokerSpec),
      (r.withSpec s.toJson).typedSpec BrokerSpec.ofJson? = .ok s) ∧
    (∀ (r : Resource) (s : AddressSpec),
      (r.withSpec s.toJson).typedSpec AddressSpec.ofJson? = .ok s) ∧
    (∀ b : Broker, IsDesiredUnder .broker b.metadata b.toJson b.desired ∧
      (b.HasReadableTimes → ∀ manifest, b.desired = .ok manifest →
        Broker.ofJson? manifest.body = some b)) ∧
    (∀ a : BrokerAddress, IsDesiredUnder .brokerAddress a.metadata a.toJson a.desired ∧
      (a.metadata.ReadsBack → ∀ manifest, a.desired = .ok manifest →
        BrokerAddress.ofJson? manifest.body = some a)) ∧
    (∀ v : Json,
      ((BrokerSpec.ofJson? v).bind fun s => BrokerSpec.ofJson? s.toJson) =
        BrokerSpec.ofJson? v ∧
      ((AddressSpec.ofJson? v).bind fun s => AddressSpec.ofJson? s.toJson) =
        AddressSpec.ofJson? v ∧
      ((∀ b, Broker.ofJson? v = some b → b.HasReadableTimes) →
        ((Broker.ofJson? v).bind fun b => Broker.ofJson? b.toJson) = Broker.ofJson? v) ∧
      ((∀ a, BrokerAddress.ofJson? v = some a → a.metadata.ReadsBack) →
        ((BrokerAddress.ofJson? v).bind fun a => BrokerAddress.ofJson? a.toJson) =
          BrokerAddress.ofJson? v)) := by
  refine ⟨fun r s => Resource.typedSpec_withSpec s.roundTrips r,
    fun r s => Resource.typedSpec_withSpec s.roundTrips r, fun b => ?_, fun a => ?_,
    fun v => ⟨?_, ?_, ?_, ?_⟩⟩
  · have hdesired : IsDesiredUnder .broker b.metadata b.toJson b.desired :=
      b.isObjectOf.isDesiredUnder (by decide) (by decide)
    refine ⟨hdesired, fun htimes manifest hmanifest => ?_⟩
    rw [hdesired.body_eq hmanifest]
    exact Broker.ofJson?_toJson htimes
  · have hdesired : IsDesiredUnder .brokerAddress a.metadata a.toJson a.desired :=
      a.isObjectOf.isDesiredUnder (by decide) (by decide)
    refine ⟨hdesired, fun hmetadata manifest hmanifest => ?_⟩
    rw [hdesired.body_eq hmanifest]
    exact BrokerAddress.ofJson?_toJson hmetadata
  · exact bind_read_eq fun s _ => s.roundTrips.read_write
  · exact bind_read_eq fun s _ => s.roundTrips.read_write
  · exact fun htimes => bind_read_eq fun b hb => Broker.ofJson?_toJson (htimes b hb)
  · exact fun hmetadata => bind_read_eq fun a ha => BrokerAddress.ofJson?_toJson (hmetadata a ha)

/-! ### A broker with moments -/

namespace ReadBack.Sample

def moment : Timestamp := ⟨1700000000, 0⟩

def metadata : ObjectMetadata where
  name := some "broker"
  ns := some "test"
  creationTimestamp := some moment

def spec : BrokerSpec where
  deploymentPlan := some {
    size := some 2
    resources := some { limits := .ofList [("cpu", "1"), ("memory", "2Gi")] } }
  acceptors := [{ name := "amqp", port := some 5672 }]

def condition : Condition where
  type := "Ready"
  status := .holds
  lastTransitionTime := some moment

def broker : Broker := { metadata, spec, status := some { conditions := [condition] } }

def address : BrokerAddress := { metadata, spec := { addressName := "orders" } }

lemma moment_readsBack : moment.ReadsBack := by
  unfold Timestamp.ReadsBack
  decide +kernel

lemma metadata_readsBack : metadata.ReadsBack := by
  unfold ObjectMetadata.ReadsBack
  decide +kernel

lemma broker_hasReadableTimes : broker.HasReadableTimes where
  metadata := metadata_readsBack
  conditions := by
    rintro status ⟨⟩ c hc time htime
    obtain rfl := List.mem_singleton.mp hc
    obtain rfl := Option.mem_some.mp htime
    exact moment_readsBack

end ReadBack.Sample

open ReadBack in
/-- A broker with a condition and moments in its metadata, and an address. -/
theorem typed_resources_read_back_with_moments :
    Sample.broker.HasReadableTimes ∧
      Sample.broker.desired = .ok ⟨.broker, some "test", "broker", Sample.broker.toJson⟩ ∧
      Broker.ofJson? Sample.broker.toJson = some Sample.broker ∧
      BrokerAddress.ofJson? Sample.address.toJson = some Sample.address := by
  obtain ⟨-, -, hbroker, haddress, -⟩ := typed_resources_read_back
  obtain ⟨hdesired, hread⟩ := hbroker Sample.broker
  have hmanifest : Sample.broker.desired =
      .ok ⟨.broker, some "test", "broker", Sample.broker.toJson⟩ :=
    hdesired.named "broker" rfl (by decide)
  obtain ⟨haddressDesired, haddressRead⟩ := haddress Sample.address
  have haddressManifest := haddressDesired.named "broker" rfl (by decide)
  exact ⟨Sample.broker_hasReadableTimes, hmanifest,
    hread Sample.broker_hasReadableTimes _ hmanifest,
    haddressRead Sample.metadata_readsBack _ haddressManifest⟩

end BrokerHarness
