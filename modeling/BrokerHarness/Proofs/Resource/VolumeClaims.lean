import BrokerHarness.Proofs.Resource.Frame
import BrokerHarness.Proofs.Resource.Snapshot
import Mathlib.Data.List.Nodup
import Mathlib.Data.Set.Function

/-!
# The volume claims of a broker

The name of a claim holds the name of its broker twice, and an ordinal.  Both can be read off it: no
digit is a dash, so the ordinal is what stands behind the last dash, and the length of the rest says
where the name of the broker ends (`Label.volumeClaim_injective`).

An update lists the objects whose names start like those of its broker's claims.  What a list
answers is taken from the objects that are on the cluster at that moment, an `Inventory`, in which
an address has at most one object.  So no name is reported twice, and a claim of the broker is
reported exactly if it asks for another size than the spec.
-/

namespace BrokerHarness

/-! ### Names of claims -/

namespace Label

/-- What stands in front of the last dash of a text, and what stands behind it. -/
lemma append_dash_inj {xs xs' ys ys' : List Char} (hys : '-' ∉ ys) (hys' : '-' ∉ ys')
    (h : xs ++ '-' :: ys = xs' ++ '-' :: ys') : xs = xs' ∧ ys = ys' := by
  rcases List.append_eq_append_iff.mp h with ⟨between, rfl, hright⟩ | ⟨between, rfl, hleft⟩
  · cases between with
    | nil => exact ⟨(List.append_nil xs).symm, (List.cons.inj hright).2⟩
    | cons c rest =>
      have hmem : '-' ∈ ys := by
        rw [(List.cons.inj hright).2]
        exact List.mem_append_right _ List.mem_cons_self
      exact absurd hmem hys
  · cases between with
    | nil => exact ⟨List.append_nil xs', (List.cons.inj hleft).2.symm⟩
    | cons c rest =>
      have hmem : '-' ∈ ys' := by
        rw [(List.cons.inj hleft).2]
        exact List.mem_append_right _ List.mem_cons_self
      exact absurd hmem hys'

/-- No digit of an ordinal is a dash. -/
lemma dash_notMem_toDigits (ordinal : ℕ) : '-' ∉ Nat.toDigits 10 ordinal := by
  intro hmem
  have hdigit := Nat.isDigit_of_mem_toDigits (by decide) (by decide) hmem
  exact absurd hdigit (by decide)

/-- The name of a claim has the name of its broker twice, and its ordinal behind the last dash. -/
lemma toList_volumeClaim (broker : String) (ordinal : ℕ) :
    (volumeClaim broker ordinal).toList =
      (broker.toList ++ '-' :: (broker.toList ++ ['-', 's', 's'])) ++
        '-' :: Nat.toDigits 10 ordinal := by
  simp [volumeClaim, volumeClaimStem, statefulSetEnding]

/-- Different brokers or ordinals make different names of claims. -/
lemma volumeClaim_injective :
    Function.Injective fun replica : String × ℕ => volumeClaim replica.1 replica.2 := by
  rintro ⟨broker, ordinal⟩ ⟨broker', ordinal'⟩ h
  have hlist := congrArg String.toList h
  simp only [toList_volumeClaim] at hlist
  obtain ⟨hset, hdigits⟩ := append_dash_inj (dash_notMem_toDigits ordinal)
    (dash_notMem_toDigits ordinal') hlist
  have hordinal : ordinal = ordinal' := by
    calc ordinal = Nat.ofDigitChars 10 (Nat.toDigits 10 ordinal) 0 :=
          Nat.ofDigitChars_ten_toDigits.symm
      _ = Nat.ofDigitChars 10 (Nat.toDigits 10 ordinal') 0 := by rw [hdigits]
      _ = ordinal' := Nat.ofDigitChars_ten_toDigits
  -- The name stands twice in what is left, so both names have the same length and the same place.
  have hlength : broker.toList.length = broker'.toList.length := by
    have hlengths := congrArg List.length hset
    simp only [List.length_append, List.length_cons] at hlengths
    omega
  have hbroker : broker = broker' := String.toList_inj.mp (List.append_inj hset hlength).1
  rw [hbroker, hordinal]

/-- The names of the claims of a broker start as the update expects them to. -/
lemma startsWith_volumeClaimStem (broker : String) (ordinal : ℕ) :
    Text.startsWith (volumeClaimStem broker) (volumeClaim broker ordinal) = true := by
  rw [Text.startsWith, List.isPrefixOf_iff_prefix, volumeClaim, String.toList_append]
  exact List.prefix_append _ _

end Label

/-! ### What lists answer -/

/-- The objects on a cluster at one moment.  No two have the same address. -/
structure Inventory where
  objects : Set Snapshot
  address_injOn : objects.InjOn Snapshot.address

/-- A list that answers every object of a kind and a namespace whose name starts as asked for, and
each once. -/
structure Inventory.IsListed (inventory : Inventory) (kind : ObjectKind) (ns stem : String)
    (listed : List Snapshot) : Prop where
  nodup : listed.Nodup
  mem_iff : ∀ snapshot, snapshot ∈ listed ↔ snapshot ∈ inventory.objects ∧
    snapshot.kind = kind ∧ snapshot.scope = some ns ∧ Text.startsWith stem snapshot.name = true

namespace Inventory.IsListed

variable {inventory : Inventory} {kind : ObjectKind} {ns stem : String} {listed : List Snapshot}

/-- In one namespace, the objects of one kind have different names. -/
lemma eq_of_name_eq (h : inventory.IsListed kind ns stem listed) {s s' : Snapshot}
    (hs : s ∈ listed) (hs' : s' ∈ listed) (hname : s.name = s'.name) : s = s' := by
  obtain ⟨hobject, hkind, hscope, -⟩ := (h.mem_iff s).mp hs
  obtain ⟨hobject', hkind', hscope', -⟩ := (h.mem_iff s').mp hs'
  refine inventory.address_injOn hobject hobject' ?_
  rw [Snapshot.address, Snapshot.address, hkind, hkind', hscope, hscope', hname]

/-- A listed object is among the names of those with a property once if it has the property, and
not at all otherwise. -/
lemma count_name (h : inventory.IsListed kind ns stem listed) (p : Snapshot → Bool) {s : Snapshot}
    (hs : s ∈ listed) :
    ((listed.filter p).map Snapshot.name).count s.name = if p s = true then 1 else 0 := by
  have hnodup : ((listed.filter p).map Snapshot.name).Nodup := by
    refine List.Nodup.map_on (fun a ha b hb hname => ?_) (h.nodup.filter p)
    exact h.eq_of_name_eq (List.mem_of_mem_filter ha) (List.mem_of_mem_filter hb) hname
  have hmem : s.name ∈ (listed.filter p).map Snapshot.name ↔ p s = true := by
    constructor
    · intro hname
      obtain ⟨s', hs', heq⟩ := List.mem_map.mp hname
      obtain ⟨hlisted, hp⟩ := List.mem_filter.mp hs'
      rwa [h.eq_of_name_eq hlisted hs heq] at hp
    · exact fun hp => List.mem_map_of_mem (List.mem_filter.mpr ⟨hs, hp⟩)
  by_cases hp : p s = true
  · rw [if_pos hp]
    exact List.count_eq_one_of_mem hnodup (hmem.mpr hp)
  · rw [if_neg hp]
    exact List.count_eq_zero.mpr (mt hmem.mp hp)

end Inventory.IsListed

/-- The claims on a cluster, of which no two have the same name. -/
def Inventory.ofClaims (claims : List Snapshot) (h : (claims.map Snapshot.name).Nodup) :
    Inventory where
  objects := {snapshot | snapshot ∈ claims}
  address_injOn := by
    intro x hx y hy haddress
    exact List.inj_on_of_nodup_map h hx hy (congrArg ObjectAddress.name haddress)

/-- Of claims in one namespace, a list answers those whose names start as asked for. -/
lemma Inventory.ofClaims_isListed {claims : List Snapshot} {ns stem : String}
    (h : (claims.map Snapshot.name).Nodup)
    (hplace : ∀ claim ∈ claims, claim.kind = .persistentVolumeClaim ∧ claim.scope = some ns) :
    (Inventory.ofClaims claims h).IsListed .persistentVolumeClaim ns stem
      (claims.filter fun claim => Text.startsWith stem claim.name) := by
  refine ⟨(List.Nodup.of_map Snapshot.name h).filter _, fun claim => ?_⟩
  rw [List.mem_filter]
  constructor
  · rintro ⟨hmem, hstem⟩
    exact ⟨hmem, (hplace claim hmem).1, (hplace claim hmem).2, hstem⟩
  · rintro ⟨hmem, -, -, hstem⟩
    exact ⟨hmem, hstem⟩

/-! ### Updates -/

namespace Provisioning

variable {provisioning : Provisioning} {resource : Resource} {options : WaitOptions}
  {snapshot : Snapshot} {outcome : Update} {t : List (Exchange controlPlane.timed)}

/-- The size of storage that a claim asks for, if it is a text. -/
def requestedSize? (claim : Snapshot) : Option String :=
  claim.body.stringAt? ["spec", "resources", "requests", "storage"]

/-- The address of a claim of a broker. -/
def claimAddress (resource : Resource) (ordinal : ℕ) : ObjectAddress :=
  ⟨.persistentVolumeClaim, some resource.ns, Label.volumeClaim resource.name ordinal⟩

/-- A claim has another size if what it asks for is not the same quantity. -/
lemma hasOtherSize_eq_not_same {size requested : String} {claim : Snapshot}
    (h : requestedSize? claim = some requested) :
    hasOtherSize size claim = !Quantity.same requested size := by
  unfold requestedSize? at h
  unfold hasOtherSize
  rw [h]
  simp

/-- The list of the objects whose names start like those of the claims of a resource. -/
def claimsListing (resource : Resource) (listed : List Snapshot) :
    Exchange controlPlane.timed :=
  ⟨.other (.list .persistentVolumeClaim resource.ns (Label.volumeClaimStem resource.name)),
    .ok listed⟩

/-- What a list answered can be read off its exchange. -/
lemma claimsListing_inj {resource : Resource} {listed listed' : List Snapshot}
    (h : claimsListing resource listed = claimsListing resource listed') : listed = listed' := by
  cases h
  rfl

/-- An update submits the object, then looks for claims, and gives the resource of the last
snapshot. -/
lemma update_yields_ok (h : (provisioning.update resource options).Yields t (.ok outcome)) :
    ∃ submitted asked snapshot, t = submitted ++ asked.map Exchange.timed ∧
      (provisioning.submit resource.desired options provisioning.updateTimeout).Yields submitted
        (.ok snapshot) ∧
      (unresizedClaims snapshot).Yields asked (.ok outcome.unresizedClaims) ∧
      Resource.ofSnapshot snapshot = .ok outcome.resource := by
  obtain ⟨submitted, t₂, snapshot, rfl, hsubmit, hrest⟩ := Action.yields_bind_ok_iff.mp h
  obtain ⟨t₂, t₃, claims, rfl, hclaims, hread⟩ := Action.yields_bind_ok_iff.mp hrest
  obtain ⟨t₃, t₄, read, rfl, hofSnapshot, hpure⟩ := Action.yields_bind_ok_iff.mp hread
  obtain ⟨asked, rfl, hasked⟩ := Action.yields_timed_iff.mp hclaims
  obtain ⟨rfl, hresource⟩ := Action.yields_ofExcept_iff.mp hofSnapshot
  obtain ⟨rfl, hupdate⟩ := Action.yields_pure_iff.mp hpure
  cases hupdate
  exact ⟨submitted, asked, snapshot, by simp, hsubmit, hasked, hresource.symm⟩

/-- Behind the update of a broker with a size of storage, claims are listed once, and those with
another size are reported. -/
lemma unresizedClaims_yields_ok_iff {asked : List (Exchange controlPlane)} {names : List String}
    {size : String} (hkind : snapshot.kind = .broker)
    (hsize : storageSize? snapshot.body = some size) :
    (unresizedClaims snapshot).Yields asked (.ok names) ↔
      ∃ listed,
        asked = [⟨.list .persistentVolumeClaim (snapshot.scope.getD "")
          (Label.volumeClaimStem snapshot.name), .ok listed⟩] ∧
        names = (listed.filter (hasOtherSize size)).map Snapshot.name := by
  unfold unresizedClaims
  rw [if_neg (not_not_intro hkind), hsize]
  refine Action.yields_bind_ok_iff.trans ?_
  constructor
  · rintro ⟨t₁, t₂, listed, rfl, hlist, hpure⟩
    obtain rfl := ControlPlane.list_yields_iff.mp hlist
    obtain ⟨rfl, hnames⟩ := Action.yields_pure_iff.mp hpure
    exact ⟨listed, rfl, Except.ok.inj hnames⟩
  · rintro ⟨listed, rfl, rfl⟩
    exact ⟨[_], [], listed, rfl, ControlPlane.list_yields_iff.mpr rfl,
      Action.yields_pure_iff.mpr ⟨rfl, rfl⟩⟩

/-- The last request of an update that gives a broker with a size of storage lists what is taken for
its claims, and of this list the ones with another size are reported. -/
lemma exists_claimsListing {size : String}
    (h : (provisioning.update resource options).Yields t (.ok outcome))
    (hkind : outcome.resource.kind = .broker)
    (hsize : storageSize? outcome.resource.body = some size) :
    ∃ earlier listed, t = earlier ++ [claimsListing outcome.resource listed] ∧
      outcome.unresizedClaims = (listed.filter (hasOtherSize size)).map Snapshot.name := by
  obtain ⟨submitted, asked, snapshot, rfl, -, hclaims, hresource⟩ := update_yields_ok h
  have hholds := Resource.holds_of_ofSnapshot hresource
  rw [hholds.kind] at hkind
  rw [hholds.body] at hsize
  obtain ⟨listed, rfl, hnames⟩ := (unresizedClaims_yields_ok_iff hkind hsize).mp hclaims
  refine ⟨submitted, listed, ?_, hnames⟩
  rw [hholds.scope, ← hholds.name]
  rfl

/-- As long as answers are faithful, the resource that an update gives is the updated one. -/
lemma update_address (h : (provisioning.update resource options).Yields t (.ok outcome))
    (hfaithful : ∀ e ∈ t, TrustedTimed Exchange.IsFaithful e) :
    outcome.resource.address = resource.address := by
  obtain ⟨submitted, asked, snapshot, rfl, hsubmit, -, hresource⟩ := update_yields_ok h
  have hconfined : Action.Confined (I := controlPlane.timed) (TrustedTimed Exchange.IsFaithful)
      (TimedRequest.Within (ResourceOperation.ofCall (.update resource options)).MayAsk)
      (fun snapshot => snapshot.address = resource.desired.address)
      (provisioning.submit resource.desired options provisioning.updateTimeout) :=
    submit_confined _ (List.mem_singleton.mpr rfl) rfl rfl
  obtain ⟨-, haddress⟩ := hconfined submitted _ hsubmit fun e he =>
    hfaithful e (List.mem_append_left _ he)
  have hseen : snapshot.address = resource.address := haddress snapshot rfl
  have hholds := Resource.holds_of_ofSnapshot hresource
  rw [← hseen, Resource.address, hholds.kind, hholds.name, ← hholds.scope]
  rfl

/-- The claim of a broker that a list answers is reported if it asks for another size. -/
lemma count_volumeClaim {inventory : Inventory} {listed : List Snapshot} {claim : Snapshot}
    {ordinal : ℕ} {size requested : String}
    (hlisted : inventory.IsListed .persistentVolumeClaim resource.ns
      (Label.volumeClaimStem resource.name) listed)
    (hclaim : claim ∈ inventory.objects) (haddress : claim.address = claimAddress resource ordinal)
    (hrequested : requestedSize? claim = some requested) :
    ((listed.filter (hasOtherSize size)).map Snapshot.name).count
        (Label.volumeClaim resource.name ordinal) =
      if Quantity.same requested size then 0 else 1 := by
  have hkind : claim.kind = .persistentVolumeClaim := congrArg ObjectAddress.kind haddress
  have hscope : claim.scope = some resource.ns := congrArg ObjectAddress.scope haddress
  have hname : claim.name = Label.volumeClaim resource.name ordinal :=
    congrArg ObjectAddress.name haddress
  have hmem : claim ∈ listed := by
    refine (hlisted.mem_iff claim).mpr ⟨hclaim, hkind, hscope, ?_⟩
    rw [hname]
    exact Label.startsWith_volumeClaimStem resource.name ordinal
  rw [← hname, hlisted.count_name _ hmem, hasOtherSize_eq_not_same hrequested]
  cases Quantity.same requested size with
  | true => rfl
  | false => rfl

/-- Different brokers or ordinals make different names of claims.  The last request of an update
that gives a broker with a size of storage lists objects by the start of their names.  If this list
answers all of them that are on the cluster, then each claim that is there under the name of the
broker and an ordinal, and asks for a size, is reported once if this is another size than that of
the last snapshot, and not at all otherwise.  The resource that the update gives holds the last
snapshot; as long as answers are faithful, it is the updated one. -/
theorem update_accounts_for_named_claims :
    (Function.Injective fun replica : String × ℕ => Label.volumeClaim replica.1 replica.2) ∧
    ∀ (provisioning : Provisioning) resource options t outcome,
      (provisioning.update resource options).Yields t (.ok outcome) →
        ((∀ e ∈ t, TrustedTimed Exchange.IsFaithful e) →
          outcome.resource.address = resource.address) ∧
        ∀ size, outcome.resource.kind = .broker →
          storageSize? outcome.resource.body = some size →
            ∃ earlier listed, t = earlier ++ [claimsListing outcome.resource listed] ∧
              ∀ inventory : Inventory,
                inventory.IsListed .persistentVolumeClaim outcome.resource.ns
                  (Label.volumeClaimStem outcome.resource.name) listed →
                ∀ claim ∈ inventory.objects, ∀ ordinal requested,
                  claim.address = claimAddress outcome.resource ordinal →
                  requestedSize? claim = some requested →
                    outcome.unresizedClaims.count
                      (Label.volumeClaim outcome.resource.name ordinal) =
                        if Quantity.same requested size then 0 else 1 := by
  refine ⟨Label.volumeClaim_injective, fun provisioning resource options t outcome h =>
    ⟨update_address h, fun size hkind hsize => ?_⟩⟩
  obtain ⟨earlier, listed, rfl, hnames⟩ := exists_claimsListing h hkind hsize
  refine ⟨earlier, listed, rfl, ?_⟩
  intro inventory hlisted claim hclaim ordinal requested haddress hrequested
  rw [hnames]
  exact count_volumeClaim hlisted hclaim haddress hrequested

end Provisioning

/-! ### Updates of one broker beside given claims -/

namespace StorageUpdate

def specOf (size : String) : Json :=
  .object [("deploymentPlan", .object [("storage", .object [("size", .string size)])])]

def bodyOf (size : String) : Json :=
  .object [("metadata", .object [("name", .string "broker"), ("namespace", .string "test")]),
    ("spec", specOf size)]

/-- The broker as it was before, with a spec that asks for a size. -/
def resource (size : String) : Resource where
  kind := .broker
  ns := "test"
  name := "broker"
  spec := specOf size
  conditions := []
  generation := some 1
  body := bodyOf "1"

/-- The broker that the cluster answers. -/
def stored (size : String) : Snapshot := ⟨.broker, some "test", "broker", some 2, bodyOf size⟩

/-- The resource behind the update. -/
def updated (size : String) : Resource :=
  { resource size with generation := some 2, body := bodyOf size }

/-- A claim in the namespace of the broker. -/
def claim (name size : String) : Snapshot where
  kind := .persistentVolumeClaim
  scope := some "test"
  name := name
  generation := none
  body := .object [("spec", .object [("resources", .object [("requests", .object
    [("storage", .string size)])])])]

/-- The object is applied, the update does not wait for it, and claims are listed. -/
def exchanges (size : String) (listed : List Snapshot) : List (Exchange controlPlane.timed) :=
  [⟨.other (.apply (resource size).desired), .ok (stored size)⟩,
    Provisioning.claimsListing (updated size) listed]

def outcome (size : String) (listed : List Snapshot) : Update :=
  ⟨updated size, (listed.filter (Provisioning.hasOtherSize size)).map Snapshot.name⟩

/-- The application is answered with the broker. -/
lemma exchanges_faithful (size : String) (listed : List Snapshot) :
    ∀ e ∈ exchanges size listed, TrustedTimed Exchange.IsFaithful e := by
  refine List.forall_mem_cons.mpr ⟨?_, List.forall_mem_singleton.mpr trivial⟩
  rintro snapshot hsnapshot
  cases hsnapshot
  rfl

/-- Whatever is listed, the update gives the broker, and the names of the listed claims of another
size. -/
lemma update_yields (size : String) (listed : List Snapshot) :
    (Provisioning.Sample.provisioning.update (resource size) { awaitReady := false }).Yields
      (exchanges size listed) (.ok (outcome size listed)) := by
  have hsubmit : (Provisioning.Sample.provisioning.submit (resource size).desired
      { awaitReady := false } 120).Yields
      [⟨.other (.apply (resource size).desired), .ok (stored size)⟩] (.ok (stored size)) := by
    refine Action.yields_bind_ok_iff.mpr ⟨[_], [], stored size, rfl, ?_, ?_⟩
    · exact Action.yields_timed_iff.mpr ⟨[_], rfl, ControlPlane.apply_yields_iff.mpr rfl⟩
    · exact Action.yields_pure_iff.mpr ⟨rfl, rfl⟩
  have hclaims : (Provisioning.unresizedClaims (stored size)).Yields
      [⟨.list .persistentVolumeClaim "test" (Label.volumeClaimStem "broker"), .ok listed⟩]
      (.ok (outcome size listed).unresizedClaims) :=
    (Provisioning.unresizedClaims_yields_ok_iff rfl rfl).mpr ⟨listed, rfl, rfl⟩
  refine Action.yields_bind_ok_iff.mpr ⟨[_], [_], stored size, rfl, hsubmit, ?_⟩
  refine Action.yields_bind_ok_iff.mpr
    ⟨[_], [], (outcome size listed).unresizedClaims, rfl, ?_, ?_⟩
  · exact Action.yields_timed_iff.mpr ⟨[_], rfl, hclaims⟩
  · refine Action.yields_bind_ok_iff.mpr ⟨[], [], updated size, rfl, ?_, ?_⟩
    · exact Action.yields_ofExcept_iff.mpr ⟨rfl, rfl⟩
    · exact Action.yields_pure_iff.mpr ⟨rfl, rfl⟩

/-- The last request of the update is the list of claims. -/
lemma listed_eq_of_exchanges {size : String} {listed listed' : List Snapshot}
    {earlier : List (Exchange controlPlane.timed)} (h : exchanges size listed =
      earlier ++ [Provisioning.claimsListing (updated size) listed']) : listed = listed' := by
  have hlast : [Provisioning.claimsListing (updated size) listed] =
      [Provisioning.claimsListing (updated size) listed'] :=
    List.append_inj_right' (show [_] ++ _ = earlier ++ _ from h) rfl
  exact Provisioning.claimsListing_inj (List.singleton_inj.mp hlast)

end StorageUpdate

/-! ### An update to a larger size -/

namespace StorageGrowth.Sample

/-- One claim has the former size, one has the new size in another unit, and one is of another
broker. -/
def claims : List Snapshot :=
  [StorageUpdate.claim (Label.volumeClaim "broker" 0) "1Gi",
    StorageUpdate.claim (Label.volumeClaim "broker" 1) "2048Mi",
    StorageUpdate.claim (Label.volumeClaim "other" 0) "1Gi"]

lemma names_nodup : (claims.map Snapshot.name).Nodup := by decide +kernel

def listed : List Snapshot :=
  claims.filter fun claim => Text.startsWith (Label.volumeClaimStem "broker") claim.name

lemma isListed : (Inventory.ofClaims claims names_nodup).IsListed .persistentVolumeClaim "test"
    (Label.volumeClaimStem "broker") listed :=
  Inventory.ofClaims_isListed names_nodup (by simp [claims, StorageUpdate.claim])

end StorageGrowth.Sample

open StorageGrowth in
/-- Of the two claims of the broker, the one with the former size is reported once, and the one that
asks for the new size in another unit is not. -/
theorem update_accounts_for_claims_of_grown_broker :
    (Provisioning.Sample.provisioning.update (StorageUpdate.resource "2Gi")
        { awaitReady := false }).Yields (StorageUpdate.exchanges "2Gi" Sample.listed)
      (.ok (StorageUpdate.outcome "2Gi" Sample.listed)) ∧
    (∀ e ∈ StorageUpdate.exchanges "2Gi" Sample.listed, TrustedTimed Exchange.IsFaithful e) ∧
    (StorageUpdate.outcome "2Gi" Sample.listed).resource.address =
      (StorageUpdate.resource "2Gi").address ∧
    (StorageUpdate.outcome "2Gi" Sample.listed).unresizedClaims = ["broker-broker-ss-0"] ∧
    (StorageUpdate.outcome "2Gi" Sample.listed).unresizedClaims.count
      (Label.volumeClaim "broker" 0) = 1 ∧
    (StorageUpdate.outcome "2Gi" Sample.listed).unresizedClaims.count
      (Label.volumeClaim "broker" 1) = 0 := by
  obtain ⟨-, hupdate⟩ := Provisioning.update_accounts_for_named_claims
  obtain ⟨haddress, hclaims⟩ := hupdate Provisioning.Sample.provisioning
    (StorageUpdate.resource "2Gi") { awaitReady := false } _ _
    (StorageUpdate.update_yields "2Gi" Sample.listed)
  obtain ⟨earlier, listed, hrun, hcount⟩ := hclaims "2Gi" rfl rfl
  obtain rfl : Sample.listed = listed := StorageUpdate.listed_eq_of_exchanges hrun
  have hcounted := hcount _ Sample.isListed
  have hsame : Quantity.same "2048Mi" "2Gi" = true := by decide +kernel
  have hdiffer : Quantity.same "1Gi" "2Gi" = false := by decide +kernel
  have hfirst := hcounted (StorageUpdate.claim (Label.volumeClaim "broker" 0) "1Gi")
    (by simp [Inventory.ofClaims, Sample.claims]) 0 "1Gi" rfl rfl
  have hsecond := hcounted (StorageUpdate.claim (Label.volumeClaim "broker" 1) "2048Mi")
    (by simp [Inventory.ofClaims, Sample.claims]) 1 "2048Mi" rfl rfl
  rw [hdiffer] at hfirst
  rw [hsame] at hsecond
  have hfaithful := StorageUpdate.exchanges_faithful "2Gi" Sample.listed
  exact ⟨StorageUpdate.update_yields _ _, hfaithful, haddress hfaithful, by decide +kernel, hfirst,
    hsecond⟩

end BrokerHarness
