import BrokerHarness.Proofs.Resource.VolumeClaims

/-!
# Claims that an update takes for its broker's own

An update decides by the start of a name whether a claim belongs to its broker, and does not look at
what follows.  So it also reports claims of other brokers, and claims that belong to no broker at
all.  Which brokers are affected can be read off the names alone: the start that is looked for ends
in a dash, and an ordinal has none, so it is found in the name of another broker's claim exactly if
it is found in the start of all of that broker's claims (`Label.startsWith_volumeClaim_iff`).  Such
a broker is named like the updated one, with a dash and something else behind it.
-/

namespace BrokerHarness

/-! ### Names that start like a broker's claims -/

namespace Label

/-- Whether a text is the name of a claim of a broker, the ordinals being numbers of 32 bits. -/
def IsClaimOf (broker name : String) : Prop :=
  ∃ ordinal < UInt32.size, name = volumeClaim broker ordinal

/-- The stem ends with the last dash of the names of claims. -/
lemma toList_volumeClaimStem (broker : String) :
    (volumeClaimStem broker).toList =
      (broker.toList ++ '-' :: (broker.toList ++ ['-', 's', 's'])) ++ ['-'] := by
  simp [volumeClaimStem, statefulSetEnding]

/-- A start that ends in a character which what is behind does not hold is a start of what is in
front. -/
lemma concat_prefix_of_notMem {start front behind : List Char} {c : Char} (hc : c ∉ behind)
    (h : start ++ [c] <+: front ++ behind) : start ++ [c] <+: front := by
  rcases List.prefix_or_prefix_of_prefix h (List.prefix_append front behind) with
    hfront | ⟨excess, hexcess⟩
  · exact hfront
  · have hbehind : excess <+: behind := by
      rw [← hexcess] at h
      exact (List.prefix_append_right_inj front).mp h
    rcases List.eq_nil_or_concat' excess with rfl | ⟨init, last, rfl⟩
    · rw [List.append_nil] at hexcess
      exact hexcess ▸ List.prefix_rfl
    · rw [← List.append_assoc] at hexcess
      have hlast : last = c := List.singleton_inj.mp (List.append_inj' hexcess rfl).2
      have hmem : last ∈ init ++ [last] := List.mem_append_right _ List.mem_cons_self
      exact absurd (hbehind.subset hmem) (hlast ▸ hc)

/-- Whether the claim of another broker is taken for one of a broker does not depend on its
ordinal. -/
lemma startsWith_volumeClaim_iff {broker other : String} (ordinal : ℕ) :
    Text.startsWith (volumeClaimStem broker) (volumeClaim other ordinal) = true ↔
      (volumeClaimStem broker).toList <+: (volumeClaimStem other).toList := by
  have hclaim : (volumeClaim other ordinal).toList =
      (volumeClaimStem other).toList ++ Nat.toDigits 10 ordinal := by
    simp [volumeClaim]
  rw [Text.startsWith, List.isPrefixOf_iff_prefix, hclaim]
  refine ⟨fun h => ?_, fun h => h.trans (List.prefix_append _ _)⟩
  rw [toList_volumeClaimStem broker] at h ⊢
  exact concat_prefix_of_notMem (dash_notMem_toDigits ordinal) h

/-- A broker whose claims start like those of another is that broker, or its name starts with the
other's and a dash. -/
lemma eq_or_startsWith_of_stem_prefix {broker other : String}
    (h : (volumeClaimStem broker).toList <+: (volumeClaimStem other).toList) :
    other = broker ∨ Text.startsWith (broker ++ "-") other = true := by
  have hlength : broker.toList.length ≤ other.toList.length := by
    have hle := h.length_le
    simp only [toList_volumeClaimStem, List.length_append, List.length_cons] at hle
    omega
  have hother : other.toList <+: (volumeClaimStem other).toList := by
    rw [toList_volumeClaimStem, List.append_assoc]
    exact List.prefix_append _ _
  have hdash : broker.toList ++ ['-'] <+: (volumeClaimStem other).toList := by
    refine List.IsPrefix.trans ?_ h
    rw [toList_volumeClaimStem, List.append_assoc]
    exact (List.prefix_append_right_inj _).mpr (List.prefix_append ['-'] _)
  rcases hlength.eq_or_lt with heq | hlt
  · have hstart : broker.toList <+: other.toList :=
      List.prefix_of_prefix_length_le ((List.prefix_append _ _).trans hdash) hother hlength
    exact Or.inl (String.toList_inj.mp (hstart.eq_of_length heq)).symm
  · refine Or.inr ?_
    rw [Text.startsWith, List.isPrefixOf_iff_prefix, String.toList_append]
    refine List.prefix_of_prefix_length_le hdash hother ?_
    rw [List.length_append]
    exact hlt

/-- Different brokers have no claim in common. -/
lemma volumeClaim_ne_of_ne {broker other : String} (h : other ≠ broker) (ordinal ordinal' : ℕ) :
    volumeClaim other ordinal ≠ volumeClaim broker ordinal' := by
  intro heq
  have hreplica : (other, ordinal) = (broker, ordinal') := volumeClaim_injective heq
  exact h (congrArg Prod.fst hreplica)

/-- The claim of one broker is no claim of another, whatever the ordinal. -/
lemma not_isClaimOf_of_ne {broker other : String} (ordinal : ℕ) (h : other ≠ broker) :
    ¬ IsClaimOf broker (volumeClaim other ordinal) := by
  rintro ⟨ordinal', -, heq⟩
  exact volumeClaim_ne_of_ne h ordinal ordinal' heq

end Label

/-! ### Reports of updates -/

namespace Provisioning

variable {provisioning : Provisioning} {resource : Resource} {options : WaitOptions}
  {outcome : Update} {t : List (Exchange controlPlane.timed)}

/-- An object that is taken for a claim of a resource: a claim in its namespace with a name that
starts like those of its claims. -/
structure TakenForClaim (resource : Resource) (claim : Snapshot) : Prop where
  kind : claim.kind = .persistentVolumeClaim
  scope : claim.scope = some resource.ns
  stem : Text.startsWith (Label.volumeClaimStem resource.name) claim.name = true

/-- Behind an update that gives another kind of object, or a broker without a size of storage,
nothing is reported. -/
lemma unresizedClaims_eq_nil (h : (provisioning.update resource options).Yields t (.ok outcome))
    (hunsized : outcome.resource.kind ≠ .broker ∨ storageSize? outcome.resource.body = none) :
    outcome.unresizedClaims = [] := by
  obtain ⟨submitted, asked, snapshot, rfl, -, hclaims, hresource⟩ := update_yields_ok h
  have hholds := Resource.holds_of_ofSnapshot hresource
  rw [hholds.kind, hholds.body] at hunsized
  unfold unresizedClaims at hclaims
  by_cases hkind : snapshot.kind = .broker
  · have hsize : storageSize? snapshot.body = none := hunsized.resolve_left (not_not_intro hkind)
    rw [if_neg (not_not_intro hkind), hsize] at hclaims
    exact Except.ok.inj (Action.yields_pure_iff.mp hclaims).2
  · rw [if_pos hkind] at hclaims
    exact Except.ok.inj (Action.yields_pure_iff.mp hclaims).2

/-- What is reported of a full list are the names of the objects that are taken for claims and ask
for another size. -/
lemma mem_reported_iff {inventory : Inventory} {listed : List Snapshot} {size name : String}
    (hlisted : inventory.IsListed .persistentVolumeClaim resource.ns
      (Label.volumeClaimStem resource.name) listed) :
    name ∈ (listed.filter (hasOtherSize size)).map Snapshot.name ↔
      ∃ claim ∈ inventory.objects, TakenForClaim resource claim ∧
        hasOtherSize size claim = true ∧ claim.name = name := by
  rw [List.mem_map]
  constructor
  · rintro ⟨claim, hmem, hname⟩
    obtain ⟨hclaim, hother⟩ := List.mem_filter.mp hmem
    obtain ⟨hobject, hkind, hscope, hstem⟩ := (hlisted.mem_iff claim).mp hclaim
    exact ⟨claim, hobject, ⟨hkind, hscope, hstem⟩, hother, hname⟩
  · rintro ⟨claim, hobject, htaken, hother, hname⟩
    have hclaim : claim ∈ listed :=
      (hlisted.mem_iff claim).mpr ⟨hobject, htaken.kind, htaken.scope, htaken.stem⟩
    exact ⟨claim, List.mem_filter.mpr ⟨hclaim, hother⟩, hname⟩

/-- The claim of another broker with another size is reported if all claims of that broker have
names that start like those of the updated one. -/
lemma stray_mem_reported_iff {inventory : Inventory} {listed : List Snapshot} {claim : Snapshot}
    {size other : String} {ordinal : ℕ}
    (hlisted : inventory.IsListed .persistentVolumeClaim resource.ns
      (Label.volumeClaimStem resource.name) listed)
    (hclaim : claim ∈ inventory.objects)
    (haddress : claim.address =
      ⟨.persistentVolumeClaim, some resource.ns, Label.volumeClaim other ordinal⟩)
    (hsize : hasOtherSize size claim = true) :
    claim.name ∈ (listed.filter (hasOtherSize size)).map Snapshot.name ↔
      (Label.volumeClaimStem resource.name).toList <+: (Label.volumeClaimStem other).toList := by
  have hkind : claim.kind = .persistentVolumeClaim := congrArg ObjectAddress.kind haddress
  have hscope : claim.scope = some resource.ns := congrArg ObjectAddress.scope haddress
  have hname : claim.name = Label.volumeClaim other ordinal :=
    congrArg ObjectAddress.name haddress
  rw [mem_reported_iff hlisted, ← Label.startsWith_volumeClaim_iff ordinal, ← hname]
  constructor
  · rintro ⟨claim', -, htaken, -, heq⟩
    exact heq ▸ htaken.stem
  · exact fun hstem => ⟨claim, hclaim, ⟨hkind, hscope, hstem⟩, hsize, rfl⟩

/-- Where all that is taken for a claim of the updated broker is the claim of some broker, and of
none that is named like it with a dash and more behind it, only its own claims are reported. -/
lemma isClaimOf_of_mem_reported {inventory : Inventory} {listed : List Snapshot}
    {size name : String}
    (hlisted : inventory.IsListed .persistentVolumeClaim resource.ns
      (Label.volumeClaimStem resource.name) listed)
    (horderly : ∀ claim ∈ inventory.objects, TakenForClaim resource claim →
      ∃ other, Label.IsClaimOf other claim.name ∧
        Text.startsWith (resource.name ++ "-") other = false)
    (hname : name ∈ (listed.filter (hasOtherSize size)).map Snapshot.name) :
    Label.IsClaimOf resource.name name := by
  obtain ⟨claim, hobject, htaken, -, rfl⟩ := (mem_reported_iff hlisted).mp hname
  obtain ⟨other, ⟨ordinal, hordinal, heq⟩, hapart⟩ := horderly claim hobject htaken
  have hstem := htaken.stem
  rw [heq, Label.startsWith_volumeClaim_iff] at hstem
  rcases Label.eq_or_startsWith_of_stem_prefix hstem with rfl | hstarts
  · exact ⟨ordinal, hordinal, heq⟩
  · exact absurd hstarts (Bool.eq_false_iff.mp hapart)

/-- An update that gives no broker, or one without a size of storage, reports nothing.  Otherwise
its last request lists the objects that are taken for claims, and if this list answers all of them
that are on the cluster, then the names of those with another size than the last snapshot's are
reported, and nothing else.  So the claim of another broker, which is none of the updated broker's
own, is reported exactly if that broker's claims have names that start like its own.  If all that is
taken for a claim is the claim of a broker, and this broker's name is not the updated one's with a
dash and more behind it, then only claims of the updated broker are reported. -/
theorem update_reports_by_stem (h : (provisioning.update resource options).Yields t (.ok outcome)) :
    ((∀ e ∈ t, TrustedTimed Exchange.IsFaithful e) →
      outcome.resource.address = resource.address) ∧
    (outcome.resource.kind ≠ .broker ∨ storageSize? outcome.resource.body = none →
      outcome.unresizedClaims = []) ∧
    ∀ size, outcome.resource.kind = .broker → storageSize? outcome.resource.body = some size →
      ∃ earlier listed, t = earlier ++ [claimsListing outcome.resource listed] ∧
        ∀ inventory : Inventory,
          inventory.IsListed .persistentVolumeClaim outcome.resource.ns
            (Label.volumeClaimStem outcome.resource.name) listed →
          (∀ name, name ∈ outcome.unresizedClaims ↔
            ∃ claim ∈ inventory.objects, TakenForClaim outcome.resource claim ∧
              hasOtherSize size claim = true ∧ claim.name = name) ∧
          (∀ claim ∈ inventory.objects, ∀ other ordinal, other ≠ outcome.resource.name →
            claim.address = ⟨.persistentVolumeClaim, some outcome.resource.ns,
              Label.volumeClaim other ordinal⟩ →
            hasOtherSize size claim = true →
              ¬ Label.IsClaimOf outcome.resource.name claim.name ∧
              (claim.name ∈ outcome.unresizedClaims ↔
                (Label.volumeClaimStem outcome.resource.name).toList <+:
                  (Label.volumeClaimStem other).toList)) ∧
          ((∀ claim ∈ inventory.objects, TakenForClaim outcome.resource claim →
              ∃ other, Label.IsClaimOf other claim.name ∧
                Text.startsWith (outcome.resource.name ++ "-") other = false) →
            ∀ name ∈ outcome.unresizedClaims, Label.IsClaimOf outcome.resource.name name) := by
  refine ⟨update_address h, unresizedClaims_eq_nil h, fun size hkind hsize => ?_⟩
  obtain ⟨earlier, listed, hlast, hnames⟩ := exists_claimsListing h hkind hsize
  refine ⟨earlier, listed, hlast, fun inventory hlisted => ?_⟩
  rw [hnames]
  refine ⟨fun name => mem_reported_iff hlisted, ?_, ?_⟩
  · intro claim hclaim other ordinal hother haddress hotherSize
    have hname : claim.name = Label.volumeClaim other ordinal :=
      congrArg ObjectAddress.name haddress
    refine ⟨?_, stray_mem_reported_iff hlisted hclaim haddress hotherSize⟩
    rw [hname]
    exact Label.not_isClaimOf_of_ne ordinal hother
  · exact fun horderly name hname => isClaimOf_of_mem_reported hlisted horderly hname

end Provisioning

/-! ### Brokers with longer names -/

namespace StrayClaims.Sample

/-- One claim of the broker, one of a broker whose name goes on like that of a claim, one that was
made by hand, and one of a broker whose name just goes on. -/
def claims : List Snapshot :=
  [StorageUpdate.claim (Label.volumeClaim "broker" 0) "1Gi",
    StorageUpdate.claim (Label.volumeClaim "broker-broker-ss-b" 0) "1Gi",
    StorageUpdate.claim "broker-broker-ss-backup" "1Gi",
    StorageUpdate.claim (Label.volumeClaim "broker-b" 0) "1Gi"]

lemma names_nodup : (claims.map Snapshot.name).Nodup := by decide +kernel

def listed : List Snapshot :=
  claims.filter fun claim => Text.startsWith (Label.volumeClaimStem "broker") claim.name

lemma isListed : (Inventory.ofClaims claims names_nodup).IsListed .persistentVolumeClaim "test"
    (Label.volumeClaimStem "broker") listed :=
  Inventory.ofClaims_isListed names_nodup (by simp [claims, StorageUpdate.claim])

end StrayClaims.Sample

open StrayClaims in
/-- Behind the update of a broker to another size, a claim of a broker with a longer name is
reported.  It is no claim of the updated broker, whatever the ordinal is. -/
theorem update_reports_claim_of_longer_broker :
    (Provisioning.Sample.provisioning.update (StorageUpdate.resource "2Gi")
        { awaitReady := false }).Yields (StorageUpdate.exchanges "2Gi" Sample.listed)
      (.ok (StorageUpdate.outcome "2Gi" Sample.listed)) ∧
    (Inventory.ofClaims Sample.claims Sample.names_nodup).IsListed .persistentVolumeClaim "test"
      (Label.volumeClaimStem "broker") Sample.listed ∧
    (StorageUpdate.outcome "2Gi" Sample.listed).unresizedClaims =
      ["broker-broker-ss-0", "broker-broker-ss-b-broker-broker-ss-b-ss-0",
        "broker-broker-ss-backup"] ∧
    ∀ ordinal,
      "broker-broker-ss-b-broker-broker-ss-b-ss-0" ≠ Label.volumeClaim "broker" ordinal := by
  have hclaim : Label.volumeClaim "broker-broker-ss-b" 0 =
      "broker-broker-ss-b-broker-broker-ss-b-ss-0" := by decide +kernel
  refine ⟨StorageUpdate.update_yields _ _, Sample.isListed, by decide +kernel, fun ordinal => ?_⟩
  rw [← hclaim]
  exact Label.volumeClaim_ne_of_ne (by decide) 0 ordinal

open StrayClaims in
/-- Beside the claim of the updated broker, that of a broker whose name goes on like the name of a
claim is reported, and that of a broker whose name just goes on is not. -/
theorem update_reports_longer_brokers_by_stem :
    (Provisioning.Sample.provisioning.update (StorageUpdate.resource "2Gi")
        { awaitReady := false }).Yields (StorageUpdate.exchanges "2Gi" Sample.listed)
      (.ok (StorageUpdate.outcome "2Gi" Sample.listed)) ∧
    (StorageUpdate.updated "2Gi").address = (StorageUpdate.resource "2Gi").address ∧
    Label.volumeClaim "broker-broker-ss-b" 0 ∈
      (StorageUpdate.outcome "2Gi" Sample.listed).unresizedClaims ∧
    ¬ Label.IsClaimOf "broker" (Label.volumeClaim "broker-broker-ss-b" 0) ∧
    Label.volumeClaim "broker-b" 0 ∉
      (StorageUpdate.outcome "2Gi" Sample.listed).unresizedClaims := by
  obtain ⟨haddress, -, hsized⟩ := Provisioning.update_reports_by_stem
    (StorageUpdate.update_yields "2Gi" Sample.listed)
  obtain ⟨earlier, listed, hrun, hreports⟩ := hsized "2Gi" rfl rfl
  obtain rfl := StorageUpdate.listed_eq_of_exchanges hrun
  obtain ⟨-, hstray, -⟩ := hreports _ Sample.isListed
  obtain ⟨hforeign, hreported⟩ := hstray
    (StorageUpdate.claim (Label.volumeClaim "broker-broker-ss-b" 0) "1Gi")
    (by simp [Inventory.ofClaims, Sample.claims]) "broker-broker-ss-b" 0 (by decide) rfl
    (by decide +kernel)
  obtain ⟨-, happart⟩ := hstray (StorageUpdate.claim (Label.volumeClaim "broker-b" 0) "1Gi")
    (by simp [Inventory.ofClaims, Sample.claims]) "broker-b" 0 (by decide) rfl (by decide +kernel)
  refine ⟨StorageUpdate.update_yields _ _, haddress (StorageUpdate.exchanges_faithful _ _),
    hreported.mpr ?_, hforeign, mt happart.mp ?_⟩
  · exact List.isPrefixOf_iff_prefix.mp (by decide +kernel)
  · exact mt List.isPrefixOf_iff_prefix.mpr (by decide +kernel)

end BrokerHarness
