import BrokerHarness.Proofs.Quantity.Amount
import BrokerHarness.Proofs.Resource.StrayClaims

/-!
# Claims that ask for the size in another notation

A claim may ask for the size of the spec in another notation, since a cluster rewrites quantities.
An update does not report it as long as both texts are read as numbers and at least one of the
values was rounded only once (`Quantity.Literal.Interchangeable`).  The suffixes for fractions are
not read at all: then the texts are compared, and the claim is reported although its size is that of
the spec.
-/

namespace BrokerHarness

namespace Provisioning

open Quantity

variable {resource : Resource}

/-- In a full list names are not repeated, so what is reported of an object is decided by its
size. -/
lemma name_mem_reported_iff {inventory : Inventory} {listed : List Snapshot} {claim : Snapshot}
    {size : String}
    (hlisted : inventory.IsListed .persistentVolumeClaim resource.ns
      (Label.volumeClaimStem resource.name) listed)
    (hclaim : claim ∈ inventory.objects) (htaken : TakenForClaim resource claim) :
    claim.name ∈ (listed.filter (hasOtherSize size)).map Snapshot.name ↔
      hasOtherSize size claim = true := by
  have hmem : claim ∈ listed :=
    (hlisted.mem_iff claim).mpr ⟨hclaim, htaken.kind, htaken.scope, htaken.stem⟩
  rw [List.mem_map]
  constructor
  · rintro ⟨claim', hclaim', hname⟩
    obtain ⟨hmem', hother⟩ := List.mem_filter.mp hclaim'
    rwa [← hlisted.eq_of_name_eq hmem' hmem hname]
  · exact fun hother => ⟨claim, List.mem_filter.mpr ⟨hmem, hother⟩, rfl⟩

/-- Two texts, of which one has a suffix for fractions, are the same quantity if they are the same
text.  Two other notations of one amount are the same quantity, unless the amount is extreme or both
are rounded twice and in different ways.  Behind an update to the second of the texts as a size of
storage, the last request lists the claims.  If this list answers all that are on the cluster, then
an object that is taken for a claim of the broker and asks for the first text is reported in the
first case if the texts differ, and is not reported in the second case. -/
theorem update_accounts_for_other_notations (a b : Literal) :
    (a.IsFractional ∨ b.IsFractional → (same a.text b.text = true ↔ a.text = b.text)) ∧
    (a.Interchangeable b → same a.text b.text = true) ∧
    ∀ (provisioning : Provisioning) resource options t outcome,
      (provisioning.update resource options).Yields t (.ok outcome) →
        outcome.resource.kind = .broker → storageSize? outcome.resource.body = some b.text →
          ∃ earlier listed, t = earlier ++ [claimsListing outcome.resource listed] ∧
            ∀ inventory : Inventory,
              inventory.IsListed .persistentVolumeClaim outcome.resource.ns
                (Label.volumeClaimStem outcome.resource.name) listed →
              ∀ claim ∈ inventory.objects, TakenForClaim outcome.resource claim →
                requestedSize? claim = some a.text →
                  (a.IsFractional ∨ b.IsFractional →
                    (claim.name ∈ outcome.unresizedClaims ↔ a.text ≠ b.text)) ∧
                  (a.Interchangeable b → claim.name ∉ outcome.unresizedClaims) := by
  refine ⟨Literal.same_iff_of_fractional, fun h => h.same, ?_⟩
  intro provisioning resource options t outcome h hkind hsize
  obtain ⟨earlier, listed, hlast, hnames⟩ := exists_claimsListing h hkind hsize
  refine ⟨earlier, listed, hlast, ?_⟩
  intro inventory hlisted claim hclaim htaken hrequested
  rw [hnames, name_mem_reported_iff hlisted hclaim htaken, hasOtherSize_eq_not_same hrequested,
    Bool.not_eq_true']
  refine ⟨fun hfractional => ?_, fun hinterchangeable => ?_⟩
  · rw [← Bool.not_eq_true, Literal.same_iff_of_fractional hfractional]
  · rw [hinterchangeable.same]
    exact Bool.noConfusion

end Provisioning

/-! ### Updates beside claims in other notations -/

namespace Notations.Sample

open Quantity

/-- One and a half, and as many thousandths. -/
def half : Literal where
  sign := .absent
  whole := ['1']
  fraction := some ['5']
  ending := .plain

def halfInThousandths : Literal where
  sign := .absent
  whole := ['1', '5', '0', '0']
  fraction := none
  ending := .suffix .m

/-- A number of thousands, and of as many millions. -/
def thousands : Literal where
  sign := .absent
  whole := ['1']
  fraction := some ['0', '0', '7']
  ending := .suffix .k

def millions : Literal where
  sign := .absent
  whole := ['0']
  fraction := some ['0', '0', '1', '0', '0', '7']
  ending := .suffix .M

/-- Both notations are of one and a half. -/
lemma amount_half : half.amount = 3 / 2 ∧ halfInThousandths.amount = 3 / 2 := by
  have hdigits : Text.digitsValue half.digits = 15 ∧
      Text.digitsValue halfInThousandths.digits = 1500 := by decide
  constructor
  · rw [Literal.amount, Literal.mantissa, hdigits.1]
    norm_num [half, Literal.places, Ending.factor, SignMark.apply]
  · rw [Literal.amount, Literal.mantissa, hdigits.2]
    norm_num [halfInThousandths, Literal.places, Ending.factor, Suffix.factor, Suffix.base,
      Suffix.power, SignMark.apply]

/-- Both notations are of one thousand and seven. -/
lemma amount_thousands : thousands.amount = 1007 ∧ millions.amount = 1007 := by
  have hdigits : Text.digitsValue thousands.digits = 1007 ∧
      Text.digitsValue millions.digits = 1007 := by decide
  constructor
  · rw [Literal.amount, Literal.mantissa, hdigits.1]
    norm_num [thousands, Literal.places, Ending.factor, Suffix.factor, Suffix.base,
      Suffix.power, SignMark.apply]
  · rw [Literal.amount, Literal.mantissa, hdigits.2]
    norm_num [millions, Literal.places, Ending.factor, Suffix.factor, Suffix.base,
      Suffix.power, SignMark.apply]

/-- The only claim of the broker. -/
def halfClaims : List Snapshot := [StorageUpdate.claim (Label.volumeClaim "broker" 0) "1500m"]

/-- The size of the broker, and the same in another unit and in thousandths. -/
def size : Literal where
  sign := .absent
  whole := ['1']
  fraction := none
  ending := .suffix .Gi

def sizeInMebibytes : Literal where
  sign := .absent
  whole := ['1', '0', '2', '4']
  fraction := none
  ending := .suffix .Mi

def sizeInThousandths : Literal where
  sign := .absent
  whole := "1073741824000".toList
  fraction := none
  ending := .suffix .m
  all_isDigit_whole := by decide +kernel
  digits_ne_nil := by decide +kernel

/-- Both notations are of two to the thirtieth. -/
lemma amount_size : size.amount = 2 ^ 30 ∧ sizeInMebibytes.amount = 2 ^ 30 := by
  have hdigits : Text.digitsValue size.digits = 1 ∧
      Text.digitsValue sizeInMebibytes.digits = 1024 := by decide
  constructor
  · rw [Literal.amount, Literal.mantissa, hdigits.1]
    norm_num [size, Literal.places, Ending.factor, Suffix.factor, Suffix.base, Suffix.power,
      SignMark.apply]
  · rw [Literal.amount, Literal.mantissa, hdigits.2]
    norm_num [sizeInMebibytes, Literal.places, Ending.factor, Suffix.factor, Suffix.base,
      Suffix.power, SignMark.apply]

/-- Both notations are of one ordinary amount, and one of them is rounded only once. -/
lemma interchangeable : sizeInMebibytes.Interchangeable size where
  left := by
    rintro ⟨s, hs, hpower⟩
    cases hs
    exact absurd hpower (by decide)
  right := by
    rintro ⟨s, hs, hpower⟩
    cases hs
    exact absurd hpower (by decide)
  amount_eq := by rw [amount_size.1, amount_size.2]
  ordinary := by
    rw [amount_size.2]
    refine Or.inr ⟨?_, ?_⟩
    · rw [abs_of_pos (by norm_num)]
      exact (zpow_le_one_of_nonpos₀ (by norm_num) (by norm_num)).trans (by norm_num)
    · rw [abs_of_pos (by norm_num)]
      calc (2 : ℚ) ^ 30 ≤ 10 ^ (10 : ℤ) := by norm_num
        _ ≤ 10 ^ (300 : ℤ) := zpow_le_zpow_right₀ (by norm_num) (by norm_num)
  once := by
    refine Or.inl fun s hs hbase => ?_
    cases hs
    exact absurd hbase (by decide)

/-- Two claims of the broker. -/
def claims : List Snapshot :=
  [StorageUpdate.claim (Label.volumeClaim "broker" 0) "1024Mi",
    StorageUpdate.claim (Label.volumeClaim "broker" 1) "1073741824000m"]

lemma names_nodup : (claims.map Snapshot.name).Nodup := by decide +kernel

def listed : List Snapshot :=
  claims.filter fun claim => Text.startsWith (Label.volumeClaimStem "broker") claim.name

lemma isListed : (Inventory.ofClaims claims names_nodup).IsListed .persistentVolumeClaim "test"
    (Label.volumeClaimStem "broker") listed :=
  Inventory.ofClaims_isListed names_nodup (by simp [claims, StorageUpdate.claim])

end Notations.Sample

open Notations Quantity in
/-- A claim that asks for one and a half in thousandths is reported behind the update to this size.
Texts for the same number of thousands and of millions are not the same quantity either. -/
theorem update_reports_claim_in_thousandths :
    Sample.half.text = "1.5" ∧ Sample.halfInThousandths.text = "1500m" ∧
    Sample.half.amount = Sample.halfInThousandths.amount ∧ same "1500m" "1.5" = false ∧
    (Provisioning.Sample.provisioning.update (StorageUpdate.resource "1.5")
        { awaitReady := false }).Yields (StorageUpdate.exchanges "1.5" Sample.halfClaims)
      (.ok (StorageUpdate.outcome "1.5" Sample.halfClaims)) ∧
    (StorageUpdate.outcome "1.5" Sample.halfClaims).unresizedClaims = ["broker-broker-ss-0"] ∧
    Sample.thousands.text = "1.007k" ∧ Sample.millions.text = "0.001007M" ∧
    Sample.thousands.amount = Sample.millions.amount ∧ same "1.007k" "0.001007M" = false := by
  refine ⟨by decide +kernel, by decide +kernel, ?_, by decide +kernel,
    StorageUpdate.update_yields _ _, by decide +kernel, by decide +kernel, by decide +kernel, ?_,
    by decide +kernel⟩
  · rw [Sample.amount_half.1, Sample.amount_half.2]
  · rw [Sample.amount_thousands.1, Sample.amount_thousands.2]

open Notations Quantity in
/-- Of two claims that ask for the size of the broker in another notation, the one with a unit is
not reported, and the one with thousandths is. -/
theorem update_reports_other_notations_without_value :
    Sample.sizeInMebibytes.text = "1024Mi" ∧ Sample.size.text = "1Gi" ∧
    Sample.sizeInMebibytes.Interchangeable Sample.size ∧ same "1024Mi" "1Gi" = true ∧
    Sample.sizeInThousandths.IsFractional ∧
    (same "1073741824000m" "1Gi" = true ↔ "1073741824000m" = "1Gi") ∧
    (Provisioning.Sample.provisioning.update (StorageUpdate.resource "1Gi")
        { awaitReady := false }).Yields (StorageUpdate.exchanges "1Gi" Sample.listed)
      (.ok (StorageUpdate.outcome "1Gi" Sample.listed)) ∧
    Label.volumeClaim "broker" 0 ∉ (StorageUpdate.outcome "1Gi" Sample.listed).unresizedClaims ∧
    Label.volumeClaim "broker" 1 ∈ (StorageUpdate.outcome "1Gi" Sample.listed).unresizedClaims := by
  have hmebibytes : Sample.sizeInMebibytes.text = "1024Mi" := by decide +kernel
  have hsize : Sample.size.text = "1Gi" := by decide +kernel
  have hthousandths : Sample.sizeInThousandths.text = "1073741824000m" := by decide +kernel
  have hfractional : Sample.sizeInThousandths.IsFractional := ⟨.m, rfl, by decide⟩
  have hyields := StorageUpdate.update_yields "1Gi" Sample.listed
  have hstored : Provisioning.storageSize? (StorageUpdate.bodyOf "1Gi") =
      some Sample.size.text := by
    rw [hsize]
    rfl
  obtain ⟨-, hsame, hresized⟩ := Provisioning.update_accounts_for_other_notations
    Sample.sizeInMebibytes Sample.size
  obtain ⟨htexts, -, hretained⟩ := Provisioning.update_accounts_for_other_notations
    Sample.sizeInThousandths Sample.size
  have hmebibytes_same := hsame Sample.interchangeable
  have hthousandths_same := htexts (Or.inl hfractional)
  rw [hmebibytes, hsize] at hmebibytes_same
  rw [hthousandths, hsize] at hthousandths_same
  obtain ⟨_, listed, hrun, hunreported⟩ := hresized _ _ _ _ _ hyields rfl hstored
  obtain rfl := StorageUpdate.listed_eq_of_exchanges hrun
  obtain ⟨-, hunreported⟩ := hunreported _ Sample.isListed
    (StorageUpdate.claim (Label.volumeClaim "broker" 0) "1024Mi")
    (by simp [Inventory.ofClaims, Sample.claims]) ⟨rfl, rfl, by decide +kernel⟩
    (by rw [hmebibytes]; rfl)
  obtain ⟨_, listed, hrun, hreported⟩ := hretained _ _ _ _ _ hyields rfl hstored
  obtain rfl := StorageUpdate.listed_eq_of_exchanges hrun
  obtain ⟨hreported, -⟩ := hreported _ Sample.isListed
    (StorageUpdate.claim (Label.volumeClaim "broker" 1) "1073741824000m")
    (by simp [Inventory.ofClaims, Sample.claims]) ⟨rfl, rfl, by decide +kernel⟩
    (by rw [hthousandths]; rfl)
  refine ⟨hmebibytes, hsize, Sample.interchangeable, hmebibytes_same, hfractional,
    hthousandths_same, hyields, hunreported Sample.interchangeable,
    (hreported (Or.inl hfractional)).mpr ?_⟩
  rw [hthousandths, hsize]
  decide

end BrokerHarness
