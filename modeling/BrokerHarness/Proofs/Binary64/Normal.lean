import BrokerHarness.Proofs.Binary64.Nearest
import Mathlib

/-!
# Normal values

Values of 53 bits, by their sign, mantissa and exponent.  The mantissa is not stored as it is: its
first bit is always set and is left out, and the exponent is stored with an offset.  Packing and
unpacking are inverse to each other where the exponent fits (`unpack_pack_finite`), so what an
operation does can be read off the unpacked values.  Positive values are ordered by exponent and
mantissa, which is the order of the numbers that they stand for (`IsNormal.lt_iff`).
-/

namespace BrokerHarness.Binary64

open Float.Model Float.Model.UnpackedFloat

variable {x y : Float} {s s' : Sign} {m m' : ℕ} {e e' : ℤ}

/-- `x` has the sign `s` and the magnitude `m * 2 ^ e`, where `m` has 53 bits. -/
structure IsNormal (x : Float) (s : Sign) (m : ℕ) (e : ℤ) : Prop where
  mantissa_ge : 2 ^ 52 ≤ m
  mantissa_lt : m < 2 ^ 53
  exponent_ge : -1074 ≤ e
  exponent_le : e ≤ 971
  unpack_eq : ∃ hm, x.toModel.unpack = .finite s m e hm

/-! ### Packing -/

/-- The bit in front of the others is left out when a mantissa is packed. -/
lemma toNat_append_mantissa (hge : 2 ^ 52 ≤ m) (hlt : m < 2 ^ 53) :
    (1#1 ++ BitVec.ofNat 52 m).toNat = m := by
  rw [BitVec.toNat_append, ← Nat.shiftLeft_add_eq_or_of_lt (BitVec.isLt _), BitVec.toNat_ofNat,
    BitVec.toNat_ofNat, Nat.shiftLeft_eq]
  omega

/-- The stored exponent is 1075 above the exponent of the mantissa, and neither of the two that are
reserved. -/
lemma unpack_packComponents {k : ℕ} (hm : 0 < m) (hge : 2 ^ 52 ≤ m) (hlt : m < 2 ^ 53) (hk : 1 ≤ k)
    (hk' : k ≤ 2046) :
    UnpackedFloat.unpack .binary64
        (packComponents .binary64 s (BitVec.ofNat 11 k) (BitVec.ofNat 52 m)) =
      .finite s m (k - 1075) hm := by
  have hnat : (BitVec.ofNat 11 k).toNat = k := by
    rw [BitVec.toNat_ofNat]
    omega
  have hnot_infinite : BitVec.ofNat 11 k ≠ -1#11 := by
    intro h
    have htoNat : (BitVec.ofNat 11 k).toNat = 2047 := congrArg BitVec.toNat h
    omega
  have hnot_small : BitVec.ofNat 11 k ≠ 0#11 := by
    intro h
    have htoNat : (BitVec.ofNat 11 k).toNat = 0 := congrArg BitVec.toNat h
    omega
  have hmantissa := toNat_append_mantissa hge hlt
  unfold UnpackedFloat.unpack
  simp only [unpackMantissa_packComponents, unpackExponent_packComponents,
    unpackSign_packComponents, Sign.ofBitVec_toBitVec, hnot_infinite, hnot_small, if_false, hnat]
  congr 1

/-- A finite value with a full mantissa is packed without a loss. -/
lemma unpack_pack_finite (hm : 0 < m) (hge : 2 ^ 52 ≤ m) (hlt : m < 2 ^ 53) (he : -1074 ≤ e)
    (he' : e ≤ 971) : (Float.Model.pack (.finite s m e hm)).unpack = .finite s m e hm := by
  have hlog : m.log2 = 52 := (Nat.log2_eq_iff hm.ne').mpr ⟨hge, hlt⟩
  obtain ⟨k, rfl⟩ : ∃ k : ℕ, e = (k : ℤ) - 1075 := ⟨(e + 1075).toNat, by omega⟩
  have hbias : Format.binary64.exponentBias = 1023 := by decide
  have hbiased : ((k : ℤ) - 1075 + Format.binary64.exponentBias + (52 : ℕ)).toNat = k := by
    rw [hbias]
    omega
  have hpack : UnpackedFloat.pack .binary64 (.finite s m (k - 1075) hm) =
      packComponents .binary64 s (BitVec.ofNat 11 k) (BitVec.ofNat 52 m) := by
    unfold UnpackedFloat.pack
    simp only [hbiased, hlog]
    rw [if_neg (by omega), if_pos (by decide)]
  show UnpackedFloat.unpack .binary64 (UnpackedFloat.pack .binary64 _) = _
  rw [hpack]
  exact unpack_packComponents hm hge hlt (by omega) (by omega)

/-- An operation gives a normal value if what it packs has 53 bits. -/
lemma isNormal_pack (hm : 0 < m) (hge : 2 ^ 52 ≤ m) (hlt : m < 2 ^ 53) (he : -1074 ≤ e)
    (he' : e ≤ 971) : IsNormal (.ofModel (.pack (.finite s m e hm))) s m e :=
  ⟨hge, hlt, he, he', hm, unpack_pack_finite hm hge hlt he he'⟩

/-- The word of a mantissa of 53 bits. -/
lemma isNormal_toFloat (hge : 2 ^ 52 ≤ m) (hlt : m < 2 ^ 53) (he : -1074 ≤ e) (he' : e ≤ 971) :
    IsNormal (toFloat (m + (e + 1074).toNat * 2 ^ 52)) .positive m e := by
  have hm : 0 < m := by omega
  obtain ⟨k, rfl⟩ : ∃ k : ℕ, e = (k : ℤ) - 1075 := ⟨(e + 1075).toNat, by omega⟩
  have hword : (UInt64.ofNat (m + (((k : ℤ) - 1075) + 1074).toNat * 2 ^ 52)).toBitVec =
      packComponents .binary64 .positive (BitVec.ofNat 11 k) (BitVec.ofNat 52 m) := by
    apply BitVec.eq_of_toNat_eq
    unfold packComponents
    rw [BitVec.toNat_append, BitVec.toNat_append, ← Nat.shiftLeft_add_eq_or_of_lt (BitVec.isLt _),
      ← Nat.shiftLeft_add_eq_or_of_lt (BitVec.isLt _), Nat.shiftLeft_eq, Nat.shiftLeft_eq]
    have hsign : Sign.positive.toBitVec.toNat = 0 := rfl
    have hexponent : (BitVec.ofNat 11 k).toNat = k := by
      rw [BitVec.toNat_ofNat]
      omega
    have hmantissa : (BitVec.ofNat 52 m).toNat = m - 2 ^ 52 := by
      rw [BitVec.toNat_ofNat]
      omega
    rw [hsign, hexponent, hmantissa, UInt64.toNat_toBitVec, UInt64.toNat_ofNat']
    omega
  have hunpack : UnpackedFloat.unpack .binary64
      (UInt64.ofNat (m + (((k : ℤ) - 1075) + 1074).toNat * 2 ^ 52)).toBitVec =
        .finite .positive m (k - 1075) hm := by
    rw [hword]
    exact unpack_packComponents hm hge hlt (by omega) (by omega)
  have hmodel : toFloat (m + (((k : ℤ) - 1075) + 1074).toNat * 2 ^ 52) =
      .ofModel (.pack (.finite .positive m (k - 1075) hm)) := by
    rw [← hunpack]
    rfl
  rw [hmodel]
  exact isNormal_pack hm hge hlt he he'

/-! ### Signs -/

/-- Values are compared by what they unpack to. -/
lemma float_lt_iff : x < y ↔ x.toModel.unpack.lt y.toModel.unpack = true := by
  show Float.lt x y = true ↔ _
  unfold Float.lt
  rw [decide_eq_true_iff]
  exact Iff.rfl

/-- Values are compared by what they unpack to. -/
lemma float_le_iff : x ≤ y ↔ x.toModel.unpack.le y.toModel.unpack = true := by
  show Float.le x y = true ↔ _
  unfold Float.le
  rw [decide_eq_true_iff]
  exact Iff.rfl

namespace IsNormal

/-- The negation of a normal value is normal, with the other sign. -/
lemma neg (h : IsNormal x s m e) : IsNormal (-x) (-s) m e := by
  obtain ⟨hm, hunpack⟩ := h.unpack_eq
  have hneg : -x = .ofModel (.pack (.finite (-s) m e hm)) := by
    show Float.ofModel (.pack (UnpackedFloat.neg x.toModel.unpack)) = _
    rw [hunpack]
    rfl
  rw [hneg]
  exact isNormal_pack hm h.mantissa_ge h.mantissa_lt h.exponent_ge h.exponent_le

/-- The absolute value of a normal value is normal. -/
lemma abs (h : IsNormal x s m e) : IsNormal x.abs .positive m e := by
  obtain ⟨hm, hunpack⟩ := h.unpack_eq
  have habs : x.abs = .ofModel (.pack (.finite .positive m e hm)) := by
    show Float.ofModel (.pack (UnpackedFloat.abs x.toModel.unpack)) = _
    rw [hunpack]
    rfl
  rw [habs]
  exact isNormal_pack hm h.mantissa_ge h.mantissa_lt h.exponent_ge h.exponent_le

/-! ### Order -/

/-- A normal value is not zero. -/
lemma magnitude_pos (h : IsNormal x s m e) : (0 : ℚ) < m * 2 ^ e := by
  obtain ⟨hm, -⟩ := h.unpack_eq
  exact mul_pos (by exact_mod_cast hm) (two_zpow_pos e)

/-- A mantissa has at most 53 bits. -/
lemma magnitude_lt (h : IsNormal x s m e) : (m : ℚ) * 2 ^ e < 2 ^ 53 * 2 ^ e := by
  have hm : (m : ℚ) < 2 ^ 53 := by exact_mod_cast h.mantissa_lt
  exact mul_lt_mul_of_pos_right hm (two_zpow_pos e)

/-- A greater exponent outweighs every mantissa. -/
lemma magnitude_lt_iff (h : IsNormal x s m e) (h' : IsNormal y s' m' e') :
    (m : ℚ) * 2 ^ e < m' * 2 ^ e' ↔ e < e' ∨ e = e' ∧ m < m' := by
  have key : ∀ {x y : Float} {s s' : Sign} {m m' : ℕ} {e e' : ℤ}, IsNormal x s m e →
      IsNormal y s' m' e' → e < e' → (m : ℚ) * 2 ^ e < m' * 2 ^ e' := by
    intro x y s s' m m' e e' h h' hlt
    have hm' : (2 : ℚ) ^ 52 ≤ m' := by exact_mod_cast h'.mantissa_ge
    calc (m : ℚ) * 2 ^ e < 2 ^ 53 * 2 ^ e := h.magnitude_lt
      _ = 2 ^ 52 * 2 ^ (e + 1) := by
          rw [zpow_add₀ (by norm_num), zpow_one]
          ring
      _ ≤ 2 ^ 52 * 2 ^ e' :=
          mul_le_mul_of_nonneg_left (zpow_le_zpow_right₀ (by norm_num) hlt) (by positivity)
      _ ≤ m' * 2 ^ e' := mul_le_mul_of_nonneg_right hm' (two_zpow_pos e').le
  rcases lt_trichotomy e e' with hlt | rfl | hgt
  · exact iff_of_true (key h h' hlt) (Or.inl hlt)
  · rw [mul_lt_mul_iff_left₀ (two_zpow_pos e), Nat.cast_lt]
    simp
  · exact iff_of_false (key h' h hgt).le.not_gt (by omega)

/-- Positive values are compared by their magnitudes. -/
lemma lt_iff (h : IsNormal x .positive m e) (h' : IsNormal y .positive m' e') :
    x < y ↔ (m : ℚ) * 2 ^ e < m' * 2 ^ e' := by
  obtain ⟨hm, hunpack⟩ := h.unpack_eq
  obtain ⟨hm', hunpack'⟩ := h'.unpack_eq
  rw [float_lt_iff, hunpack, hunpack', h.magnitude_lt_iff h']
  show ((some ((compare e e').then (compare m m'))) == some .lt) = true ↔ _
  rw [beq_iff_eq, Option.some_inj, Ordering.then_eq_lt, Std.compare_eq_lt, compare_eq_iff_eq,
    Std.compare_eq_lt]

/-- Positive normal values are ordered by their magnitudes. -/
lemma le_iff (h : IsNormal x .positive m e) (h' : IsNormal y .positive m' e') :
    x ≤ y ↔ (m : ℚ) * 2 ^ e ≤ m' * 2 ^ e' := by
  obtain ⟨hm, hunpack⟩ := h.unpack_eq
  obtain ⟨hm', hunpack'⟩ := h'.unpack_eq
  rw [float_le_iff, hunpack, hunpack', ← not_lt, h'.magnitude_lt_iff h]
  show ((compare e e').then (compare m m')).isLE = true ↔ _
  rw [Ordering.isLE_then_iff_or, Std.compare_eq_lt, compare_eq_iff_eq, Std.isLE_compare]
  omega

/-- Zero is at most any positive normal value. -/
lemma zero_le (h : IsNormal x .positive m e) :
    Float.ofModel (.pack (.zero .positive)) ≤ x := by
  obtain ⟨hm, hunpack⟩ := h.unpack_eq
  have hzero : (Float.Model.pack (.zero .positive)).unpack = .zero .positive := unpack_packedZero
  rw [float_le_iff, hunpack, hzero]
  rfl

end IsNormal

end BrokerHarness.Binary64
