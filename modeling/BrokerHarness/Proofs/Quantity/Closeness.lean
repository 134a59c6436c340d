import BrokerHarness.Proofs.Binary64.Arithmetic
import BrokerHarness.Resource.Quantity

/-!
# Close values

Two values are compared by the distance between them and by a multiple of the greater one.  The
multiple is exact, since the precision is a power of two, and so is the distance, if the values are
no further apart than one rounding may move them.  Then the comparison is the one of the rational
numbers (`close_of_near`).
-/

namespace BrokerHarness.Quantity

open Binary64 Float.Model Float.Model.UnpackedFloat

variable {x y : Float} {s s' : Sign} {v w : ℚ}

/-! ### Zeros -/

/-- `x` is zero, with either sign. -/
def IsZero (x : Float) : Prop := ∃ s, x = .ofModel (.pack (.zero s))

/-- The negation of zero is zero. -/
lemma IsZero.neg (h : IsZero x) : IsZero (-x) := by
  obtain ⟨s, rfl⟩ := h
  refine ⟨-s, ?_⟩
  cases s <;> decide +kernel

/-- Zero times a value is zero. -/
lemma IsZero.mul (hx : IsZero x) (hy : HasMagnitude y s v) : IsZero (x * y) := by
  obtain ⟨s', rfl⟩ := hx
  obtain ⟨m, e, hy, -⟩ := hy
  obtain ⟨hm, hunpack⟩ := hy.unpack_eq
  have hzero : (Float.Model.pack (.zero s')).unpack = .zero s' := unpack_packedZero
  refine ⟨s' * s, ?_⟩
  show Float.ofModel (.pack (UnpackedFloat.mul .binary64 (Float.Model.pack (.zero s')).unpack
    y.toModel.unpack)) = _
  rw [hzero, hunpack]
  rfl

/-- Zeros are the same, whatever their signs. -/
lemma close_of_isZero (hx : IsZero x) (hy : IsZero y) : close x y = true := by
  obtain ⟨s, rfl⟩ := hx
  obtain ⟨s', rfl⟩ := hy
  cases s <;> cases s' <;> decide +kernel

/-! ### Values at a small distance -/

/-- The precision is two to the minus fifty-second. -/
lemma hasMagnitude_precision : HasMagnitude precision .positive (2 ^ (-52 : ℤ)) := by
  have hword : precision = toFloat (2 ^ 52 + ((-104 : ℤ) + 1074).toNat * 2 ^ 52) := rfl
  refine ⟨2 ^ 52, -104, ?_, ?_⟩
  · rw [hword]
    exact isNormal_toFloat le_rfl (by norm_num) (by norm_num) (by norm_num)
  · norm_num

/-- What is compared with the distance of two values: the product is exact. -/
lemma hasMagnitude_precision_mul (hx : HasMagnitude x .positive v) (hv : 2 ^ (-960 : ℤ) ≤ v) :
    HasMagnitude (precision * x) .positive (v / 2 ^ 52) := by
  have hvalue : (2 : ℚ) ^ (-52 : ℤ) * v = v / 2 ^ 52 := by
    rw [zpow_neg, ← div_eq_inv_mul]
    rfl
  have hrange : InBinades (2 ^ (-52 : ℤ) * v) := by
    constructor
    · calc (2 : ℚ) ^ (-1022 : ℤ) ≤ 2 ^ (-52 : ℤ) * 2 ^ (-960 : ℤ) := by
            rw [← zpow_add₀ (by norm_num)]
            exact zpow_le_zpow_right₀ (by norm_num) (by norm_num)
        _ ≤ 2 ^ (-52 : ℤ) * v := mul_le_mul_of_nonneg_left hv (two_zpow_pos _).le
    · calc (2 : ℚ) ^ (-52 : ℤ) * v < 2 ^ (-52 : ℤ) * 2 ^ (1024 : ℤ) :=
            mul_lt_mul_of_pos_left hx.lt_two_zpow (two_zpow_pos _)
        _ ≤ 2 ^ (1023 : ℤ) := by
            rw [← zpow_add₀ (by norm_num)]
            exact zpow_le_zpow_right₀ (by norm_num) (by norm_num)
  obtain ⟨z, hrounds, hproduct⟩ := hasMagnitude_precision.mul hx hrange
  obtain ⟨m, e, hm, rfl⟩ := hx
  have hexact : z = 2 ^ (-52 : ℤ) * (m * 2 ^ e) := by
    refine hrounds.eq_self hm.mantissa_lt (j := e - 52) ?_
    rw [zpow_sub₀ (by norm_num), zpow_neg]
    ring
  rw [← hvalue, ← hexact]
  exact hproduct

/-- Values of one sign are close if they differ by no more than the precision of the greater
one. -/
lemma close_of_near (hx : HasMagnitude x s v) (hy : HasMagnitude y s w)
    (hnear : |v - w| ≤ max v w / 2 ^ 52) (hv : 2 ^ (-960 : ℤ) ≤ v) (hw : 2 ^ (-960 : ℤ) ≤ w) :
    close x y = true := by
  have hgreater : HasMagnitude (if x.abs < y.abs then y.abs else x.abs) .positive (max v w) := by
    split
    · rename_i hlt
      rw [hx.abs.lt_iff hy.abs] at hlt
      rw [max_eq_right hlt.le]
      exact hy.abs
    · rename_i hge
      rw [hx.abs.lt_iff hy.abs, not_lt] at hge
      rw [max_eq_left hge]
      exact hx.abs
  have hbound := hasMagnitude_precision_mul hgreater (hv.trans (le_max_left v w))
  unfold close
  rw [decide_eq_true_iff]
  by_cases hne : v = w
  · subst hne
    have hzero : (Float.ofModel (.pack (.zero .positive))).abs =
        .ofModel (.pack (.zero .positive)) := by
      decide +kernel
    obtain ⟨m, e, hbound, -⟩ := hbound
    rw [hx.sub_of_eq hy, hzero]
    exact hbound.zero_le
  · obtain ⟨s', hdifference⟩ := hx.sub hy hne hnear hv hw
    exact (hdifference.abs.le_iff hbound).mpr hnear

end BrokerHarness.Quantity
