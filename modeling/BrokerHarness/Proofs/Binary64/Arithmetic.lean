import BrokerHarness.Proofs.Binary64.Decimal
import BrokerHarness.Proofs.Binary64.Normal

/-!
# Arithmetic of normal values

Operations work on mantissas that may have more bits than are stored.  Too many bits are shifted out
one by one, and all that is kept of them are the first one and whether any other is set.  This is
enough to find the nearest mantissa (`roundedMantissa_shiftRight`), so a product is the rounding of
the exact product (`HasMagnitude.mul`).

Differences of values that lie next to each other are exact: in units of the smaller place they are
small integers (`IsNormal.sub_eq`), and those need no rounding.
-/

namespace BrokerHarness.Binary64

open Float.Model Float.Model.UnpackedFloat

variable {x y : Float} {s s' : Sign} {m m' : ℕ} {e e' : ℤ} {v w : ℚ}

/-- `x` is a normal value of sign `s` and magnitude `v`. -/
def HasMagnitude (x : Float) (s : Sign) (v : ℚ) : Prop := ∃ m e, IsNormal x s m e ∧ v = m * 2 ^ e

/-! ### Rounding of mantissas -/

/-- The bits that are shifted out of a mantissa, reduced to the first of them and to whether any
other one is set. -/
lemma shiftRight_eq (m k : ℕ) :
    ExtendedMantissa.ofMantissaAndAccuracy m .exact >>> k =
      ⟨m / 2 ^ k, decide (2 ^ k ≤ 2 * (m % 2 ^ k)),
        decide (2 * (m % 2 ^ k) ≠ 0 ∧ 2 * (m % 2 ^ k) ≠ 2 ^ k)⟩ := by
  induction k with
  | zero => simp [HShiftRight.hShiftRight, Nat.repeat, ExtendedMantissa.ofMantissaAndAccuracy,
      Nat.mod_one]
  | succ k ih =>
    have hstep : ExtendedMantissa.ofMantissaAndAccuracy m .exact >>> (k + 1) =
        (ExtendedMantissa.ofMantissaAndAccuracy m .exact >>> k).shiftRightOne := rfl
    have hlt : m % 2 ^ k < 2 ^ k := Nat.mod_lt m (by positivity)
    have hmod : m % 2 ^ (k + 1) = m % 2 ^ k + 2 ^ k * (m / 2 ^ k % 2) := Nat.mod_pow_succ
    rw [hstep, ih, ExtendedMantissa.shiftRightOne, ExtendedMantissa.mk.injEq]
    refine ⟨?_, ?_, ?_⟩
    · rw [Nat.div_div_eq_div_mul, ← pow_succ]
    · rw [hmod, pow_succ]
      rcases Nat.mod_two_eq_zero_or_one (m / 2 ^ k) with hbit | hbit
      · simp only [hbit]
        simp
        omega
      · simp only [hbit]
        simp
        omega
    · rw [hmod, pow_succ, ← Bool.decide_or, decide_eq_decide]
      rcases Nat.mod_two_eq_zero_or_one (m / 2 ^ k) with hbit | hbit
      · rw [hbit]
        omega
      · rw [hbit]
        omega

/-- The mantissa that is left is the nearest one. -/
lemma roundedMantissa_shiftRight (m k : ℕ) :
    (ExtendedMantissa.ofMantissaAndAccuracy m .exact >>> k).roundedMantissa =
      nearestQuotient m (2 ^ k) := by
  have hpos : 0 < 2 ^ k := by positivity
  rw [shiftRight_eq]
  unfold nearestQuotient ExtendedMantissa.roundedMantissa
  simp only
  split
  · rename_i hlt
    rw [decide_eq_false hlt.not_ge]
    cases decide (2 * (m % 2 ^ k) ≠ 0 ∧ 2 * (m % 2 ^ k) ≠ 2 ^ k) <;> rfl
  · split
    · rename_i hgt
      rw [decide_eq_true hgt.le, decide_eq_true (by omega)]
      rfl
    · rw [decide_eq_true (by omega), decide_eq_false (by omega)]
      rfl

/-- A mantissa has 53 bits, unless the least exponent leaves fewer. -/
lemma targetExponent_eq (e : ℤ) : Format.binary64.targetExponent e = max (e - 53) (-1074) := rfl

/-- A mantissa that has too many bits is shifted until it has 53. -/
lemma shiftToTargetExponent_eq (m : ℕ) (e : ℤ) (k : ℕ) (hlog : m.log2 = 52 + k)
    (he : -1074 ≤ e + k) :
    shiftToTargetExponent .binary64 m e .exact =
      (ExtendedMantissa.ofMantissaAndAccuracy m .exact >>> k, e + k) := by
  have htarget : Format.binary64.targetExponent (totalExponent m e) = e + k := by
    rw [targetExponent_eq, totalExponent, hlog]
    omega
  have hshift : (Format.binary64.targetExponent (totalExponent m e) - e).toNat = k := by
    rw [htarget]
    omega
  unfold shiftToTargetExponent shiftToExponent
  simp only [hshift]

/-- The mantissa behind the greatest one is carried into the exponent. -/
lemma carry_eq (e : ℤ) : ((2 ^ 53 : ℕ) : ℚ) * 2 ^ e = (2 ^ 52 : ℕ) * 2 ^ (e + 1) := by
  rw [zpow_add₀ (by norm_num), zpow_one]
  push_cast
  ring

/-- A mantissa of 53 bits, or the one behind the greatest of them, is kept or carried. -/
lemma hasMagnitude_carried (hge : 2 ^ 52 ≤ m) (hle : m ≤ 2 ^ 53) (he : -1074 ≤ e) (he' : e ≤ 970) :
    ∃ m' e' hm, shiftToTargetExponent .binary64 m e .exact = (⟨m', false, false⟩, e') ∧
      HasMagnitude (.ofModel (.pack (.finite s m' e' hm))) s (m * 2 ^ e) := by
  rcases hle.lt_or_eq with hlt | rfl
  · have hlog : m.log2 = 52 + 0 := (Nat.log2_eq_iff (by omega)).mpr ⟨hge, hlt⟩
    refine ⟨m, e, by omega, ?_, m, e, isNormal_pack (by omega) hge hlt he (by omega), rfl⟩
    rw [shiftToTargetExponent_eq m e 0 hlog (by omega), shiftRight_eq]
    simp [Nat.mod_one]
  · have hlog : (2 ^ 53).log2 = 52 + 1 := Nat.log2_two_pow
    refine ⟨2 ^ 52, e + 1, by norm_num, ?_, 2 ^ 52, e + 1,
      isNormal_pack (by norm_num) le_rfl (by norm_num) (by omega) (by omega), carry_eq e⟩
    rw [shiftToTargetExponent_eq _ e 1 hlog (by omega), shiftRight_eq]
    simp

/-- A number with a mantissa of 53 bits or more is rounded to the nearest value. -/
lemma hasMagnitude_roundWithAccuracy (hm : 2 ^ 52 ≤ m) (hrange : InBinades (m * 2 ^ e)) :
    ∃ v, RoundsTo (m * 2 ^ e) v ∧
      HasMagnitude (.ofModel (.pack (roundWithAccuracy .binary64 s m e .exact))) s v := by
  obtain ⟨k, hlog⟩ : ∃ k, m.log2 = 52 + k :=
    ⟨m.log2 - 52, by have := (Nat.le_log2 (by omega)).mpr hm; omega⟩
  have hplace := two_zpow_pos (e + k)
  have hratio : ((m : ℚ) / (2 ^ k : ℕ)) * 2 ^ (e + k) = m * 2 ^ e := by
    rw [zpow_add₀ (by norm_num), zpow_natCast]
    push_cast
    field_simp
  have hge : 2 ^ 52 * 2 ^ k ≤ m := by
    rw [← pow_add, ← hlog]
    exact Nat.log2_self_le (by omega)
  have hlt : m < 2 ^ 53 * 2 ^ k := by
    rw [← pow_add, show 53 + k = m.log2 + 1 by omega]
    exact Nat.lt_log2_self
  have hnearest := isNearest_nearestQuotient (by positivity) hge hlt (e + k)
  rw [hratio] at hnearest
  obtain ⟨he, he'⟩ := hrange.exponent_bounds hnearest.lower hnearest.upper
  obtain ⟨hge', hle'⟩ := hnearest.mantissa_bounds
  obtain ⟨m', e', hm', hcarried, hmagnitude⟩ := hasMagnitude_carried (s := s) hge' hle' he he'
  refine ⟨_, ⟨_, _, hnearest, rfl⟩, ?_⟩
  unfold roundWithAccuracy
  simp only [shiftToTargetExponent_eq m e k hlog he, roundedMantissa_shiftRight, hcarried]
  rw [dif_neg hm'.ne']
  exact hmagnitude

/-- A number with a mantissa of fewer bits is kept. -/
lemma hasMagnitude_round (hm : 0 < m) (hlt : m < 2 ^ 53) (hrange : InBinades (m * 2 ^ e)) :
    HasMagnitude (.ofModel (.pack (UnpackedFloat.round .binary64 s m e))) s (m * 2 ^ e) := by
  have hlog_le : m.log2 < 53 := (Nat.log2_lt hm.ne').mpr hlt
  have hm_ge : 2 ^ m.log2 ≤ m := Nat.log2_self_le hm.ne'
  -- The number is not too small for a mantissa of 53 bits.
  have hexponent : -1022 < (m.log2 : ℤ) + 1 + e := by
    have hupper : (m : ℚ) * 2 ^ e < 2 ^ ((m.log2 : ℤ) + 1 + e) := by
      rw [zpow_add₀ (by norm_num)]
      refine mul_lt_mul_of_pos_right ?_ (two_zpow_pos e)
      exact_mod_cast Nat.lt_log2_self
    exact (zpow_lt_zpow_iff_right₀ (by norm_num)).mp (hrange.1.trans_lt hupper)
  obtain ⟨k, hk⟩ : ∃ k, m.log2 + k = 52 := ⟨52 - m.log2, by omega⟩
  have htarget : Format.binary64.targetExponent (totalExponent m e) = e - k := by
    rw [targetExponent_eq, totalExponent]
    omega
  have hshift : (e - (e - (k : ℤ))).toNat = k := by omega
  have hround : UnpackedFloat.round .binary64 s m e =
      roundWithAccuracy .binary64 s (m * 2 ^ k) (e - k) .exact := by
    unfold UnpackedFloat.round decreaseExponent
    simp only [htarget, hshift, Nat.shiftLeft_eq]
  have hvalue : ((m * 2 ^ k : ℕ) : ℚ) * 2 ^ (e - (k : ℤ)) = m * 2 ^ e := by
    rw [zpow_sub₀ (by norm_num), zpow_natCast]
    push_cast
    field_simp
  have hge : 2 ^ 52 ≤ m * 2 ^ k := by
    rw [← hk, pow_add]
    exact Nat.mul_le_mul_right _ hm_ge
  rw [← hvalue] at hrange
  obtain ⟨v, hrounds, hmagnitude⟩ := hasMagnitude_roundWithAccuracy (s := s) hge hrange
  rw [hvalue] at hrounds
  rwa [hround, ← hrounds.eq_self hlt rfl]

/-! ### Words -/

/-- A word stands for its mantissa, also if that was rounded up to the next binade. -/
lemma hasMagnitude_toFloat (hge : 2 ^ 52 ≤ m) (hle : m ≤ 2 ^ 53) (he : -1074 ≤ e) (he' : e ≤ 970) :
    HasMagnitude (toFloat (m + (e + 1074).toNat * 2 ^ 52)) .positive (m * 2 ^ e) := by
  rcases hle.lt_or_eq with hlt | rfl
  · exact ⟨m, e, isNormal_toFloat hge hlt he (by omega), rfl⟩
  · have hcarry : 2 ^ 53 + (e + 1074).toNat * 2 ^ 52 = 2 ^ 52 + (e + 1 + 1074).toNat * 2 ^ 52 := by
      omega
    rw [hcarry]
    exact ⟨2 ^ 52, e + 1, isNormal_toFloat le_rfl (by norm_num) (by omega) (by omega), carry_eq e⟩

/-- A decimal number in the range of the values is read as the nearest value. -/
lemma hasMagnitude_ofDecimal {digits : List Char} {exponent : ℤ}
    (hdigits : ∀ c ∈ digits, c.isDigit = true)
    (hrange : InBinades (Text.digitsValue digits * 10 ^ exponent)) :
    ∃ v, RoundsTo (Text.digitsValue digits * 10 ^ exponent) v ∧
      HasMagnitude (toFloat (ofDecimal digits exponent)) .positive v := by
  obtain ⟨m, e, hnearest, he, he', hword⟩ := ofDecimal_eq hdigits hrange
  obtain ⟨hge, hle⟩ := hnearest.mantissa_bounds
  rw [hword]
  exact ⟨_, ⟨m, e, hnearest, rfl⟩, hasMagnitude_toFloat hge hle he he'⟩

/-! ### Products -/

/-- A negation changes the sign and keeps the magnitude. -/
lemma HasMagnitude.neg (h : HasMagnitude x s v) : HasMagnitude (-x) (-s) v := by
  obtain ⟨m, e, hx, rfl⟩ := h
  exact ⟨m, e, hx.neg, rfl⟩

/-- An absolute value keeps the magnitude. -/
lemma HasMagnitude.abs (h : HasMagnitude x s v) : HasMagnitude x.abs .positive v := by
  obtain ⟨m, e, hx, rfl⟩ := h
  exact ⟨m, e, hx.abs, rfl⟩

/-- A product is rounded once. -/
lemma HasMagnitude.mul (hx : HasMagnitude x s v) (hy : HasMagnitude y s' w)
    (hrange : InBinades (v * w)) : ∃ z, RoundsTo (v * w) z ∧ HasMagnitude (x * y) (s * s') z := by
  obtain ⟨m, e, hx, rfl⟩ := hx
  obtain ⟨m', e', hy, rfl⟩ := hy
  obtain ⟨hm, hunpack⟩ := hx.unpack_eq
  obtain ⟨hm', hunpack'⟩ := hy.unpack_eq
  have hproduct : x * y =
      .ofModel (.pack (roundWithAccuracy .binary64 (s * s') (m * m') (e + e') .exact)) := by
    show Float.ofModel (.pack (UnpackedFloat.mul .binary64 x.toModel.unpack y.toModel.unpack)) = _
    rw [hunpack, hunpack']
    rfl
  have hvalue : (m * 2 ^ e * (m' * 2 ^ e') : ℚ) = (m * m' : ℕ) * 2 ^ (e + e') := by
    rw [zpow_add₀ (by norm_num)]
    push_cast
    ring
  have hge : 2 ^ 52 ≤ m * m' := hx.mantissa_ge.trans (Nat.le_mul_of_pos_right m hm')
  rw [hvalue] at hrange ⊢
  rw [hproduct]
  exact hasMagnitude_roundWithAccuracy hge hrange

/-! ### Differences -/

/-- Mantissas of fewer bits are kept, with either sign. -/
lemma hasMagnitude_normalize {d : ℤ} (hne : d ≠ 0) (hlt : d.natAbs < 2 ^ 53)
    (hrange : InBinades (d.natAbs * 2 ^ e)) :
    ∃ s, HasMagnitude (.ofModel (.pack (UnpackedFloat.normalize .binary64 d e s'))) s
      (d.natAbs * 2 ^ e) := by
  have hpos : 0 < d.natAbs := Int.natAbs_pos.mpr hne
  unfold UnpackedFloat.normalize
  rcases lt_or_gt_of_ne hne with hneg | hpos'
  · rw [compare_lt_iff_lt.mpr hneg, show (-d).toNat = d.natAbs by omega]
    exact ⟨.negative, hasMagnitude_round hpos hlt hrange⟩
  · rw [compare_gt_iff_gt.mpr hpos', show d.toNat = d.natAbs by omega]
    exact ⟨.positive, hasMagnitude_round hpos hlt hrange⟩

/-- Both mantissas are moved to the smaller place. -/
lemma IsNormal.sub_eq (hx : IsNormal x s m e) (hy : IsNormal y s m' e') :
    ∃ d : ℤ, x - y = .ofModel (.pack (UnpackedFloat.normalize .binary64 d (min e e') .positive)) ∧
      |(m * 2 ^ e : ℚ) - m' * 2 ^ e'| = d.natAbs * 2 ^ min e e' := by
  obtain ⟨hm, hunpack⟩ := hx.unpack_eq
  obtain ⟨hm', hunpack'⟩ := hy.unpack_eq
  have hmove : ∀ {n : ℕ} {i j : ℤ}, j ≤ i →
      (n * 2 ^ i : ℚ) = (n <<< (i - j).toNat : ℕ) * 2 ^ j := by
    intro n i j hij
    rw [Nat.shiftLeft_eq, Nat.cast_mul, Nat.cast_pow, Nat.cast_ofNat, ← zpow_natCast,
      Int.toNat_of_nonneg (by omega), mul_assoc, ← zpow_add₀ (by norm_num), sub_add_cancel]
  refine ⟨s.apply (m <<< (e - min e e').toNat : ℕ) - s.apply (m' <<< (e' - min e e').toNat : ℕ),
    ?_, ?_⟩
  · show Float.ofModel (.pack (UnpackedFloat.sub .binary64 x.toModel.unpack y.toModel.unpack)) = _
    rw [hunpack, hunpack']
    rfl
  · rw [hmove (min_le_left e e'), hmove (min_le_right e e'), ← sub_mul, abs_mul,
      abs_of_pos (two_zpow_pos _), Nat.cast_natAbs, Int.cast_abs]
    cases s with
    | positive =>
      rw [Sign.apply, Sign.apply, Int.cast_sub, Int.cast_natCast, Int.cast_natCast]
    | negative =>
      rw [Sign.apply, Sign.apply, Int.cast_sub, Int.cast_neg, Int.cast_neg, neg_sub_neg,
        abs_sub_comm, Int.cast_natCast, Int.cast_natCast]

/-- A difference that has few bits in units of the smaller place is exact. -/
lemma IsNormal.sub (hx : IsNormal x s m e) (hy : IsNormal y s m' e')
    (hne : (m * 2 ^ e : ℚ) ≠ m' * 2 ^ e')
    (hsmall : |(m * 2 ^ e : ℚ) - m' * 2 ^ e'| < 2 ^ 53 * 2 ^ (min e e'))
    (hrange : InBinades |(m * 2 ^ e : ℚ) - m' * 2 ^ e'|) :
    ∃ s', HasMagnitude (x - y) s' |(m * 2 ^ e : ℚ) - m' * 2 ^ e'| := by
  obtain ⟨d, hsub, hdistance⟩ := hx.sub_eq hy
  rw [hdistance] at hsmall hrange ⊢
  rw [hsub]
  refine hasMagnitude_normalize ?_ ?_ hrange
  · rintro rfl
    rw [Int.natAbs_zero, Nat.cast_zero, zero_mul, abs_eq_zero, sub_eq_zero] at hdistance
    exact hne hdistance
  · have hlt : (d.natAbs : ℚ) < 2 ^ 53 := lt_of_mul_lt_mul_right hsmall (two_zpow_pos _).le
    exact_mod_cast hlt

/-- Equal values cancel. -/
lemma IsNormal.sub_of_eq (hx : IsNormal x s m e) (hy : IsNormal y s m' e')
    (heq : (m * 2 ^ e : ℚ) = m' * 2 ^ e') : x - y = .ofModel (.pack (.zero .positive)) := by
  obtain ⟨d, hsub, hdistance⟩ := hx.sub_eq hy
  have hzero : d = 0 := by
    rw [heq, sub_self, abs_zero, zero_eq_mul] at hdistance
    have := hdistance.resolve_right (two_zpow_pos _).ne'
    exact Int.natAbs_eq_zero.mp (by exact_mod_cast this)
  rw [hsub, hzero]
  rfl

/-- Different values are a place apart at least. -/
lemma IsNormal.le_distance (hx : IsNormal x s m e) (hy : IsNormal y s m' e')
    (hne : (m * 2 ^ e : ℚ) ≠ m' * 2 ^ e') :
    (2 : ℚ) ^ min e e' ≤ |(m * 2 ^ e : ℚ) - m' * 2 ^ e'| := by
  obtain ⟨d, -, hdistance⟩ := hx.sub_eq hy
  have hpos : d.natAbs ≠ 0 := by
    intro hzero
    rw [hzero, Nat.cast_zero, zero_mul, abs_eq_zero] at hdistance
    exact hne (sub_eq_zero.mp hdistance)
  rw [hdistance]
  refine le_mul_of_one_le_left (two_zpow_pos _).le ?_
  exact_mod_cast Nat.one_le_iff_ne_zero.mpr hpos

namespace HasMagnitude

/-- A value is its own rounding. -/
lemma roundsTo (h : HasMagnitude x s v) : RoundsTo v v := by
  obtain ⟨m, e, hx, rfl⟩ := h
  have hplace := two_zpow_pos e
  have hge : (2 : ℚ) ^ 52 ≤ m := by exact_mod_cast hx.mantissa_ge
  have hlower := mul_le_mul_of_nonneg_right hge hplace.le
  refine ⟨m, e, ⟨hlower, hx.magnitude_lt, ?_, fun htie => ?_⟩, rfl⟩
  · rw [sub_self, abs_zero]
    positivity
  · rw [sub_self, abs_zero] at htie
    linarith

/-- Positive values are compared by their magnitudes. -/
lemma lt_iff (hx : HasMagnitude x .positive v) (hy : HasMagnitude y .positive w) :
    x < y ↔ v < w := by
  obtain ⟨m, e, hx, rfl⟩ := hx
  obtain ⟨m', e', hy, rfl⟩ := hy
  exact hx.lt_iff hy

/-- Positive values are ordered by their magnitudes. -/
lemma le_iff (hx : HasMagnitude x .positive v) (hy : HasMagnitude y .positive w) :
    x ≤ y ↔ v ≤ w := by
  obtain ⟨m, e, hx, rfl⟩ := hx
  obtain ⟨m', e', hy, rfl⟩ := hy
  exact hx.le_iff hy

/-- A value with a magnitude is not zero. -/
lemma pos (hx : HasMagnitude x s v) : 0 < v := by
  obtain ⟨m, e, hx, rfl⟩ := hx
  exact hx.magnitude_pos

/-- A value with a magnitude is finite. -/
lemma lt_two_zpow (hx : HasMagnitude x s v) : v < 2 ^ (1024 : ℤ) := by
  obtain ⟨m, e, hx, rfl⟩ := hx
  calc (m : ℚ) * 2 ^ e < 2 ^ 53 * 2 ^ e := hx.magnitude_lt
    _ ≤ 2 ^ 53 * 2 ^ (971 : ℤ) :=
        mul_le_mul_of_nonneg_left (zpow_le_zpow_right₀ (by norm_num) hx.exponent_le) (by positivity)
    _ = 2 ^ (1024 : ℤ) := by rw [← zpow_natCast, ← zpow_add₀ (by norm_num)]; rfl

/-- Values of one magnitude and sign have no difference. -/
lemma sub_of_eq (hx : HasMagnitude x s v) (hy : HasMagnitude y s v) :
    x - y = .ofModel (.pack (.zero .positive)) := by
  obtain ⟨m, e, hx, rfl⟩ := hx
  obtain ⟨m', e', hy, heq⟩ := hy
  exact hx.sub_of_eq hy heq

/-- Values at the distance of one rounding have a difference that is exact.  They must not be so
small that the difference has fewer bits than a mantissa. -/
lemma sub (hx : HasMagnitude x s v) (hy : HasMagnitude y s w) (hne : v ≠ w)
    (hnear : |v - w| ≤ max v w / 2 ^ 52) (hv : 2 ^ (-960 : ℤ) ≤ v) (hw : 2 ^ (-960 : ℤ) ≤ w) :
    ∃ s', HasMagnitude (x - y) s' |v - w| := by
  have hupper : |v - w| < 2 ^ (1023 : ℤ) := by
    have hmax := max_lt hx.lt_two_zpow hy.lt_two_zpow
    calc |v - w| ≤ max v w / 2 ^ 52 := hnear
      _ < 2 ^ (1024 : ℤ) / 2 ^ 52 := div_lt_div_of_pos_right hmax (by positivity)
      _ ≤ 2 ^ (1023 : ℤ) := by
          rw [← zpow_natCast, ← zpow_sub₀ (by norm_num)]
          exact zpow_le_zpow_right₀ (by norm_num) (by norm_num)
  obtain ⟨m, e, hx, rfl⟩ := hx
  obtain ⟨m', e', hy, rfl⟩ := hy
  have hexponent : ∀ {x : Float} {m : ℕ} {e : ℤ}, IsNormal x s m e →
      (2 : ℚ) ^ (-960 : ℤ) ≤ m * 2 ^ e → -1022 ≤ e := by
    intro x m e hx hlarge
    refine le_of_binade_lt (lt_of_le_of_lt (le_trans ?_ hlarge) hx.magnitude_lt)
    rw [← zpow_natCast, ← zpow_add₀ (by norm_num)]
    exact zpow_le_zpow_right₀ (by norm_num) (by norm_num)
  have hlower : (2 : ℚ) ^ (-1022 : ℤ) ≤ |(m * 2 ^ e : ℚ) - m' * 2 ^ e'| := by
    refine le_trans ?_ (hx.le_distance hy hne)
    exact zpow_le_zpow_right₀ (by norm_num) (le_min (hexponent hx hv) (hexponent hy hw))
  refine hx.sub hy hne ?_ ⟨hlower, hupper⟩
  have hmin : min ((m : ℚ) * 2 ^ e) (m' * 2 ^ e') < 2 ^ 53 * 2 ^ min e e' := by
    rcases le_total e e' with he | he
    · rw [min_eq_left he]
      exact (min_le_left _ _).trans_lt hx.magnitude_lt
    · rw [min_eq_right he]
      exact (min_le_right _ _).trans_lt hy.magnitude_lt
  -- The greater value is less than twice the smaller one, so their difference is below both.
  have hmin_pos := lt_min hx.magnitude_pos hy.magnitude_pos
  have hdistance := max_sub_min_eq_abs' ((m : ℚ) * 2 ^ e) (m' * 2 ^ e')
  linarith

end HasMagnitude

end BrokerHarness.Binary64
