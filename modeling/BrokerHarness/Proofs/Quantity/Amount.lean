import BrokerHarness.Proofs.Quantity.Closeness
import BrokerHarness.Proofs.Quantity.Literal

/-!
# Notations of one amount

The value of a literal is a rounding of its amount, or the rounding of a product of which one factor
was rounded before.  A rounding of the amount and a value that is rounded twice lie next to each
other, so they are close.  Two values that are rounded twice may be two places apart, and are not
close then.  With a suffix for fractions there is no value at all.

This leads to a condition under which two notations of one amount are the same quantity
(`Literal.Interchangeable.same`).
-/

namespace BrokerHarness.Quantity

open Binary64 Float.Model.UnpackedFloat

/-! ### Units -/

namespace Suffix

/-- The suffixes for fractions are no units. -/
lemma lookup_eq_none {s : Suffix} (h : s.power < 0) : units.lookup s.text = none := by
  cases s <;> first | rfl | exact absurd h (by decide)

/-- A unit whose value is given by its word. -/
lemma unit_of_word {s : Suffix} (m : ℕ) (e : ℤ)
    (hlookup : units.lookup s.text = some (toFloat (m + (e + 1074).toNat * 2 ^ 52)))
    (hword : 2 ^ 52 ≤ m ∧ m < 2 ^ 53 ∧ -1074 ≤ e ∧ e ≤ 971) (hfactor : s.factor = m * 2 ^ e) :
    ∃ unit, units.lookup s.text = some unit ∧ HasMagnitude unit .positive s.factor := by
  obtain ⟨hge, hlt, he, he'⟩ := hword
  exact ⟨_, hlookup, m, e, isNormal_toFloat hge hlt he he', hfactor⟩

/-- The suffixes for multiples are units, with the numbers that they stand for. -/
lemma exists_unit {s : Suffix} (h : 0 < s.power) :
    ∃ unit, units.lookup s.text = some unit ∧ HasMagnitude unit .positive s.factor := by
  cases s with
  | n | u | m => exact absurd h (by decide)
  | k =>
    exact unit_of_word (1000 * 2 ^ 43) (-43) (by decide +kernel) (by decide)
      (by norm_num [factor, base, power])
  | M =>
    exact unit_of_word (10 ^ 6 * 2 ^ 33) (-33) (by decide +kernel) (by decide)
      (by norm_num [factor, base, power])
  | G =>
    exact unit_of_word (10 ^ 9 * 2 ^ 23) (-23) (by decide +kernel) (by decide)
      (by norm_num [factor, base, power])
  | T =>
    exact unit_of_word (10 ^ 12 * 2 ^ 13) (-13) (by decide +kernel) (by decide)
      (by norm_num [factor, base, power])
  | P =>
    exact unit_of_word (10 ^ 15 * 2 ^ 3) (-3) (by decide +kernel) (by decide)
      (by norm_num [factor, base, power])
  | E =>
    exact unit_of_word (5 ^ 18 * 2 ^ 11) 7 (by decide +kernel) (by decide)
      (by norm_num [factor, base, power])
  | Ki =>
    exact unit_of_word (2 ^ 52) (-42) (by decide +kernel) (by decide)
      (by norm_num [factor, base, power])
  | Mi =>
    exact unit_of_word (2 ^ 52) (-32) (by decide +kernel) (by decide)
      (by norm_num [factor, base, power])
  | Gi =>
    exact unit_of_word (2 ^ 52) (-22) (by decide +kernel) (by decide)
      (by norm_num [factor, base, power])
  | Ti =>
    exact unit_of_word (2 ^ 52) (-12) (by decide +kernel) (by decide)
      (by norm_num [factor, base, power])
  | Pi =>
    exact unit_of_word (2 ^ 52) (-2) (by decide +kernel) (by decide)
      (by norm_num [factor, base, power])
  | Ei =>
    exact unit_of_word (2 ^ 52) 8 (by decide +kernel) (by decide)
      (by norm_num [factor, base, power])

end Suffix

/-! ### Numbers -/

namespace SignMark

/-- The sign of a value that is not zero. -/
def sign : SignMark → Sign
  | minus => .negative
  | _ => .positive

variable {x : Float} {v : ℚ}

/-- The sign in front of a number turns its sign. -/
lemma hasMagnitude_apply (mark : SignMark) (h : HasMagnitude x .positive v) :
    HasMagnitude (mark.apply x) mark.sign v := by
  cases mark with
  | absent => exact h
  | plus => exact h
  | minus => exact h.neg

/-- Zero stays zero under any sign. -/
lemma isZero_apply (mark : SignMark) (h : IsZero x) : IsZero (mark.apply x) := by
  cases mark with
  | absent => exact h
  | plus => exact h
  | minus => exact h.neg

end SignMark

namespace Literal

variable {literal : Literal}

lemma isDigit_digits (literal : Literal) : ∀ c ∈ literal.digits, c.isDigit = true := by
  intro c hc
  rcases List.mem_append.mp hc with hc | hc
  · exact literal.isDigit_whole c hc
  · exact literal.isDigit_fraction c hc

/-- The amount without its sign. -/
def magnitude (literal : Literal) : ℚ := literal.mantissa * literal.ending.factor

/-- Behind a suffix the number counts as many times the factor. -/
lemma magnitude_of_suffix {s : Suffix} (h : literal.ending = .suffix s) :
    literal.magnitude = literal.mantissa * s.factor := by
  rw [magnitude, h]
  rfl

/-- What is read in front of a suffix. -/
lemma digitsValue_mul_zpow (literal : Literal) :
    Text.digitsValue literal.digits * (10 : ℚ) ^ (literal.ending.shift - literal.places) =
      literal.mantissa * 10 ^ literal.ending.shift := by
  rw [zpow_sub₀ (by norm_num), zpow_natCast, mantissa]
  ring

/-- A mantissa of zero is read as zero. -/
lemma isZero_front (h : literal.mantissa = 0) : IsZero literal.front := by
  have hdigits : Text.digitsValue literal.digits = 0 := by
    rw [mantissa, div_eq_zero_iff] at h
    exact_mod_cast h.resolve_right (by positivity)
  rw [front, ofDecimal_eq_zero literal.isDigit_digits hdigits]
  exact literal.sign.isZero_apply ⟨.positive, rfl⟩

/-- What stands in front of a unit is read as the nearest value, with its sign. -/
lemma hasMagnitude_front (hrange : InBinades (literal.mantissa * 10 ^ literal.ending.shift)) :
    ∃ v, RoundsTo (literal.mantissa * 10 ^ literal.ending.shift) v ∧
      HasMagnitude literal.front literal.sign.sign v := by
  rw [← digitsValue_mul_zpow] at hrange ⊢
  obtain ⟨v, hrounds, hv⟩ := hasMagnitude_ofDecimal literal.isDigit_digits hrange
  exact ⟨v, hrounds, literal.sign.hasMagnitude_apply hv⟩

/-! ### Values -/

/-- Whether a literal ends in one of the suffixes for fractions. -/
def IsFractional (literal : Literal) : Prop := ∃ s, literal.ending = .suffix s ∧ s.power < 0

/-- Whether one rounding leads to the value of a literal: it has no suffix for a power of 1000, or
the number in front of this suffix has no more than 53 bits. -/
def RoundsOnce (literal : Literal) : Prop :=
  ∀ s, literal.ending = .suffix s → s.base = 1000 →
    ∃ m : ℕ, m < 2 ^ 53 ∧ ∃ e : ℤ, literal.mantissa = m * 2 ^ e

/-- A text with a suffix for fractions has no value. -/
lemma value?_eq_none (h : literal.IsFractional) : value? literal.text = none := by
  obtain ⟨s, hending, hpower⟩ := h
  rw [value?_text_of_suffix hending, Suffix.lookup_eq_none hpower]
  rfl

/-- So such a text is the same quantity as itself only. -/
lemma same_iff_of_fractional {a b : Literal} (h : a.IsFractional ∨ b.IsFractional) :
    same a.text b.text = true ↔ a.text = b.text := by
  unfold same
  rcases h with h | h
  · simp [value?_eq_none h]
  · rw [value?_eq_none h]
    cases value? a.text <;> simp

end Literal

/-- The unit that the number of a literal is multiplied by. -/
def Ending.unit : Ending → ℚ
  | .suffix s => s.factor
  | _ => 1

/-- A suffix for multiples stands for one at least and for two to the sixtieth at most. -/
lemma Suffix.factor_bounds {s : Suffix} (h : 0 < s.power) : 1 ≤ s.factor ∧ s.factor ≤ 2 ^ 60 := by
  cases s <;> first | exact absurd h (by decide) | norm_num [factor, base, power]

namespace Literal

variable {literal : Literal}

/-- A suffix that is not for fractions is for multiples. -/
lemma power_pos_of_suffix {s : Suffix} (hending : literal.ending = .suffix s)
    (h : ¬ literal.IsFractional) : 0 < s.power := by
  have hpower : ¬ s.power < 0 := fun hneg => h ⟨s, hending, hneg⟩
  have hne : s.power ≠ 0 := by cases s <;> decide
  omega

/-- What multiplies the number is no fraction, and not too great. -/
lemma unit_bounds (h : ¬ literal.IsFractional) :
    1 ≤ literal.ending.unit ∧ literal.ending.unit ≤ 2 ^ 60 := by
  cases hending : literal.ending with
  | plain => norm_num [Ending.unit]
  | suffix s => exact s.factor_bounds (power_pos_of_suffix hending h)
  | exponent x => norm_num [Ending.unit]

/-- What multiplies the number is positive. -/
lemma unit_pos (literal : Literal) (h : ¬ literal.IsFractional) : 0 < literal.ending.unit :=
  one_pos.trans_le (unit_bounds h).1

/-- What is known about the value `x` of a literal: its sign, and the magnitude `z` that the two
roundings of the number and of the product lead to. -/
structure IsRead (literal : Literal) (x : Float) (z : ℚ) : Prop where
  value : value? literal.text = some x
  hasMagnitude : HasMagnitude x literal.sign.sign z
  rounds : ∃ p, RoundsTo (literal.magnitude / literal.ending.unit) p ∧
    RoundsTo (p * literal.ending.unit) z
  once : literal.RoundsOnce → RoundsTo literal.magnitude z

/-- Amounts that are neither too small nor too great for exact differences. -/
lemma inBinades_mantissa (h : ¬ literal.IsFractional)
    (hlower : 2 ^ (-940 : ℤ) ≤ literal.magnitude) (hupper : literal.magnitude ≤ 2 ^ (1000 : ℤ)) :
    InBinades (literal.magnitude / literal.ending.unit) := by
  obtain ⟨hone, hunit⟩ := literal.unit_bounds h
  have hunit_pos := literal.unit_pos h
  constructor
  · rw [le_div_iff₀ hunit_pos]
    calc (2 : ℚ) ^ (-1022 : ℤ) * literal.ending.unit ≤ 2 ^ (-1022 : ℤ) * 2 ^ 60 :=
          mul_le_mul_of_nonneg_left hunit (two_zpow_pos _).le
      _ ≤ 2 ^ (-940 : ℤ) := by
          rw [← zpow_natCast, ← zpow_add₀ (by norm_num)]
          exact zpow_le_zpow_right₀ (by norm_num) (by norm_num)
      _ ≤ literal.magnitude := hlower
  · rw [div_lt_iff₀ hunit_pos]
    calc literal.magnitude ≤ 2 ^ (1000 : ℤ) := hupper
      _ < 2 ^ (1023 : ℤ) := zpow_lt_zpow_right₀ (by norm_num) (by norm_num)
      _ ≤ 2 ^ (1023 : ℤ) * literal.ending.unit := le_mul_of_one_le_right (two_zpow_pos _).le hone

/-- The rounding of a factor does not lead out of the range for products. -/
lemma inBinades_product {v p f : ℚ} (hp : RoundsTo v p) (hf : 0 < f)
    (hlower : 2 ^ (-940 : ℤ) ≤ v * f) (hupper : v * f ≤ 2 ^ (1000 : ℤ)) : InBinades (p * f) := by
  obtain ⟨hp_ge, hp_le⟩ := hp.between
  have hge := mul_le_mul_of_nonneg_right hp_ge hf.le
  have hle := mul_le_mul_of_nonneg_right hp_le hf.le
  rw [div_mul_eq_mul_div] at hge
  rw [mul_assoc] at hle
  constructor
  · calc (2 : ℚ) ^ (-1022 : ℤ) ≤ 2 ^ (-940 : ℤ) / 2 := by
          rw [div_eq_mul_inv, ← zpow_sub_one₀ (by norm_num)]
          exact zpow_le_zpow_right₀ (by norm_num) (by norm_num)
      _ ≤ v * f / 2 := by linarith
      _ ≤ p * f := hge
  · calc p * f ≤ 2 * (v * f) := hle
      _ ≤ 2 * 2 ^ (1000 : ℤ) := by linarith
      _ < 2 ^ (1023 : ℤ) := by
          rw [← zpow_one_add₀ (by norm_num)]
          exact zpow_lt_zpow_right₀ (by norm_num) (by norm_num)

/-- A number without a suffix is read, if it is in the range of the values. -/
lemma exists_isRead_of_unsuffixed (h : ∀ s, literal.ending ≠ .suffix s)
    (hrange : InBinades literal.magnitude) : ∃ x z, literal.IsRead x z := by
  have hparts : literal.ending.unit = 1 ∧
      literal.mantissa * 10 ^ literal.ending.shift = literal.magnitude := by
    rw [magnitude]
    cases hending : literal.ending with
    | plain => exact ⟨rfl, rfl⟩
    | suffix s => exact absurd hending (h s)
    | exponent x => exact ⟨rfl, rfl⟩
  obtain ⟨hunit, hshift⟩ := hparts
  rw [← hshift] at hrange
  obtain ⟨z, hrounds, hmagnitude⟩ := hasMagnitude_front hrange
  rw [hshift] at hrounds
  refine ⟨literal.front, z, value?_text_of_unsuffixed h, hmagnitude, ⟨z, ?_, ?_⟩, fun _ => hrounds⟩
  · rwa [hunit, div_one]
  · rw [hunit, mul_one]
    exact hmagnitude.roundsTo

/-- A factor that is a power of two, or a number of 53 bits in front of it, leaves one rounding. -/
lemma roundsTo_of_roundsOnce {s : Suffix} {p z : ℚ} {mark : Sign} {x : Float}
    (hending : literal.ending = .suffix s) (hfront : HasMagnitude x mark p)
    (hp : RoundsTo literal.mantissa p) (hz : RoundsTo (p * s.factor) z)
    (honce : literal.RoundsOnce) : RoundsTo literal.magnitude z := by
  have hmagnitude := magnitude_of_suffix hending
  have hbase : s.base = 1000 ∨ s.base = 1024 := by cases s <;> decide
  rcases hbase with hbase | hbase
  · obtain ⟨m, hm, e, hmantissa⟩ := honce s hending hbase
    rw [hmagnitude, ← hp.eq_self hm hmantissa]
    exact hz
  · have hfactor : s.factor = 2 ^ (10 * s.power) := by
      rw [Suffix.factor, hbase, zpow_mul]
      norm_num
    obtain ⟨m, e, hx, rfl⟩ := hfront
    have hexact : z = m * 2 ^ e * s.factor := by
      refine hz.eq_self hx.mantissa_lt (j := e + 10 * s.power) ?_
      rw [hfactor, zpow_add₀ (by norm_num), mul_assoc]
    rw [hmagnitude, hexact, hfactor]
    exact hp.mul_two_zpow _

/-- A number with a suffix is read, if it is far enough inside of that range. -/
lemma exists_isRead_of_suffix {s : Suffix} (hending : literal.ending = .suffix s)
    (h : ¬ literal.IsFractional) (hlower : 2 ^ (-940 : ℤ) ≤ literal.magnitude)
    (hupper : literal.magnitude ≤ 2 ^ (1000 : ℤ)) : ∃ x z, literal.IsRead x z := by
  have hpower := power_pos_of_suffix hending h
  obtain ⟨unit, hlookup, hunit⟩ := s.exists_unit hpower
  have hfactor_pos : 0 < s.factor := by
    have := (s.factor_bounds hpower).1
    linarith
  have hmagnitude := magnitude_of_suffix hending
  have hmantissa : literal.magnitude / literal.ending.unit = literal.mantissa := by
    rw [hmagnitude, hending]
    exact mul_div_cancel_right₀ _ hfactor_pos.ne'
  have hshift : literal.mantissa * 10 ^ literal.ending.shift = literal.mantissa := by
    rw [hending]
    exact mul_one _
  have hrange := inBinades_mantissa h hlower hupper
  rw [hmantissa, ← hshift] at hrange
  obtain ⟨p, hp, hfront⟩ := hasMagnitude_front hrange
  rw [hshift] at hp
  obtain ⟨z, hz, hvalue⟩ := hfront.mul hunit (inBinades_product hp hfactor_pos
    (hmagnitude ▸ hlower) (hmagnitude ▸ hupper))
  have hsign : literal.sign.sign * .positive = literal.sign.sign := by
    cases literal.sign <;> rfl
  refine ⟨literal.front * unit, z, ?_, hsign ▸ hvalue, ⟨p, ?_, ?_⟩, ?_⟩
  · rw [value?_text_of_suffix hending, hlookup]
    rfl
  · rwa [hmantissa]
  · rw [hending]
    exact hz
  · exact roundsTo_of_roundsOnce hending hfront hp hz

/-- A quantity that is no fraction is read, if its magnitude is not too small and not too great. -/
lemma exists_isRead (h : ¬ literal.IsFractional) (hlower : 2 ^ (-940 : ℤ) ≤ literal.magnitude)
    (hupper : literal.magnitude ≤ 2 ^ (1000 : ℤ)) : ∃ x z, literal.IsRead x z := by
  by_cases hsuffix : ∃ s, literal.ending = .suffix s
  · obtain ⟨s, hending⟩ := hsuffix
    exact exists_isRead_of_suffix hending h hlower hupper
  · refine exists_isRead_of_unsuffixed (fun s hs => hsuffix ⟨s, hs⟩) ⟨?_, ?_⟩
    · exact le_trans (zpow_le_zpow_right₀ (by norm_num) (by norm_num)) hlower
    · exact hupper.trans_lt (zpow_lt_zpow_right₀ (by norm_num) (by norm_num))

/-! ### Literals with the same amount -/

/-- The value of a literal is not much smaller than its amount. -/
lemma IsRead.lower {x : Float} {z : ℚ} (h : literal.IsRead x z)
    (hfractional : ¬ literal.IsFractional) (hlower : 2 ^ (-940 : ℤ) ≤ literal.magnitude) :
    2 ^ (-960 : ℤ) ≤ z := by
  obtain ⟨p, hp, hz⟩ := h.rounds
  have hunit_pos := literal.unit_pos hfractional
  have hproduct : literal.magnitude / 2 ≤ p * literal.ending.unit := by
    have hscaled := mul_le_mul_of_nonneg_right hp.between.1 hunit_pos.le
    rwa [div_mul_eq_mul_div, div_mul_cancel₀ _ hunit_pos.ne'] at hscaled
  calc (2 : ℚ) ^ (-960 : ℤ) ≤ 2 ^ (-942 : ℤ) := zpow_le_zpow_right₀ (by norm_num) (by norm_num)
    _ = 2 ^ (-940 : ℤ) / 2 / 2 := by
        rw [div_eq_mul_inv, div_eq_mul_inv, ← zpow_sub_one₀ (by norm_num),
          ← zpow_sub_one₀ (by norm_num)]
        rfl
    _ ≤ z := by linarith [hz.between.1]

/-- Values that are read from literals of one amount are close, if one of them was rounded once, or
both in the same way. -/
lemma IsRead.near {a b : Literal} {x y : Float} {z w : ℚ} (ha : a.IsRead x z) (hb : b.IsRead y w)
    (hmagnitude : a.magnitude = b.magnitude) (ha_unit : 0 < a.ending.unit)
    (hb_unit : 0 < b.ending.unit) (honce : a.RoundsOnce ∨ b.RoundsOnce ∨ a.ending = b.ending) :
    |z - w| ≤ max z w / 2 ^ 52 := by
  obtain ⟨p, hp, hz⟩ := ha.rounds
  obtain ⟨q, hq, hw⟩ := hb.rounds
  rcases honce with honce | honce | hending
  · have hexact : RoundsTo (b.magnitude / b.ending.unit * b.ending.unit) z := by
      rw [div_mul_cancel₀ _ hb_unit.ne', ← hmagnitude]
      exact ha.once honce
    rw [abs_sub_comm]
    exact hq.abs_sub_le_max_of_mul hb_unit hw hexact
  · have hexact : RoundsTo (a.magnitude / a.ending.unit * a.ending.unit) w := by
      rw [div_mul_cancel₀ _ ha_unit.ne', hmagnitude]
      exact hb.once honce
    rw [max_comm]
    exact hp.abs_sub_le_max_of_mul ha_unit hz hexact
  · have hpq : p = q := by
      rw [← hmagnitude, ← hending] at hq
      exact hp.unique hq
    have hzw : z = w := by
      rw [← hpq, ← hending] at hw
      exact hz.unique hw
    have hw_pos := hb.hasMagnitude.pos
    rw [hzw, sub_self, abs_zero, max_self]
    positivity

/-- Whatever the ending, it stands for a positive factor. -/
lemma factor_pos (literal : Literal) : 0 < literal.ending.factor := by
  cases literal.ending with
  | plain => exact one_pos
  | suffix s =>
    refine zpow_pos ?_ _
    cases s <;> norm_num [Suffix.base]
  | exponent x => exact zpow_pos (by norm_num) _

/-- No magnitude is negative. -/
lemma magnitude_nonneg (literal : Literal) : 0 ≤ literal.magnitude :=
  mul_nonneg (div_nonneg (Nat.cast_nonneg _) (by positivity)) literal.factor_pos.le

lemma amount_eq (literal : Literal) : literal.amount = literal.sign.apply literal.magnitude := rfl

/-- The magnitude is that of the amount. -/
lemma abs_amount (literal : Literal) : |literal.amount| = literal.magnitude := by
  rw [amount_eq]
  cases literal.sign with
  | absent => exact abs_of_nonneg literal.magnitude_nonneg
  | plus => exact abs_of_nonneg literal.magnitude_nonneg
  | minus => exact (abs_neg _).trans (abs_of_nonneg literal.magnitude_nonneg)

/-- Amounts other than zero have a sign. -/
lemma sign_eq_of_amount_eq {a b : Literal} (hpos : 0 < a.magnitude) (h : a.amount = b.amount) :
    a.sign.sign = b.sign.sign := by
  have hmagnitude : a.magnitude = b.magnitude := by rw [← abs_amount, h, abs_amount]
  rw [amount_eq, amount_eq, ← hmagnitude] at h
  cases ha : a.sign <;> cases hb : b.sign <;> rw [ha, hb] at h <;>
    first | rfl | (simp only [SignMark.apply] at h; linarith)

/-- A literal that denotes zero is read as zero. -/
lemma exists_isZero (h : ¬ literal.IsFractional) (hzero : literal.amount = 0) :
    ∃ x, value? literal.text = some x ∧ IsZero x := by
  have hmantissa : literal.mantissa = 0 := by
    have hmagnitude : literal.mantissa * literal.ending.factor = 0 := by
      have := literal.abs_amount
      rw [hzero, abs_zero] at this
      exact this.symm
    exact (mul_eq_zero.mp hmagnitude).resolve_right literal.factor_pos.ne'
  have hfront := isZero_front hmantissa
  by_cases hsuffix : ∃ s, literal.ending = .suffix s
  · obtain ⟨s, hending⟩ := hsuffix
    obtain ⟨unit, hlookup, hunit⟩ := s.exists_unit (power_pos_of_suffix hending h)
    refine ⟨literal.front * unit, ?_, hfront.mul hunit⟩
    rw [value?_text_of_suffix hending, hlookup]
    rfl
  · exact ⟨literal.front, value?_text_of_unsuffixed fun s hs => hsuffix ⟨s, hs⟩, hfront⟩

/-- An amount for which values have all their bits: zero, or one that is neither too small nor too
great. -/
def IsOrdinary (q : ℚ) : Prop :=
  q = 0 ∨ 10 ^ (-270 : ℤ) ≤ |q| ∧ |q| ≤ 10 ^ (300 : ℤ)

/-- The bounds of these amounts, other than zero, lie between powers of two. -/
lemma bounds_of_ordinary {q : ℚ} (hlower : 10 ^ (-270 : ℤ) ≤ q) (hupper : q ≤ 10 ^ (300 : ℤ)) :
    2 ^ (-940 : ℤ) ≤ q ∧ q ≤ 2 ^ (1000 : ℤ) := by
  have hgreat : (10 : ℚ) ^ (3 * 100 : ℤ) ≤ 2 ^ (10 * 100 : ℤ) :=
    ten_zpow_le_two_zpow (by norm_num)
  refine ⟨?_, hupper.trans hgreat⟩
  calc (2 : ℚ) ^ (-940 : ℤ) ≤ 2 ^ (-(10 * 90) : ℤ) :=
        zpow_le_zpow_right₀ (by norm_num) (by norm_num)
    _ ≤ 10 ^ (-(3 * 90) : ℤ) := by
        rw [zpow_neg, zpow_neg]
        exact inv_anti₀ (by positivity) (ten_zpow_le_two_zpow (by norm_num))
    _ ≤ q := hlower

/-- Two notations of one amount that are read as values next to each other. -/
structure Interchangeable (a b : Literal) : Prop where
  left : ¬ a.IsFractional
  right : ¬ b.IsFractional
  amount_eq : a.amount = b.amount
  ordinary : IsOrdinary a.amount
  once : a.RoundsOnce ∨ b.RoundsOnce ∨ a.ending = b.ending

/-- Interchangeable notations are the same quantity. -/
lemma Interchangeable.same {a b : Literal} (h : Interchangeable a b) :
    same a.text b.text = true := by
  unfold Quantity.same
  rcases h.ordinary with hzero | ⟨hlower, hupper⟩
  · obtain ⟨x, hx, hx_zero⟩ := exists_isZero h.left hzero
    obtain ⟨y, hy, hy_zero⟩ := exists_isZero h.right (h.amount_eq ▸ hzero)
    rw [hx, hy]
    exact close_of_isZero hx_zero hy_zero
  · rw [abs_amount] at hlower hupper
    have hmagnitude : a.magnitude = b.magnitude := by rw [← abs_amount, h.amount_eq, abs_amount]
    obtain ⟨hlower', hupper'⟩ := bounds_of_ordinary hlower hupper
    obtain ⟨x, z, hx⟩ := exists_isRead h.left hlower' hupper'
    obtain ⟨y, w, hy⟩ := exists_isRead h.right (hmagnitude ▸ hlower') (hmagnitude ▸ hupper')
    have hsign := sign_eq_of_amount_eq ((two_zpow_pos _).trans_le hlower') h.amount_eq
    have hnear := hx.near hy hmagnitude (a.unit_pos h.left) (b.unit_pos h.right) h.once
    rw [hx.value, hy.value]
    exact close_of_near hx.hasMagnitude (hsign ▸ hy.hasMagnitude) hnear (hx.lower h.left hlower')
      (hy.lower h.right (hmagnitude ▸ hlower'))

end Literal

end BrokerHarness.Quantity
