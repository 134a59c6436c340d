import BrokerHarness.Binary64
import Mathlib.Algebra.Order.Field.Power
import Mathlib.Algebra.Order.Field.Rat
import Mathlib.Algebra.Ring.Parity
import Mathlib.Tactic.Linarith
import Mathlib.Tactic.Positivity
import Mathlib.Tactic.Ring

/-!
# Numbers of 53 bits

A positive number lies in one binade, from `2 ^ 52 * 2 ^ e` up to but without `2 ^ 53 * 2 ^ e`, and
is rounded to a multiple of the place `2 ^ e` of this binade.  What is shown here is exact
arithmetic on rational numbers: rounding is a function, keeps numbers of 53 bits and commutes with
powers of two.

The main statement is about a number that is rounded twice.  If one number differs from another by
no more than the relative error of one rounding, then the roundings of both differ by no more than
one place (`RoundsTo.abs_sub_le_place`), although each of them may be off by half a place.
-/

namespace BrokerHarness.Binary64

variable {t t' x y : ℚ} {m m' : ℕ} {e e' : ℤ}

/-- `m * 2 ^ e` is what `t` is rounded to, where `2 ^ e` is the place of the binade of `t`. -/
structure IsNearest (t : ℚ) (m : ℕ) (e : ℤ) : Prop where
  lower : 2 ^ 52 * 2 ^ e ≤ t
  upper : t < 2 ^ 53 * 2 ^ e
  near : |m * 2 ^ e - t| ≤ 2 ^ e / 2
  even : |m * 2 ^ e - t| = 2 ^ e / 2 → Even m

/-- `x` is what `t` is rounded to. -/
def RoundsTo (t x : ℚ) : Prop := ∃ m e, IsNearest t m e ∧ x = m * 2 ^ e

/-! ### One rounding -/

lemma two_zpow_pos (e : ℤ) : (0 : ℚ) < 2 ^ e := zpow_pos (by norm_num) e

/-- A binade that starts below the end of another one is not above it. -/
lemma le_of_binade_lt (h : (2 : ℚ) ^ 52 * 2 ^ e < 2 ^ 53 * 2 ^ e') : e ≤ e' := by
  have hlt : (2 : ℚ) ^ 52 * 2 ^ e < 2 ^ 52 * 2 ^ (e' + 1) := by
    rw [zpow_add₀ (by norm_num), zpow_one]
    linarith
  have hpow : (2 : ℚ) ^ e < 2 ^ (e' + 1) := lt_of_mul_lt_mul_left hlt (by positivity)
  have hexponent : e < e' + 1 := (zpow_lt_zpow_iff_right₀ (by norm_num)).mp hpow
  omega

namespace IsNearest

/-- The binade of a number is its own. -/
lemma exponent_eq (h : IsNearest t m e) (h' : IsNearest t m' e') : e = e' :=
  le_antisymm (le_of_binade_lt (h.lower.trans_lt h'.upper))
    (le_of_binade_lt (h'.lower.trans_lt h.upper))

/-- Both ends of a binade are multiples of its place, so rounding does not leave it. -/
lemma mantissa_bounds (h : IsNearest t m e) : 2 ^ 52 ≤ m ∧ m ≤ 2 ^ 53 := by
  have hplace := two_zpow_pos e
  obtain ⟨hbelow, habove⟩ := abs_le.mp h.near
  have hlower := h.lower
  have hupper := h.upper
  constructor
  · by_contra hlt
    have hm : (m : ℚ) + 1 ≤ 2 ^ 52 := by exact_mod_cast Nat.lt_of_not_le hlt
    have := mul_le_mul_of_nonneg_right hm hplace.le
    linarith
  · by_contra hlt
    have hm : (2 : ℚ) ^ 53 + 1 ≤ m := by exact_mod_cast Nat.lt_of_not_le hlt
    have := mul_le_mul_of_nonneg_right hm hplace.le
    linarith

/-- Rounding commutes with powers of two. -/
lemma scale (h : IsNearest t m e) (k : ℤ) : IsNearest (t * 2 ^ k) m (e + k) := by
  have hpow := two_zpow_pos k
  have hplace : (2 : ℚ) ^ (e + k) = 2 ^ e * 2 ^ k := zpow_add₀ (by norm_num) e k
  have herror : |(m : ℚ) * 2 ^ (e + k) - t * 2 ^ k| = |m * 2 ^ e - t| * 2 ^ k := by
    rw [hplace, ← mul_assoc, ← sub_mul, abs_mul, abs_of_pos hpow]
  refine ⟨?_, ?_, ?_, fun htie => h.even ?_⟩
  · rw [hplace, ← mul_assoc]
    exact mul_le_mul_of_nonneg_right h.lower hpow.le
  · rw [hplace, ← mul_assoc]
    exact mul_lt_mul_of_pos_right h.upper hpow
  · rw [herror, hplace, mul_div_right_comm]
    exact mul_le_mul_of_nonneg_right h.near hpow.le
  · rw [herror, hplace, mul_div_right_comm] at htie
    exact mul_right_cancel₀ hpow.ne' htie

/-- Two roundings of one number to the same place are the same. -/
lemma mantissa_eq (h : IsNearest t m e) (h' : IsNearest t m' e) : m = m' := by
  have hplace := two_zpow_pos e
  -- Neighbours could both be near only if both were ties, and of neighbours one is odd.
  have key : ∀ {a b : ℕ}, IsNearest t a e → IsNearest t b e → ¬ a < b := by
    intro a b ha hb hlt
    obtain ⟨ha₁, ha₂⟩ := abs_le.mp ha.near
    obtain ⟨hb₁, hb₂⟩ := abs_le.mp hb.near
    have hle : (a : ℚ) + 1 ≤ b := by exact_mod_cast hlt
    have hstep := mul_le_mul_of_nonneg_right hle hplace.le
    have hsame : b = a + 1 := by
      by_contra hne
      have htwo : (a : ℚ) + 2 ≤ b := by exact_mod_cast (show a + 2 ≤ b by omega)
      have := mul_le_mul_of_nonneg_right htwo hplace.le
      linarith
    have ha' : Even a := by
      refine ha.even (le_antisymm ha.near ?_)
      rw [le_abs]
      right
      linarith
    have hb' : Even b := by
      refine hb.even (le_antisymm hb.near ?_)
      rw [le_abs]
      left
      linarith
    rw [hsame, Nat.even_add_one] at hb'
    exact hb' ha'
  exact le_antisymm (not_lt.mp (key h' h)) (not_lt.mp (key h h'))

/-- The error of a rounding, relative to the number. -/
lemma abs_sub_le (h : IsNearest t m e) : |m * 2 ^ e - t| ≤ t / 2 ^ 53 := by
  refine h.near.trans ?_
  have hlower := h.lower
  rw [div_le_div_iff₀ (by norm_num) (by norm_num)]
  linarith

/-- A multiple of the place is kept. -/
lemma eq_of_multiple {k : ℤ} (h : IsNearest t m e) (ht : t = k * 2 ^ e) : (m : ℚ) * 2 ^ e = t := by
  have hplace := two_zpow_pos e
  obtain ⟨hbelow, habove⟩ := abs_le.mp h.near
  have hk : (m : ℤ) = k := by
    have hlt : (m : ℚ) * 2 ^ e < (k + 1) * 2 ^ e := by linarith
    have hgt : ((k : ℚ) - 1) * 2 ^ e < m * 2 ^ e := by linarith
    have hlt' : (m : ℚ) < k + 1 := lt_of_mul_lt_mul_right hlt hplace.le
    have hgt' : (k : ℚ) - 1 < m := lt_of_mul_lt_mul_right hgt hplace.le
    have h₁ : (m : ℤ) < k + 1 := by exact_mod_cast hlt'
    have h₂ : k - 1 < (m : ℤ) := by exact_mod_cast hgt'
    omega
  rw [ht, ← hk, Int.cast_natCast]

end IsNearest

namespace RoundsTo

/-- A number is rounded to one value only. -/
lemma unique (h : RoundsTo t x) (h' : RoundsTo t y) : x = y := by
  obtain ⟨m, e, hm, rfl⟩ := h
  obtain ⟨m', e', hm', rfl⟩ := h'
  obtain rfl := hm.exponent_eq hm'
  rw [hm.mantissa_eq hm']

/-- Rounding to 53 bits commutes with powers of two. -/
lemma mul_two_zpow (h : RoundsTo t x) (k : ℤ) : RoundsTo (t * 2 ^ k) (x * 2 ^ k) := by
  obtain ⟨m, e, hm, rfl⟩ := h
  refine ⟨m, e + k, hm.scale k, ?_⟩
  rw [zpow_add₀ (by norm_num), mul_assoc]

/-- Rounding to 53 bits moves a number by a fraction of it of at most two to the minus fifty-third.
-/
lemma abs_sub_le (h : RoundsTo t x) : |x - t| ≤ t / 2 ^ 53 := by
  obtain ⟨m, e, hm, rfl⟩ := h
  exact hm.abs_sub_le

/-- Only positive numbers are rounded here. -/
lemma pos (h : RoundsTo t x) : 0 < t := by
  obtain ⟨m, e, hm, -⟩ := h
  exact (mul_pos (by norm_num) (two_zpow_pos e)).trans_le hm.lower

/-- Far from the exact error, but enough for ranges. -/
lemma between (h : RoundsTo t x) : t / 2 ≤ x ∧ x ≤ 2 * t := by
  have hpos := h.pos
  obtain ⟨hbelow, habove⟩ := abs_le.mp h.abs_sub_le
  constructor <;> linarith

/-- A number of 53 bits is kept. -/
lemma eq_self {k : ℕ} {j : ℤ} (h : RoundsTo t x) (hk : k < 2 ^ 53) (ht : t = k * 2 ^ j) :
    x = t := by
  obtain ⟨m, e, hm, rfl⟩ := h
  have hej : e ≤ j := by
    have hk' : (k : ℚ) < 2 ^ 53 := by exact_mod_cast hk
    refine le_of_binade_lt (hm.lower.trans_lt ?_)
    rw [ht]
    exact mul_lt_mul_of_pos_right hk' (two_zpow_pos j)
  refine hm.eq_of_multiple (k := k * 2 ^ (j - e).toNat) ?_
  have hshift : (2 : ℚ) ^ j = 2 ^ (j - e).toNat * 2 ^ e := by
    rw [← zpow_natCast, ← zpow_add₀ (by norm_num), Int.toNat_of_nonneg (by omega),
      sub_add_cancel]
  rw [ht, hshift]
  push_cast
  ring

/-! ### Roundings of two numbers -/

/-- The other number is in the same binade: both roundings are whole, and less than two apart. -/
private lemma within_binade (hnear : |m - t| ≤ 1 / 2) (hnear' : |m' - t'| ≤ 1 / 2)
    (herror : |t' - t| < 1) : |(m' : ℚ) - m| ≤ 1 := by
  obtain ⟨hbelow, habove⟩ := abs_le.mp hnear
  obtain ⟨hbelow', habove'⟩ := abs_le.mp hnear'
  obtain ⟨herror_gt, herror_lt⟩ := abs_lt.mp herror
  have hlt : (m' : ℚ) < m + 2 := by linarith
  have hgt : (m : ℚ) < m' + 2 := by linarith
  have hle : m' ≤ m + 1 := Nat.lt_succ_iff.mp (by exact_mod_cast hlt)
  have hge : m ≤ m' + 1 := Nat.lt_succ_iff.mp (by exact_mod_cast hgt)
  have hle' : (m' : ℚ) ≤ m + 1 := by exact_mod_cast hle
  have hge' : (m : ℚ) ≤ m' + 1 := by exact_mod_cast hge
  rw [abs_le]
  constructor <;> linarith

/-- The other number is above the binade, and rounded to its end. -/
private lemma above_binade (hm : m ≤ 2 ^ 53) (ht : t < 2 ^ 53) (hnear : |m - t| ≤ 1 / 2)
    (hm' : 2 ^ 52 ≤ m') (ht' : 2 ^ 53 ≤ t') (hnear' : |m' * 2 - t'| ≤ 1) (herror : |t' - t| < 1) :
    |(m' : ℚ) * 2 - m| ≤ 1 := by
  obtain ⟨hbelow, habove⟩ := abs_le.mp hnear
  obtain ⟨hbelow', habove'⟩ := abs_le.mp hnear'
  obtain ⟨herror_gt, herror_lt⟩ := abs_lt.mp herror
  have hlt : (m' : ℚ) < 2 ^ 52 + 1 := by linarith
  have hend : m' = 2 ^ 52 := le_antisymm (Nat.lt_succ_iff.mp (by exact_mod_cast hlt)) hm'
  have hgt : (2 : ℚ) ^ 53 < m + 2 := by linarith
  have hge : 2 ^ 53 ≤ m + 1 := Nat.lt_succ_iff.mp (by exact_mod_cast hgt)
  have hge' : (2 : ℚ) ^ 53 ≤ m + 1 := by exact_mod_cast hge
  have hle' : (m : ℚ) ≤ 2 ^ 53 := by exact_mod_cast hm
  rw [hend, abs_le]
  push_cast
  constructor <;> linarith

/-- The other number is below the binade, where the places are halves. -/
private lemma below_binade (hm : 2 ^ 52 ≤ m) (ht : 2 ^ 52 ≤ t) (hnear : |m - t| ≤ 1 / 2)
    (hm' : m' ≤ 2 ^ 53) (ht' : t' < 2 ^ 52) (hnear' : |m' / 2 - t'| ≤ 1 / 4)
    (herror : t - t / 2 ^ 53 ≤ t') : |(m' : ℚ) / 2 - m| ≤ 1 := by
  obtain ⟨hbelow, habove⟩ := abs_le.mp hnear
  obtain ⟨hbelow', habove'⟩ := abs_le.mp hnear'
  have hm'_le : (m' : ℚ) ≤ 2 ^ 53 := by exact_mod_cast hm'
  have hm_ge : (2 : ℚ) ^ 52 ≤ m := by exact_mod_cast hm
  rcases hm.eq_or_lt with heq | hlt
  · -- The first rounding is the start of the binade.
    have heq' : (m : ℚ) = 2 ^ 52 := by exact_mod_cast heq.symm
    rw [abs_le]
    constructor <;> linarith
  · -- The first one is a place above it, so the second one cannot be below it.
    have hm_gt : (2 : ℚ) ^ 52 + 1 ≤ m := by exact_mod_cast hlt
    have hm'_gt : (2 : ℚ) ^ 53 < m' + 1 := by linarith
    have hm'_ge : 2 ^ 53 ≤ m' := Nat.lt_succ_iff.mp (by exact_mod_cast hm'_gt)
    have hm'_ge' : (2 : ℚ) ^ 53 ≤ m' := by exact_mod_cast hm'_ge
    have hm_lt : (m : ℚ) < 2 ^ 52 + 2 := by linarith
    have hm_le : m ≤ 2 ^ 52 + 1 := Nat.lt_succ_iff.mp (by exact_mod_cast hm_lt)
    have hm_le' : (m : ℚ) ≤ 2 ^ 52 + 1 := by exact_mod_cast hm_le
    rw [abs_le]
    constructor <;> linarith

/-- The case of a number whose place is one: the other number is in the same binade or in one next
to it. -/
private lemma abs_sub_le_one (h : IsNearest t m 0) (h' : IsNearest t' m' e')
    (herror : |t' - t| ≤ t / 2 ^ 53) : |m' * 2 ^ e' - (m : ℚ)| ≤ 1 := by
  have hlower : (2 : ℚ) ^ 52 ≤ t := by simpa using h.lower
  have hupper : t < 2 ^ 53 := by simpa using h.upper
  have hnear : |(m : ℚ) - t| ≤ 1 / 2 := by simpa using h.near
  obtain ⟨herror_ge, herror_le⟩ := abs_le.mp herror
  have herror_lt : |t' - t| < 1 := by
    refine herror.trans_lt ?_
    rw [div_lt_one (by positivity)]
    exact hupper
  have hle : e' ≤ 1 := le_of_binade_lt (h'.lower.trans_lt (by rw [zpow_one]; linarith))
  have hge : -1 ≤ e' := by
    refine le_of_binade_lt (lt_of_le_of_lt ?_ h'.upper)
    rw [zpow_neg_one]
    linarith
  have hcases : e' = -1 ∨ e' = 0 ∨ e' = 1 := by omega
  rcases hcases with rfl | rfl | rfl
  · have hlt : t' < 2 ^ 52 := by
      have := h'.upper
      rw [zpow_neg_one] at this
      linarith
    have hnear' : |(m' : ℚ) / 2 - t'| ≤ 1 / 4 := by
      have := h'.near
      rw [zpow_neg_one, ← div_eq_mul_inv] at this
      linarith
    rw [zpow_neg_one, ← div_eq_mul_inv]
    exact below_binade h.mantissa_bounds.1 hlower hnear h'.mantissa_bounds.2 hlt hnear'
      (by linarith)
  · have hnear' : |(m' : ℚ) - t'| ≤ 1 / 2 := by simpa using h'.near
    rw [zpow_zero, mul_one]
    exact within_binade hnear hnear' herror_lt
  · have hge' : (2 : ℚ) ^ 53 ≤ t' := by
      have := h'.lower
      rw [zpow_one] at this
      linarith
    have hnear' : |(m' : ℚ) * 2 - t'| ≤ 1 := by simpa using h'.near
    rw [zpow_one]
    exact above_binade h.mantissa_bounds.2 hupper hnear h'.mantissa_bounds.1 hge' hnear' herror_lt

/-- If two numbers differ by no more than the relative error of one rounding, then their roundings
differ by no more than one place of the first one's binade. -/
lemma abs_sub_le_place (h : IsNearest t m e) (h' : IsNearest t' m' e')
    (herror : |t' - t| ≤ t / 2 ^ 53) : |(m' : ℚ) * 2 ^ e' - m * 2 ^ e| ≤ 2 ^ e := by
  have hplace := two_zpow_pos e
  have hunit := h.scale (-e)
  rw [add_neg_cancel] at hunit
  have hscaled : |t' * 2 ^ (-e) - t * 2 ^ (-e)| ≤ t * 2 ^ (-e) / 2 ^ 53 := by
    rw [← sub_mul, abs_mul, abs_of_pos (two_zpow_pos (-e)), mul_div_right_comm]
    exact mul_le_mul_of_nonneg_right herror (two_zpow_pos (-e)).le
  have hone := abs_sub_le_one hunit (h'.scale (-e)) hscaled
  have hback : (m' : ℚ) * 2 ^ e' - m * 2 ^ e = (m' * 2 ^ (e' + -e) - m) * 2 ^ e := by
    rw [sub_mul, mul_assoc, ← zpow_add₀ (by norm_num), neg_add_cancel_right]
  rw [hback, abs_mul, abs_of_pos hplace]
  exact mul_le_of_le_one_left hplace.le hone

/-- So the roundings differ by no more than the distance of 1 to the next number of 53 bits,
relative to the greater one. -/
lemma abs_sub_le_max (h : RoundsTo t x) (h' : RoundsTo t' y) (herror : |t' - t| ≤ t / 2 ^ 53) :
    |y - x| ≤ max x y / 2 ^ 52 := by
  obtain ⟨m, e, hm, rfl⟩ := h
  obtain ⟨m', e', hm', rfl⟩ := h'
  refine (abs_sub_le_place hm hm' herror).trans ?_
  rw [le_div_iff₀ (by positivity)]
  refine le_trans ?_ (le_max_left _ _)
  have hge : (2 : ℚ) ^ 52 ≤ m := by exact_mod_cast hm.mantissa_bounds.1
  rw [mul_comm]
  exact mul_le_mul_of_nonneg_right hge (two_zpow_pos e).le

/-- A number that is rounded, multiplied and rounded again differs in this way from the product
that is rounded once. -/
lemma abs_sub_le_max_of_mul {f p : ℚ} (hf : 0 < f) (h : RoundsTo t p) (h' : RoundsTo (p * f) y)
    (honce : RoundsTo (t * f) x) : |y - x| ≤ max x y / 2 ^ 52 := by
  refine honce.abs_sub_le_max h' ?_
  rw [← sub_mul, abs_mul, abs_of_pos hf, mul_div_right_comm]
  exact mul_le_mul_of_nonneg_right h.abs_sub_le hf.le

end RoundsTo

end BrokerHarness.Binary64
