import BrokerHarness.Proofs.Binary64.Nearest

/-!
# What decimal numbers are rounded to

The word of a ratio is found in two steps: the sizes of numerator and denominator leave two binades
for the ratio, and the mantissa is the natural number that is nearest to the ratio in units of the
place.  Both steps are exact, so the word is that of the rounding of the ratio (`nearest_eq`), as
long as this is neither too small for 53 bits nor beyond the greatest value.
-/

namespace BrokerHarness.Binary64

/-! ### Nearest quotients -/

/-- A quotient that is as near as the next one is even. -/
lemma even_nearestQuotient {num den : ℕ} (hden : 0 < den)
    (h : 2 * (den * nearestQuotient num den) + den = 2 * num ∨
      2 * (den * nearestQuotient num den) = 2 * num + den) : Even (nearestQuotient num den) := by
  have hdiv := Nat.div_add_mod num den
  have hmod := Nat.mod_lt num hden
  unfold nearestQuotient at h ⊢
  simp only at h ⊢
  split at h
  · omega
  · split at h
    · rw [Nat.mul_add] at h
      omega
    · rw [if_neg ‹_›, if_neg ‹_›, Nat.even_iff]
      omega

/-- In units of the place, the nearest quotient is the rounding of a ratio. -/
lemma isNearest_nearestQuotient {num den : ℕ} (hden : 0 < den) (hlower : 2 ^ 52 * den ≤ num)
    (hupper : num < 2 ^ 53 * den) (e : ℤ) :
    IsNearest ((num / den : ℚ) * 2 ^ e) (nearestQuotient num den) e := by
  have hplace := two_zpow_pos e
  have hden' : (0 : ℚ) < den := by exact_mod_cast hden
  obtain ⟨hle, hge⟩ := nearestQuotient_near num hden
  have hle' : 2 * ((den : ℚ) * nearestQuotient num den) ≤ 2 * num + den := by exact_mod_cast hle
  have hge' : (2 : ℚ) * num ≤ 2 * (den * nearestQuotient num den) + den := by exact_mod_cast hge
  have herror : |(nearestQuotient num den : ℚ) * 2 ^ e - num / den * 2 ^ e| =
      |(den : ℚ) * nearestQuotient num den - num| / den * 2 ^ e := by
    rw [← sub_mul, abs_mul, abs_of_pos hplace, ← abs_of_pos hden', ← abs_div, abs_of_pos hden',
      sub_div, mul_div_cancel_left₀ _ hden'.ne']
  refine ⟨?_, ?_, ?_, fun htie => ?_⟩
  · refine mul_le_mul_of_nonneg_right ?_ hplace.le
    rw [le_div_iff₀ hden']
    exact_mod_cast hlower
  · refine mul_lt_mul_of_pos_right ?_ hplace
    rw [div_lt_iff₀ hden']
    exact_mod_cast hupper
  · have hhalf : |(den : ℚ) * nearestQuotient num den - num| ≤ den / 2 := by
      rw [abs_le]
      constructor <;> linarith
    rw [herror, div_eq_inv_mul (2 ^ e : ℚ)]
    refine mul_le_mul_of_nonneg_right ?_ hplace.le
    rw [div_le_iff₀ hden']
    linarith
  · rw [herror, div_eq_inv_mul (2 ^ e : ℚ)] at htie
    have hhalf : |(den : ℚ) * nearestQuotient num den - num| = den / 2 := by
      have := mul_right_cancel₀ hplace.ne' htie
      rw [div_eq_iff hden'.ne'] at this
      linarith
    refine even_nearestQuotient hden ?_
    rcases (abs_eq (by positivity)).mp hhalf with htie' | htie'
    · right
      have : 2 * ((den : ℚ) * nearestQuotient num den) = 2 * num + den := by linarith
      exact_mod_cast this
    · left
      have : 2 * ((den : ℚ) * nearestQuotient num den) + den = 2 * num := by linarith
      exact_mod_cast this

/-! ### Words of ratios -/

/-- A ratio keeps its meaning when a power is moved into numerator or denominator. -/
lemma scaled_ratio {base num den n d : ℕ} {k : ℤ} (hbase : 0 < base) (hden : 0 < den)
    (h : scaled base num den k = (n, d)) : 0 < d ∧ (n / d : ℚ) = num / den * base ^ k := by
  have hbase' : (base : ℚ) ≠ 0 := by exact_mod_cast hbase.ne'
  unfold scaled at h
  split at h
  · rename_i hk
    obtain ⟨rfl, rfl⟩ := Prod.mk.inj h
    refine ⟨hden, ?_⟩
    have hpow : (base : ℚ) ^ k = base ^ k.toNat := by
      rw [← zpow_natCast, Int.toNat_of_nonneg hk]
    rw [hpow, Nat.pow_eq]
    push_cast
    exact mul_div_right_comm _ _ _
  · rename_i hk
    obtain ⟨rfl, rfl⟩ := Prod.mk.inj h
    refine ⟨Nat.mul_pos hden (Nat.pow_pos hbase), ?_⟩
    have hpow : (base : ℚ) ^ k = ((base : ℚ) ^ (-k).toNat)⁻¹ := by
      rw [← zpow_natCast, Int.toNat_of_nonneg (by omega), zpow_neg, inv_inv]
    rw [hpow, Nat.pow_eq]
    push_cast
    rw [← div_div, div_eq_mul_inv _ ((base : ℚ) ^ _)]

/-- A ratio in units of a place. -/
lemma ratio_of_scaled {num den n d : ℕ} {e : ℤ} (hden : 0 < den)
    (h : scaled 2 num den (-e) = (n, d)) : 0 < d ∧ (num / den : ℚ) = n / d * 2 ^ e := by
  obtain ⟨hd, hratio⟩ := scaled_ratio (by norm_num) hden h
  refine ⟨hd, ?_⟩
  rw [hratio, Nat.cast_ofNat, mul_assoc, ← zpow_add₀ (by norm_num), neg_add_cancel, zpow_zero,
    mul_one]

/-- Two natural numbers of known sizes leave two binades for their ratio. -/
lemma ratio_between {num den : ℕ} (hnum : num ≠ 0) (hden : den ≠ 0) :
    (2 : ℚ) ^ 52 * 2 ^ ((num.log2 : ℤ) - den.log2 - 53) ≤ num / den ∧
      (num : ℚ) / den < 2 ^ 53 * 2 ^ ((num.log2 : ℤ) - den.log2 - 53 + 1) := by
  have hden' : (0 : ℚ) < den := by exact_mod_cast Nat.pos_of_ne_zero hden
  have hnum_ge : (2 : ℚ) ^ num.log2 ≤ num := by exact_mod_cast Nat.log2_self_le hnum
  have hnum_lt : (num : ℚ) < 2 ^ (num.log2 + 1) := by exact_mod_cast Nat.lt_log2_self
  have hden_ge : (2 : ℚ) ^ den.log2 ≤ den := by exact_mod_cast Nat.log2_self_le hden
  have hden_lt : (den : ℚ) < 2 ^ (den.log2 + 1) := by exact_mod_cast Nat.lt_log2_self
  constructor
  · rw [le_div_iff₀ hden']
    calc (2 : ℚ) ^ 52 * 2 ^ ((num.log2 : ℤ) - den.log2 - 53) * den
        ≤ 2 ^ 52 * 2 ^ ((num.log2 : ℤ) - den.log2 - 53) * 2 ^ (den.log2 + 1) :=
          mul_le_mul_of_nonneg_left hden_lt.le (by positivity)
      _ = 2 ^ num.log2 := by
          rw [← zpow_natCast, ← zpow_natCast, ← zpow_natCast, ← zpow_add₀ (by norm_num),
            ← zpow_add₀ (by norm_num)]
          congr 1
          push_cast
          ring
      _ ≤ num := hnum_ge
  · rw [div_lt_iff₀ hden']
    calc (num : ℚ) < 2 ^ (num.log2 + 1) := hnum_lt
      _ = 2 ^ 53 * 2 ^ ((num.log2 : ℤ) - den.log2 - 53 + 1) * 2 ^ den.log2 := by
          rw [← zpow_natCast, ← zpow_natCast, ← zpow_natCast, ← zpow_add₀ (by norm_num),
            ← zpow_add₀ (by norm_num)]
          congr 1
          push_cast
          ring
      _ ≤ 2 ^ 53 * 2 ^ ((num.log2 : ℤ) - den.log2 - 53 + 1) * den :=
          mul_le_mul_of_nonneg_left hden_ge (by positivity)

/-- Numbers that are rounded to 53 bits without being too small for them or too great. -/
def InBinades (t : ℚ) : Prop := 2 ^ (-1022 : ℤ) ≤ t ∧ t < 2 ^ (1023 : ℤ)

/-- The exponents of the binades of these numbers. -/
lemma InBinades.exponent_bounds {t : ℚ} {e : ℤ} (h : InBinades t) (hlower : 2 ^ 52 * 2 ^ e ≤ t)
    (hupper : t < 2 ^ 53 * 2 ^ e) : -1074 ≤ e ∧ e ≤ 970 := by
  constructor
  · refine le_of_binade_lt (lt_of_le_of_lt ?_ hupper)
    rw [← zpow_natCast, ← zpow_add₀ (by norm_num)]
    exact h.1
  · refine le_of_binade_lt (hlower.trans_lt ?_)
    rw [← zpow_natCast, ← zpow_add₀ (by norm_num)]
    exact h.2

/-- Scaled by the place of its binade, a ratio has its rounding as nearest quotient. -/
lemma isNearest_of_scaled {num den n d : ℕ} {e : ℤ} (hden : 0 < den)
    (h : scaled 2 num den (-e) = (n, d)) (hlower : (2 : ℚ) ^ 52 * 2 ^ e ≤ num / den)
    (hupper : (num : ℚ) / den < 2 ^ 53 * 2 ^ e) :
    IsNearest (num / den) (nearestQuotient n d) e := by
  have hplace := two_zpow_pos e
  obtain ⟨hd, hratio⟩ := ratio_of_scaled hden h
  have hd' : (0 : ℚ) < d := by exact_mod_cast hd
  rw [hratio] at hlower hupper ⊢
  have hn_ge : (2 : ℚ) ^ 52 * d ≤ n := by
    rw [← le_div_iff₀ hd']
    exact le_of_mul_le_mul_right hlower hplace
  have hn_lt : (n : ℚ) < 2 ^ 53 * d := by
    rw [← div_lt_iff₀ hd']
    exact lt_of_mul_lt_mul_right hupper hplace.le
  exact isNearest_nearestQuotient hd (by exact_mod_cast hn_ge) (by exact_mod_cast hn_lt) e

/-- Of the two binades that are left, the one that holds a ratio is found by a quotient. -/
lemma binade_of_quotient {num den n d : ℕ} {low : ℤ} (hnum : num ≠ 0) (hden : den ≠ 0)
    (hlow : low = (num.log2 : ℤ) - den.log2 - 53) (h : scaled 2 num den (-low) = (n, d)) :
    (2 : ℚ) ^ 52 * 2 ^ (if n / d < 2 ^ 53 then low else low + 1) ≤ num / den ∧
      (num : ℚ) / den < 2 ^ 53 * 2 ^ (if n / d < 2 ^ 53 then low else low + 1) := by
  have hplace := two_zpow_pos low
  obtain ⟨hlower, hupper⟩ := ratio_between hnum hden
  rw [← hlow] at hlower hupper
  obtain ⟨hd, hratio⟩ := ratio_of_scaled (Nat.pos_of_ne_zero hden) h
  have hd' : (0 : ℚ) < d := by exact_mod_cast hd
  split
  · rename_i hlt
    refine ⟨hlower, ?_⟩
    rw [Nat.div_lt_iff_lt_mul hd] at hlt
    have hlt' : (n : ℚ) < 2 ^ 53 * d := by exact_mod_cast hlt
    rw [hratio]
    refine mul_lt_mul_of_pos_right ?_ hplace
    rwa [div_lt_iff₀ hd']
  · rename_i hge
    refine ⟨?_, hupper⟩
    rw [not_lt, Nat.le_div_iff_mul_le hd] at hge
    have hge' : (2 : ℚ) ^ 53 * d ≤ n := by exact_mod_cast hge
    rw [hratio, zpow_add₀ (by norm_num), zpow_one, mul_comm ((2 : ℚ) ^ low), ← mul_assoc]
    refine mul_le_mul_of_nonneg_right ?_ hplace.le
    rw [le_div_iff₀ hd']
    linarith

/-- The word of a ratio is that of its rounding. -/
lemma nearest_eq {num den : ℕ} (hden : 0 < den) (hrange : InBinades (num / den)) :
    ∃ m e, IsNearest (num / den) m e ∧ -1074 ≤ e ∧ e ≤ 970 ∧
      nearest num den = m + (e + 1074).toNat * 2 ^ 52 := by
  have hnum : num ≠ 0 := by
    rintro rfl
    have hpos := hrange.1
    rw [Nat.cast_zero, zero_div] at hpos
    exact absurd hpos (not_le.mpr (two_zpow_pos _))
  set low : ℤ := (num.log2 : ℤ) - den.log2 - 53 with hlow
  obtain ⟨n, d, hscaled⟩ : ∃ n d, scaled 2 num den (-low) = (n, d) := ⟨_, _, rfl⟩
  set e : ℤ := if n / d < 2 ^ 53 then low else low + 1 with he
  obtain ⟨hlower, hupper⟩ := binade_of_quotient hnum hden.ne' hlow hscaled
  rw [← he] at hlower hupper
  obtain ⟨he_ge, he_le⟩ := hrange.exponent_bounds hlower hupper
  obtain ⟨n', d', hscaled'⟩ : ∃ n d, scaled 2 num den (-e) = (n, d) := ⟨_, _, rfl⟩
  have hnearest := isNearest_of_scaled hden hscaled' hlower hupper
  refine ⟨nearestQuotient n' d', e, hnearest, he_ge, he_le, ?_⟩
  have hmantissa := hnearest.mantissa_bounds.2
  have hfinite : nearestQuotient n' d' + (e + 1074).toNat * 2 ^ 52 ≤ infinity := by
    rw [infinity]
    omega
  unfold nearest
  rw [if_neg hnum]
  simp only [← hlow, hscaled, Nat.pow_eq, ← he, leastExponent, max_eq_right he_ge, hscaled',
    sub_neg_eq_add]
  exact min_eq_right hfinite

end BrokerHarness.Binary64

/-! ### Digits -/

namespace BrokerHarness.Text

variable {digits : List Char}

/-- The first digit counts by the number of those behind it. -/
lemma digitsValue_cons (c : Char) (digits : List Char) :
    digitsValue (c :: digits) = digitValue c * 10 ^ digits.length + digitsValue digits := by
  have key : ∀ (digits : List Char) (n : ℕ),
      digits.foldl (fun n c => n * 10 + digitValue c) n =
        n * 10 ^ digits.length + digitsValue digits := by
    intro digits
    induction digits with
    | nil => simp [digitsValue]
    | cons c rest ih =>
      intro n
      rw [digitsValue, List.foldl_cons, List.foldl_cons, ih, ih (0 * 10 + digitValue c),
        List.length_cons, pow_succ]
      ring
  rw [digitsValue, List.foldl_cons, key, zero_mul, zero_add]

lemma toNat_of_isDigit {c : Char} (h : c.isDigit = true) : 48 ≤ c.toNat ∧ c.toNat ≤ 57 := by
  simpa [Char.isDigit, UInt32.le_iff_toNat_le] using h

lemma digitValue_lt {c : Char} (h : c.isDigit = true) : digitValue c < 10 := by
  have hrange := toNat_of_isDigit h
  have hzero : '0'.toNat = 48 := rfl
  rw [digitValue, hzero]
  omega

/-- Only the digit zero denotes zero. -/
lemma digitValue_pos {c : Char} (h : c.isDigit = true) (hne : c ≠ '0') : 0 < digitValue c := by
  have hrange := toNat_of_isDigit h
  have hzero : '0'.toNat = 48 := rfl
  have hne' : c.toNat ≠ 48 := fun heq => hne (Char.toNat_inj.mp heq)
  rw [digitValue, hzero]
  omega

/-- Digits denote less than the power of ten with as many zeros. -/
lemma digitsValue_lt (h : ∀ c ∈ digits, c.isDigit = true) :
    digitsValue digits < 10 ^ digits.length := by
  induction digits with
  | nil => decide
  | cons c rest ih =>
    obtain ⟨hc, hrest⟩ := List.forall_mem_cons.mp h
    have hvalue := digitValue_lt hc
    have hlt := ih hrest
    rw [digitsValue_cons, List.length_cons, pow_succ]
    have := Nat.mul_le_mul_right (10 ^ rest.length) (show digitValue c + 1 ≤ 10 by omega)
    linarith

/-- Zeros in front do not count. -/
lemma digitsValue_dropWhile_zero (digits : List Char) :
    digitsValue (digits.dropWhile (· = '0')) = digitsValue digits := by
  induction digits with
  | nil => rfl
  | cons c rest ih =>
    by_cases hc : c = '0'
    · subst hc
      have hzero : digitValue '0' = 0 := rfl
      rw [List.dropWhile_cons_of_pos (by simp), ih, digitsValue_cons, hzero, zero_mul, zero_add]
    · rw [List.dropWhile_cons_of_neg (by simpa using hc)]

/-- Digits without zeros in front denote a number of their length. -/
lemma pow_le_digitsValue {c : Char} (h : c.isDigit = true) (hne : c ≠ '0') :
    10 ^ digits.length ≤ digitsValue (c :: digits) := by
  rw [digitsValue_cons]
  have hvalue : 1 ≤ digitValue c := digitValue_pos h hne
  have := Nat.mul_le_mul_right (10 ^ digits.length) hvalue
  omega

/-- Digits are zeros, or have a first digit behind the zeros in front. -/
lemma dropWhile_zero_cases (h : ∀ c ∈ digits, c.isDigit = true) :
    digits.dropWhile (· = '0') = [] ∨
      ∃ c rest, digits.dropWhile (· = '0') = c :: rest ∧ c.isDigit = true ∧ c ≠ '0' := by
  rcases hrest : digits.dropWhile (· = '0') with _ | ⟨c, rest⟩
  · exact Or.inl rfl
  · have hc : c ∈ digits := (List.dropWhile_sublist _).subset (hrest ▸ List.mem_cons_self)
    have hne : c ≠ '0' := by
      have := List.head?_dropWhile_not (fun c => decide (c = '0')) digits
      rw [hrest] at this
      simpa using this
    exact Or.inr ⟨c, rest, rfl, h c hc, hne⟩

end BrokerHarness.Text

/-! ### Words of decimal numbers -/

namespace BrokerHarness.Binary64

variable {digits : List Char} {exponent : ℤ}

/-- Zero is read as zero, whatever its exponent is. -/
lemma ofDecimal_eq_zero (hdigits : ∀ c ∈ digits, c.isDigit = true)
    (hzero : Text.digitsValue digits = 0) : ofDecimal digits exponent = 0 := by
  rcases Text.dropWhile_zero_cases hdigits with hempty | ⟨c, rest, hrest, hc, hne⟩
  · unfold ofDecimal
    simp [hempty]
  · have hpos : 10 ^ rest.length ≤ Text.digitsValue (c :: rest) := Text.pow_le_digitsValue hc hne
    rw [← hrest, Text.digitsValue_dropWhile_zero, hzero] at hpos
    exact absurd hpos (by simp)

/-- Powers of ten grow faster than powers of eight. -/
lemma two_zpow_le_ten_zpow {k : ℤ} (hk : 0 ≤ k) : (2 : ℚ) ^ (3 * k) ≤ 10 ^ k := by
  rw [zpow_mul]
  exact zpow_le_zpow_left₀ hk (by positivity) (by norm_num)

/-- A thousand is less than 2 to the power of 10. -/
lemma ten_zpow_le_two_zpow {k : ℤ} (hk : 0 ≤ k) : (10 : ℚ) ^ (3 * k) ≤ 2 ^ (10 * k) := by
  rw [zpow_mul, zpow_mul]
  exact zpow_le_zpow_left₀ hk (by positivity) (by norm_num)

/-- The number of digits and the exponent bound a number on either side, so of a number in the
binades neither is so small or great that it is not looked at. -/
lemma exponent_bounds_of_digits {c : Char} {rest : List Char}
    (hdigits : ∀ d ∈ c :: rest, d.isDigit = true) (hne : c ≠ '0')
    (hrange : InBinades (Text.digitsValue (c :: rest) * 10 ^ exponent)) :
    -400 ≤ ((c :: rest).length : ℤ) + exponent ∧ ((c :: rest).length : ℤ) + exponent ≤ 400 := by
  have hten : (0 : ℚ) < 10 ^ exponent := zpow_pos (by norm_num) exponent
  constructor
  · by_contra! hsmall
    have hupper : Text.digitsValue (c :: rest) * (10 : ℚ) ^ exponent <
        10 ^ (((c :: rest).length : ℤ) + exponent) := by
      rw [zpow_add₀ (by norm_num), zpow_natCast]
      refine mul_lt_mul_of_pos_right ?_ hten
      exact_mod_cast Text.digitsValue_lt hdigits
    have hle : (10 : ℚ) ^ (((c :: rest).length : ℤ) + exponent) ≤ 10 ^ (-400 : ℤ) :=
      zpow_le_zpow_right₀ (by norm_num) hsmall.le
    have htiny : (10 : ℚ) ^ (-400 : ℤ) ≤ 2 ^ (-1022 : ℤ) := by
      rw [zpow_neg, zpow_neg]
      refine inv_anti₀ (by positivity) (le_trans ?_ (two_zpow_le_ten_zpow (by norm_num)))
      exact zpow_le_zpow_right₀ (by norm_num) (by norm_num)
    exact absurd (hrange.1.trans_lt hupper) (not_lt.mpr (hle.trans htiny))
  · by_contra! hgreat
    rw [List.length_cons] at hgreat
    have hlower : (10 : ℚ) ^ ((rest.length : ℤ) + exponent) ≤
        Text.digitsValue (c :: rest) * 10 ^ exponent := by
      rw [zpow_add₀ (by norm_num), zpow_natCast]
      refine mul_le_mul_of_nonneg_right ?_ hten.le
      exact_mod_cast Text.pow_le_digitsValue (hdigits c List.mem_cons_self) hne
    have hle : (10 : ℚ) ^ (400 : ℤ) ≤ 10 ^ ((rest.length : ℤ) + exponent) :=
      zpow_le_zpow_right₀ (by norm_num) (by push_cast at hgreat; omega)
    have hhuge : (2 : ℚ) ^ (1023 : ℤ) ≤ 10 ^ (400 : ℤ) :=
      (zpow_le_zpow_right₀ (by norm_num) (by norm_num)).trans (two_zpow_le_ten_zpow (by norm_num))
    exact absurd hrange.2 (not_lt.mpr (hhuge.trans (hle.trans hlower)))

/-- The word of a decimal number is that of its rounding. -/
lemma ofDecimal_eq (hdigits : ∀ c ∈ digits, c.isDigit = true)
    (hrange : InBinades (Text.digitsValue digits * 10 ^ exponent)) :
    ∃ m e, IsNearest (Text.digitsValue digits * 10 ^ exponent) m e ∧ -1074 ≤ e ∧ e ≤ 970 ∧
      ofDecimal digits exponent = m + (e + 1074).toNat * 2 ^ 52 := by
  rw [← Text.digitsValue_dropWhile_zero] at hrange ⊢
  rcases Text.dropWhile_zero_cases hdigits with hempty | ⟨c, rest, hrest, -, hne⟩
  · have hpos := hrange.1
    rw [hempty, show Text.digitsValue [] = 0 from rfl, Nat.cast_zero, zero_mul] at hpos
    exact absurd hpos (not_le.mpr (two_zpow_pos _))
  · rw [hrest] at hrange ⊢
    have hdigits' : ∀ d ∈ c :: rest, d.isDigit = true := by
      intro d hd
      exact hdigits d ((List.dropWhile_sublist _).subset (hrest ▸ hd))
    obtain ⟨hnot_small, hnot_great⟩ := exponent_bounds_of_digits hdigits' hne hrange
    obtain ⟨num, den, hscaled⟩ :
        ∃ num den, scaled 10 (Text.digitsValue (c :: rest)) 1 exponent = (num, den) := ⟨_, _, rfl⟩
    obtain ⟨hden, hratio⟩ := scaled_ratio (by norm_num) one_pos hscaled
    have hvalue : (Text.digitsValue (c :: rest) * 10 ^ exponent : ℚ) = num / den := by
      rw [hratio, Nat.cast_one, div_one, Nat.cast_ofNat]
    have hword : ofDecimal digits exponent = nearest num den := by
      unfold ofDecimal
      simp only [hrest, hscaled]
      rw [if_neg (by simpa using hnot_small.not_gt), if_neg hnot_great.not_gt]
    rw [hvalue] at hrange ⊢
    rw [hword]
    exact nearest_eq hden hrange

end BrokerHarness.Binary64
