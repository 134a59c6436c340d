import BrokerHarness.Text.Digits

/-!
# Nearest binary64 values

Positive binary64 values are written as *words*: the word of `mantissa * 2 ^ exponent` holds the
mantissa without its leading bit behind the exponent, so that greater values have greater words, and
the word of infinity is above all others. A ratio of natural numbers is rounded to the nearest
value, and to the one with the even word if two values are equally near. All of this is exact
arithmetic on natural numbers.
-/

namespace BrokerHarness.Binary64

/-! ### Rounding -/

/-- The natural number nearest to `num / den`; of two that are equally near the even one. -/
def nearestQuotient (num den : Nat) : Nat :=
  let quotient := num / den
  let twice := 2 * (num % den)
  if twice < den then quotient
  else if den < twice then quotient + 1
  else quotient + quotient % 2

/-- The nearest quotient differs from the ratio by no more than one half. -/
theorem nearestQuotient_near (num : Nat) {den : Nat} (h : 0 < den) :
    2 * (den * nearestQuotient num den) ≤ 2 * num + den ∧
      2 * num ≤ 2 * (den * nearestQuotient num den) + den := by
  have hdiv := Nat.div_add_mod num den
  have hmod := Nat.mod_lt num h
  unfold nearestQuotient
  simp only
  split
  · omega
  · split
    · rw [Nat.mul_add]
      omega
    · rcases Nat.mod_two_eq_zero_or_one (num / den) with hp | hp
      · rw [hp, Nat.add_zero]
        omega
      · rw [hp, Nat.mul_add]
        omega

/-- The ratio of `num * base ^ exponent` and `den` as a pair of natural numbers. -/
def scaled (base num den : Nat) (exponent : Int) : Nat × Nat :=
  if 0 ≤ exponent then (num * Nat.pow base exponent.toNat, den)
  else (num, den * Nat.pow base (-exponent).toNat)

/-- The least exponent of a mantissa. -/
def leastExponent : Int := -1074

/-- The word of infinity. -/
def infinity : Nat := 0x7FF0000000000000

/-- The word of the value nearest to `num / den`. The mantissa has 53 bits, or fewer at the least
exponent. A mantissa that is rounded up to `2 ^ 53` is carried into the exponent. -/
def nearest (num den : Nat) : Nat :=
  if num = 0 then 0
  else
    let low : Int := (num.log2 : Int) - den.log2 - 53
    let (n, d) := scaled 2 num den (-low)
    let exponent := max leastExponent (if n / d < Nat.pow 2 53 then low else low + 1)
    let (n, d) := scaled 2 num den (-exponent)
    min infinity
      (nearestQuotient n d + (exponent - leastExponent).toNat * Nat.pow 2 52)

/-- The word of the value nearest to `digits * 10 ^ exponent`. Far beyond either end of the range
the value does not depend on the digits. -/
def ofDecimal (digits : List Char) (exponent : Int) : Nat :=
  let digits := digits.dropWhile (· = '0')
  let size := (digits.length : Int) + exponent
  if digits.isEmpty ∨ size < -400 then 0
  else if 400 < size then infinity
  else
    let (num, den) := scaled 10 (Text.digitsValue digits) 1 exponent
    nearest num den

/-- The value with a word. -/
def toFloat (word : Nat) : Float := Float.ofBits (UInt64.ofNat word)

/-! ### Arithmetic -/

/-- The mantissa of a finite word. -/
def mantissa (word : Nat) : Nat :=
  if word < Nat.pow 2 52 then word else word % Nat.pow 2 52 + Nat.pow 2 52

/-- The exponent of a finite word. -/
def exponent (word : Nat) : Int := leastExponent + (word / Nat.pow 2 52 - 1 : Nat)

/-- The word of the product of two finite values. -/
def product (a b : Nat) : Nat :=
  let (num, den) := scaled 2 (mantissa a * mantissa b) 1 (exponent a + exponent b)
  nearest num den

/-- The word of the quotient of two finite values, the second of which is not zero. -/
def quotient (a b : Nat) : Nat :=
  let (num, den) := scaled 2 (mantissa a) (mantissa b) (exponent a - exponent b)
  nearest num den

/-! ### Decimal notation -/

/-- The least `size` with `num / den < 10 ^ size`. Two powers of two around the ratio leave three
numbers for it. -/
def decimalSize (num den : Nat) : Int :=
  let least : Int := (((num.log2 : Int) - den.log2 - 1) * 30103).fdiv 100000
  let isBelow (size : Int) : Bool :=
    let (n, d) := scaled 10 num den (-size)
    n < d
  if isBelow least then least else if isBelow (least + 1) then least + 1 else least + 2

/-- The decimal number `digits * 10 ^ exponent` with `count` digits that is nearest to the value of
a finite word other than zero. -/
def decimalOfLength (word count : Nat) : Nat × Int :=
  let (num, den) := scaled 2 (mantissa word) 1 (exponent word)
  let exponent := decimalSize num den - count
  let (n, d) := scaled 10 num den (-exponent)
  (nearestQuotient n d, exponent)

/-- Whether a decimal number denotes the value of a word. -/
def denotes (word : Nat) (decimal : Nat × Int) : Bool :=
  let (num, den) := scaled 10 decimal.1 1 decimal.2
  nearest num den = word

/-- A decimal number that denotes the value of a finite word, with the fewest digits with which the
nearest decimal number does so. Seventeen digits always do. -/
def toDecimal (word : Nat) : Nat × Int :=
  if word = 0 then (0, 0)
  else
    (((List.range 16).map fun n => decimalOfLength word (n + 1)).find? (denotes word)).getD
      (decimalOfLength word 17)

end BrokerHarness.Binary64
