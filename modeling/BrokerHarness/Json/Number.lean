import BrokerHarness.Binary64

/-!
# JSON numbers

Integers of at most 64 bits are exact. Every other number is a binary64 value, which is found by one
multiplication or division: the digits that 64 bits hold are rounded to binary64, and then scaled by
a power of ten that is rounded too. The value is therefore near the number, but not always nearest.
-/

namespace BrokerHarness

/-- A JSON number. -/
inductive Json.Number where
  /-- An integer of at most 64 bits. -/
  | int (value : Int)
  /-- The binary64 value with a word, or its negative; zero is not negative. -/
  | float (negative : Bool) (word : Nat)
deriving DecidableEq, Repr, Inhabited

namespace Json.Number

/-- The power of ten with an exponent as a binary64 value. -/
def powerOfTen (exponent : Nat) : Nat := Binary64.nearest (Nat.pow 10 exponent) 1

/-- The greatest exponent of a power of ten that is a finite binary64 value. -/
def greatestPower : Nat := 308

/-- A binary64 value over `10 ^ exponent`, in steps of the greatest power. -/
def lowered (word exponent : Nat) : Nat :=
  if exponent ≤ greatestPower then Binary64.quotient word (powerOfTen exponent)
  else if word = 0 then 0
  else lowered (Binary64.quotient word (powerOfTen greatestPower)) (exponent - greatestPower)
termination_by exponent
decreasing_by
  unfold greatestPower at *
  omega

/-- A binary64 value times `10 ^ exponent`, unless the product is too great. -/
def raised? (word exponent : Nat) : Option Nat :=
  if exponent ≤ greatestPower then
    let product := Binary64.product word (powerOfTen exponent)
    if product = Binary64.infinity then none else some product
  else if word = 0 then some 0
  else none

/-- The binary64 value for `significand * 10 ^ exponent`, unless it is too great. -/
def approximate? (significand : Nat) (exponent : Int) : Option Nat :=
  let word := Binary64.nearest significand 1
  if 0 ≤ exponent then raised? word exponent.toNat else some (lowered word (-exponent).toNat)

/-- Appends decimal digits to a natural number as long as it has at most 64 bits, and returns the
digits that are left over. -/
def accumulate (n : Nat) : List Char → Nat × List Char
  | [] => (n, [])
  | c :: rest =>
    let longer := n * 10 + Text.digitValue c
    if longer < 18446744073709551616 then accumulate longer rest else (n, c :: rest)

/-- The integer of 64 bits that `n` with a sign is. Zero with a minus sign is none. -/
def integer? (negative : Bool) (n : Nat) : Option Int :=
  if negative then (if 0 < n ∧ n ≤ 9223372036854775808 then some (-n) else none) else some n

/-- The number with a sign, digits before and behind the point, and an exponent, unless it is too
great. Digits before the point that are left over count by their number only; those behind it do not
count. -/
def ofDigits? (negative : Bool) (whole fraction : List Char) (exponent : Option Int) :
    Option Number :=
  let (n, beyond) := accumulate 0 whole
  let (significand, ignored) := accumulate n fraction
  let kept : Int := fraction.length - ignored.length
  let isInteger := beyond.isEmpty ∧ fraction.isEmpty ∧ exponent.isNone
  match if isInteger then integer? negative n else none with
  | some value => some (.int value)
  | none =>
    (approximate? significand (exponent.getD 0 + beyond.length - kept)).map fun word =>
      .float (negative && word ≠ 0) word

end Json.Number

end BrokerHarness
