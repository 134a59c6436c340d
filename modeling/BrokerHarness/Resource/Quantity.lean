import BrokerHarness.Binary64
import BrokerHarness.Text.CodeRange
import BrokerHarness.Text.Occurrence

/-!
# Quantities

Sizes of storage are written as numbers with a unit. Two sizes are compared as binary64 values, up
to their relative precision, so that a size may be written in several ways. A text without such a
value is the same quantity as itself only.
-/

namespace BrokerHarness.Quantity

/-- The units, in the order in which they are looked for, with the number that each stands for. -/
def units : List (String × Float) :=
  [("Ki", 1024), ("Mi", 1048576), ("Gi", 1073741824), ("Ti", 1099511627776),
   ("Pi", 1125899906842624), ("Ei", 1152921504606846976),
   ("k", 1e3), ("M", 1e6), ("G", 1e9), ("T", 1e12), ("P", 1e15), ("E", 1e18)]

/-- Reads an exponent: decimal digits, perhaps behind a sign, and nothing else. -/
def readExponent (cs : List Char) : Option Int :=
  let (negative, digits) := match cs with
    | '-' :: rest => (true, rest)
    | '+' :: rest => (false, rest)
    | rest => (false, rest)
  if digits.isEmpty ∨ ¬ digits.all Char.isDigit then none
  else
    let n : Int := Text.digitsValue digits
    some (if negative then -n else n)

/-- Reads a decimal number without sign: digits with an optional point on either side of which
digits may be missing, and an optional exponent. -/
def readDecimal (cs : List Char) : Option Float := do
  let whole := cs.takeWhile Char.isDigit
  let behind := cs.dropWhile Char.isDigit
  let (fraction, behind) := match behind with
    | '.' :: rest => (rest.takeWhile Char.isDigit, rest.dropWhile Char.isDigit)
    | rest => ([], rest)
  if whole.isEmpty ∧ fraction.isEmpty then none
  else
    let exponent ← match behind with
      | [] => some 0
      | c :: rest => if c = 'e' ∨ c = 'E' then readExponent rest else none
    return Binary64.toFloat (Binary64.ofDecimal (whole ++ fraction) (exponent - fraction.length))

/-- Reads a number with an optional sign; infinity and not-a-number may be named, in any case. -/
def readNumber (cs : List Char) : Option Float :=
  let (negative, cs) := match cs with
    | '-' :: rest => (true, rest)
    | '+' :: rest => (false, rest)
    | rest => (false, rest)
  let name := String.ofList (cs.map Char.toLower)
  let magnitude :=
    if name = "inf" ∨ name = "infinity" then some (1.0 / 0.0)
    else if name = "nan" then some (0.0 / 0.0)
    else readDecimal cs
  magnitude.map fun x => if negative then -x else x

/-- The value of a text with the first of the units that it ends in, or without a unit. -/
def valueWith (cs : List Char) : List (String × Float) → Option Float
  | [] => readNumber cs
  | (unit, factor) :: rest =>
    match Text.stripEnd? unit.toList cs with
    | some number => (readNumber number).map (· * factor)
    | none => valueWith cs rest

/-- The value of a quantity, white space around it aside. -/
def value? (text : String) : Option Float := valueWith (Text.trim text.toList) units

/-- The distance between 1 and the next binary64 value. -/
def precision : Float := Float.ofBits 0x3CB0000000000000

/-- Whether two values differ by no more than the precision of the greater one. -/
def close (x y : Float) : Bool :=
  let a := x.abs
  let b := y.abs
  (x - y).abs ≤ precision * (if a < b then b else a)

/-- Whether two texts are the same quantity. -/
def same (a b : String) : Bool :=
  match value? a, value? b with
  | some x, some y => close x y
  | _, _ => a = b

end BrokerHarness.Quantity
