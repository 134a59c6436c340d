/-!
# Decimal digits

The natural number that a row of decimal digits denotes.
-/

namespace BrokerHarness.Text

/-- The value of a decimal digit. -/
def digitValue (c : Char) : Nat := c.toNat - '0'.toNat

/-- The natural number that decimal digits denote, zero if there are none. -/
def digitsValue (digits : List Char) : Nat :=
  digits.foldl (fun n c => n * 10 + digitValue c) 0

end BrokerHarness.Text
