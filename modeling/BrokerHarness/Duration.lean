/-!
# Durations

Lengths of time and clock readings are natural numbers of nanoseconds throughout the library, so
that sums, differences and comparisons are exact. The text of a duration uses the largest unit that
its value reaches.
-/

namespace BrokerHarness.Duration

/-- The duration of `s` seconds. -/
def ofSeconds (s : Nat) : Nat := s * 1000000000

/-- The duration of `ms` milliseconds. -/
def ofMillis (ms : Nat) : Nat := ms * 1000000

/-- The whole seconds of a duration. -/
def seconds (d : Nat) : Nat := d / 1000000000

/-- The nanoseconds of a duration beyond its whole seconds. -/
def nanosOfSecond (d : Nat) : Nat := d % 1000000000

/-- The whole milliseconds of a duration. -/
def millis (d : Nat) : Nat := d / 1000000

/-- A decimal numeral of exactly `width` digits, for `n` below `10 ^ width`. -/
def padded (width n : Nat) : String :=
  let digits := toString n
  String.ofList (List.replicate (width - digits.length) '0') ++ digits

/-- The fraction `part / 10 ^ width` behind a point, without trailing zeros; nothing if it is
zero. -/
def fractionText (width part : Nat) : String :=
  if part = 0 then ""
  else "." ++ String.ofList (((padded width part).toList.reverse.dropWhile (· == '0')).reverse)

/-- The value of `d` in units of `10 ^ width` nanoseconds, as an exact decimal. -/
def inUnit (width : Nat) (d : Nat) : String :=
  toString (d / Nat.pow 10 width) ++ fractionText width (d % Nat.pow 10 width)

/-- The text of a duration: an exact decimal in the largest of the units `s`, `ms`, `µs` and `ns`
whose whole part is not zero, as in `4.5s` or `0ns`. -/
def text (d : Nat) : String :=
  if 1000000000 ≤ d then inUnit 9 d ++ "s"
  else if 1000000 ≤ d then inUnit 6 d ++ "ms"
  else if 1000 ≤ d then inUnit 3 d ++ "µs"
  else toString d ++ "ns"

end BrokerHarness.Duration
