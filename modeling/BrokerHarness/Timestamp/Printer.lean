import BrokerHarness.Duration
import BrokerHarness.Timestamp.Basic

/-!
# Text of moments

Moments are written in universal time with the fewest of 0, 3, 6 or 9 digits for the fraction that
lose nothing. A leap second is written as second 60. Years outside 0 to 9999 carry a sign.
-/

namespace BrokerHarness.Timestamp

/-- A year: four digits at least, behind a sign outside 0 to 9999. -/
def yearText (year : Int) : String :=
  let digits := Duration.padded 4 year.natAbs
  if year < 0 then "-" ++ digits else if 9999 < year then "+" ++ digits else digits

/-- A fraction of a second in groups of three digits; nothing if it is zero. -/
def fractionText (nanos : Nat) : String :=
  if nanos = 0 then ""
  else if nanos % 1000000 = 0 then "." ++ Duration.padded 3 (nanos / 1000000)
  else if nanos % 1000 = 0 then "." ++ Duration.padded 6 (nanos / 1000)
  else "." ++ Duration.padded 9 nanos

/-- The text of a moment, as in `2024-05-01T10:00:00.250Z`. -/
def text (t : Timestamp) : String :=
  let date := CalendarDate.ofDays t.dayNumber
  let second := t.secondOfDay
  let two := Duration.padded 2
  yearText date.year ++ "-" ++ two date.month ++ "-" ++ two date.day ++ "T" ++
    two (second / 3600) ++ ":" ++ two (second / 60 % 60) ++ ":" ++
    two (second % 60 + t.nanos / 1000000000) ++ fractionText (t.nanos % 1000000000) ++ "Z"

end BrokerHarness.Timestamp
