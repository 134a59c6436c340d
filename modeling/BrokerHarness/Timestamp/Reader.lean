import BrokerHarness.Text.CodeRange
import BrokerHarness.Text.Digits
import BrokerHarness.Timestamp.Basic

/-!
# Reading moments

The reader accepts date, time and zone as in `2024-05-01T12:00:00.25+02:00`, and is lenient in these
points: white space may stand before every number and every mark between numbers, and before the
zone; numbers need no leading zeros; a year with a sign may have any number of digits; the date is
followed by `T`, `t` or a space; digits of the fraction beyond the ninth are cut off; the zone is
`Z`, `z`, `UTC` in any case, or an offset of hours and minutes with or without a colon. Second 60 is
a leap second in any minute. Seconds and zone are required.
-/

namespace BrokerHarness.Timestamp

/-- The decimal digits at the start of a text, `most` at the most, as a number; at least one. -/
def readDigits (most : Nat) (cs : List Char) : Option (Nat × List Char) :=
  let digits := (cs.take most).takeWhile Char.isDigit
  if digits.isEmpty then none
  else
    some (Text.digitsValue digits, cs.drop digits.length)

/-- A number of one or two digits, within the bounds, behind white space. -/
def readPart (least greatest : Nat) (cs : List Char) : Option (Nat × List Char) := do
  let (n, cs) ← readDigits 2 (Text.trimStart cs)
  if least ≤ n ∧ n ≤ greatest then some (n, cs) else none

/-- The text behind a mark, which white space may precede. -/
def readMark (mark : Char) (cs : List Char) : Option (List Char) :=
  match Text.trimStart cs with
  | c :: rest => if c = mark then some rest else none
  | [] => none

/-- A year: up to four digits, or any number of digits behind a sign. -/
def readYear (cs : List Char) : Option (Int × List Char) :=
  match Text.trimStart cs with
  | '-' :: rest => (readDigits rest.length rest).map fun (n, rest) => (-(n : Int), rest)
  | '+' :: rest => (readDigits rest.length rest).map fun (n, rest) => ((n : Int), rest)
  | rest => (readDigits 4 rest).map fun (n, rest) => ((n : Int), rest)

/-- The nanoseconds of a fraction, zero if there is none. -/
def readFraction : List Char → Option (Nat × List Char)
  | '.' :: rest => do
    let (n, behind) ← readDigits 9 rest
    let count := rest.length - behind.length
    return (n * Nat.pow 10 (9 - count), behind.dropWhile Char.isDigit)
  | rest => some (0, rest)

/-- Whether the text starts with the name of universal time, in any case. -/
def startsUniversal : List Char → Bool
  | u :: t :: c :: _ => u.toUpper = 'U' ∧ t.toUpper = 'T' ∧ c.toUpper = 'C'
  | _ => false

/-- Two decimal digits as a number. -/
def readTwo : List Char → Option (Nat × List Char)
  | a :: b :: rest =>
    if a.isDigit ∧ b.isDigit then some (Text.digitsValue [a, b], rest) else none
  | _ => none

/-- The zone, as seconds to the east of universal time. -/
def readZone (cs : List Char) : Option (Int × List Char) := do
  if startsUniversal cs then return (0, cs.drop 3)
  match cs with
  | 'Z' :: rest => return (0, rest)
  | 'z' :: rest => return (0, rest)
  | sign :: rest =>
    if sign = '+' ∨ sign = '-' ∨ sign = '−' then
      let (hours, rest) ← readTwo rest
      let (minutes, rest) ← readTwo (rest.dropWhile fun c => c = ':' || Text.isBlank c)
      if 23 < hours ∨ 59 < minutes then none
      else
        let offset : Int := hours * 3600 + minutes * 60
        return (if sign = '+' then offset else -offset, rest)
    else none
  | [] => none

/-- The moment that a text denotes. -/
def read? (text : String) : Option Timestamp := do
  let (year, cs) ← readYear text.toList
  let (month, cs) ← readPart 1 12 (← readMark '-' cs)
  let (day, cs) ← readPart 1 31 (← readMark '-' cs)
  let cs ← match cs with
    | c :: rest => if c = 'T' ∨ c = 't' ∨ c = ' ' then some rest else none
    | [] => none
  let (hour, cs) ← readPart 0 23 cs
  let (minute, cs) ← readPart 0 59 (← readMark ':' cs)
  let (second, cs) ← readPart 0 60 (← readMark ':' cs)
  let (nanos, cs) ← readFraction cs
  let (offset, cs) ← readZone (Text.trimStart cs)
  let date : CalendarDate := { year, month, day }
  if (Text.trimStart cs).isEmpty ∧ date.Valid ∧ date.IsCounted then
    let leap := second = 60
    ofUnix?
      (date.toDays * 86400 + hour * 3600 + minute * 60 + (if leap then 59 else second) - offset)
      (if leap then nanos + 1000000000 else nanos)
  else none

end BrokerHarness.Timestamp
