/-!
# Moments in time

A moment is a second counted from the start of 1970 in coordinated universal time, without leap
seconds, and nanoseconds behind it. A leap second belongs to the second before it: its nanoseconds
go on from `1000000000`, so that it is ordered behind every other moment of that second.

Dates follow the Gregorian calendar in all years, with a year zero. Days are counted for about
262 thousand years to either side.
-/

namespace BrokerHarness

/-- A moment: the seconds since the start of 1970, and the nanoseconds behind the start of that
second, `1000000000` or more in a leap second. -/
structure Timestamp where
  seconds : Int
  nanos : Nat
deriving DecidableEq, Repr

/-- A date of the Gregorian calendar, in which the year before 1 is 0, and months and days count
from 1. -/
structure CalendarDate where
  year : Int
  month : Nat
  day : Nat
deriving DecidableEq, Repr

namespace CalendarDate

/-- Whether a year has a 29th of February. -/
def isLeapYear (year : Int) : Bool :=
  year % 4 = 0 ∧ (year % 100 ≠ 0 ∨ year % 400 = 0)

/-- The number of days of a month. -/
def monthLength (year : Int) (month : Nat) : Nat :=
  if month = 2 then (if isLeapYear year then 29 else 28)
  else if month = 4 ∨ month = 6 ∨ month = 9 ∨ month = 11 then 30
  else 31

/-- Whether the month exists and has the day. -/
def Valid (date : CalendarDate) : Prop :=
  1 ≤ date.month ∧ date.month ≤ 12 ∧ 1 ≤ date.day ∧ date.day ≤ monthLength date.year date.month

instance (date : CalendarDate) : Decidable date.Valid :=
  inferInstanceAs (Decidable (_ ∧ _))

/-- The days of the months before `month` in a year that starts in March, counting from March. -/
def daysBeforeMonth (fromMarch : Nat) : Nat := (153 * fromMarch + 2) / 5

/-- The number of days from the start of 1970 to a date. The years are counted from March, so that a
leap day is the last of its year, and in cycles of 400 years, which have 146097 days each. -/
def toDays (date : CalendarDate) : Int :=
  let y := if date.month ≤ 2 then date.year - 1 else date.year
  let cycle := y.fdiv 400
  let yearOfCycle := y.fmod 400
  let fromMarch := (date.month + 9) % 12
  let dayOfYear : Int := daysBeforeMonth fromMarch + date.day - 1
  cycle * 146097 + (yearOfCycle * 365 + yearOfCycle / 4 - yearOfCycle / 100 + dayOfYear) - 719468

/-- The date a number of days after the start of 1970. -/
def ofDays (days : Int) : CalendarDate :=
  let z := days + 719468
  let cycle := z.fdiv 146097
  let dayOfCycle := (z.fmod 146097).toNat
  let yearOfCycle :=
    (dayOfCycle - dayOfCycle / 1460 + dayOfCycle / 36524 - dayOfCycle / 146096) / 365
  let dayOfYear := dayOfCycle - (365 * yearOfCycle + yearOfCycle / 4 - yearOfCycle / 100)
  let fromMarch := (5 * dayOfYear + 2) / 153
  let month := if fromMarch < 10 then fromMarch + 3 else fromMarch - 9
  let year : Int := yearOfCycle + cycle * 400
  { year := if month ≤ 2 then year + 1 else year
    month := month
    day := dayOfYear - daysBeforeMonth fromMarch + 1 }

/-- The first day that is counted. -/
def first : CalendarDate := ⟨-262143, 1, 1⟩

/-- The last day that is counted. -/
def last : CalendarDate := ⟨262142, 12, 31⟩

/-- Whether a number of days after the start of 1970 leads to a day that is counted. -/
def AreCounted (days : Int) : Prop := first.toDays ≤ days ∧ days ≤ last.toDays

instance (days : Int) : Decidable (AreCounted days) :=
  inferInstanceAs (Decidable (_ ∧ _))

/-- Whether a date is one of the days that are counted. -/
def IsCounted (date : CalendarDate) : Prop := AreCounted date.toDays

instance (date : CalendarDate) : Decidable date.IsCounted :=
  inferInstanceAs (Decidable (AreCounted _))

end CalendarDate

namespace Timestamp

/-! ### Moments of the calendar -/

/-- The number of days from the start of 1970 to the day of a moment. -/
def dayNumber (t : Timestamp) : Int := t.seconds.fdiv 86400

/-- The second of the day that a moment belongs to. -/
def secondOfDay (t : Timestamp) : Nat := (t.seconds.fmod 86400).toNat

/-- Whether a moment belongs to a day that is counted, and is in a leap second only at the end of a
minute. -/
def Valid (t : Timestamp) : Prop :=
  CalendarDate.AreCounted t.dayNumber ∧ t.nanos < 2000000000 ∧
    (1000000000 ≤ t.nanos → t.secondOfDay % 60 = 59)

instance (t : Timestamp) : Decidable t.Valid :=
  inferInstanceAs (Decidable (_ ∧ _))

/-- The moment some seconds and nanoseconds after the start of 1970, if the calendar has it. -/
def ofUnix? (seconds : Int) (nanos : Nat) : Option Timestamp :=
  let t : Timestamp := { seconds, nanos }
  if t.Valid then some t else none

/-- The second that a moment belongs to, without the fraction. -/
def wholeSecond (t : Timestamp) : Timestamp :=
  { t with nanos := t.nanos / 1000000000 * 1000000000 }

/-! ### Order -/

/-- Whether the first moment is before or at the second. -/
instance : LE Timestamp where
  le a b := a.seconds < b.seconds ∨ (a.seconds = b.seconds ∧ a.nanos ≤ b.nanos)

instance (a b : Timestamp) : Decidable (a ≤ b) :=
  inferInstanceAs (Decidable (_ ∨ _))

theorem le_refl (a : Timestamp) : a ≤ a := Or.inr ⟨rfl, Nat.le_refl _⟩

theorem le_trans {a b c : Timestamp} (hab : a ≤ b) (hbc : b ≤ c) : a ≤ c := by
  rcases hab with hab | hab <;> rcases hbc with hbc | hbc
  · exact Or.inl (by omega)
  · exact Or.inl (by omega)
  · exact Or.inl (by omega)
  · exact Or.inr (by omega)

/-- Of two moments one is not later. -/
theorem le_total (a b : Timestamp) : a ≤ b ∨ b ≤ a := by
  by_cases h : a.seconds = b.seconds
  · rcases Nat.le_total a.nanos b.nanos with hn | hn
    · exact Or.inl (Or.inr ⟨h, hn⟩)
    · exact Or.inr (Or.inr ⟨h.symm, hn⟩)
  · rcases Int.lt_or_gt_of_ne h with hs | hs
    · exact Or.inl (Or.inl hs)
    · exact Or.inr (Or.inl hs)

/-- Two moments of which none is later are the same. -/
theorem le_antisymm {a b : Timestamp} (hab : a ≤ b) (hba : b ≤ a) : a = b := by
  have hs : a.seconds = b.seconds := by rcases hab with h | h <;> rcases hba with h' | h' <;> omega
  have hn : a.nanos = b.nanos := by rcases hab with h | h <;> rcases hba with h' | h' <;> omega
  cases a; cases b; simp_all

end Timestamp

end BrokerHarness
