/-!
# The calendar

Days are counted from 1 January 1970. A date is found by leaps: whole cycles of 400 years, then
centuries, then cycles of four years, then years, where the year starts in March so that the leap
day is its last. The month follows from the day of such a year, because the lengths of months from
March on repeat in a pattern of 153 days for five months.
-/

namespace Redaction.Render

/-- A day of the Gregorian calendar, continued to all years; the year 0 is before the year 1. -/
structure Date where
  year : Int
  month : Nat
  day : Nat
deriving DecidableEq

namespace Date

/-- The days from 1 March of the year 0 to 1 January 1970. -/
def epoch : Int := 719468

/-- The days in 400 years, in the first three centuries of them, and in four years. -/
def daysOfCycle : Nat := 146097

def daysOfCentury : Nat := 36524

def daysOfLeapCycle : Nat := 1461

/-- The day `n` of a year that starts in March, of the years counted so. -/
def ofYearDay (year : Int) (n : Nat) : Date :=
  let month := (5 * n + 2) / 153
  let day := n - (153 * month + 2) / 5 + 1
  if month < 10 then ⟨year, month + 3, day⟩ else ⟨year + 1, month - 9, day⟩

/-- **The date of a day** after 1 January 1970, or before it. -/
def ofDays (days : Int) : Date :=
  let cycle := (days + epoch) / daysOfCycle
  let n := ((days + epoch) % daysOfCycle).toNat
  let century := min (n / daysOfCentury) 3
  let n := n - century * daysOfCentury
  let leapCycle := n / daysOfLeapCycle
  let n := n % daysOfLeapCycle
  let year := min (n / 365) 3
  ofYearDay (400 * cycle + 100 * century + 4 * leapCycle + year) (n - year * 365)

end Date

end Redaction.Render
