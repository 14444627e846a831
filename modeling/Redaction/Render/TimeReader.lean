import Mathlib.Algebra.Field.Rat
import Redaction.Render.Time

/-!
# Reading timestamps and durations

What the texts of timestamps and durations say to a reader. Nothing here is made from the writers:
a date is counted by the years and the months before it, and not by leaps through the cycles of the
calendar, and a fraction is the number that its digits stand for.

* `Date.dayNumber`: the days from 1 January 1970 to a date of the calendar.
* `dateTime?`: a date-time of RFC 3339 in UTC, and the second that it names. The seconds of a minute
  go up to 60, but 60 is a leap second, and only the last minute of a month can have one.
* `seconds?`: a number of seconds with a sign or without, and with no digits or 3, 6 or 9 of them
  behind the point.
-/

namespace Redaction.Render

/-! ### The rules of the calendar -/

namespace Date

/-- A leap year: one in four, but of the centuries only one in four. -/
def IsLeap (year : Int) : Prop := 4 ∣ year ∧ (¬ 100 ∣ year ∨ 400 ∣ year)

instance (year : Int) : Decidable (IsLeap year) := inferInstanceAs (Decidable (_ ∧ _))

/-- The days of a month. -/
def daysInMonth (year : Int) (month : Nat) : Nat :=
  if month = 2 then (if IsLeap year then 29 else 28)
  else if month = 4 ∨ month = 6 ∨ month = 9 ∨ month = 11 then 30
  else 31

/-- **The date is one of the calendar.** -/
structure IsValid (d : Date) : Prop where
  month : 1 ≤ d.month ∧ d.month ≤ 12
  day : 1 ≤ d.day ∧ d.day ≤ daysInMonth d.year d.month

instance (d : Date) : Decidable d.IsValid :=
  decidable_of_iff ((1 ≤ d.month ∧ d.month ≤ 12) ∧ 1 ≤ d.day ∧ d.day ≤ daysInMonth d.year d.month)
    ⟨fun h => ⟨h.1, h.2⟩, fun h => ⟨h.month, h.day⟩⟩

/-- The days from the year 1 to a year. -/
def daysBeforeYear (year : Int) : Int :=
  365 * (year - 1) + (year - 1) / 4 - (year - 1) / 100 + (year - 1) / 400

/-- The days of a year before one of its months. -/
def daysBeforeMonth (year : Int) (month : Nat) : Nat :=
  ((List.range' 1 (month - 1)).map (daysInMonth year)).sum

/-- **The days from 1 January 1970 to a date.** -/
def dayNumber (d : Date) : Int :=
  daysBeforeYear d.year + daysBeforeMonth d.year d.month + (d.day - 1) - daysBeforeYear 1970

end Date

/-! ### Parts of texts -/

/-- A number of so many digits at the front of a text, and what stands behind it. -/
def number? (width : Nat) (cs : List Char) : Option (Nat × List Char) :=
  if (cs.take width).length = width ∧ (cs.take width).all Char.isDigit then
    some (Nat.ofDigitChars 10 (cs.take width) 0, cs.drop width)
  else none

/-- What stands behind a character at the front of a text. -/
def behind? (c : Char) (cs : List Char) : Option (List Char) :=
  if cs.head? = some c then some cs.tail else none

/-- The digits behind a point at the front of a text, or none, and what stands behind them. -/
def fraction? (cs : List Char) : Option (List Char × List Char) :=
  if cs.head? = some '.' then
    let ds := cs.tail.takeWhile Char.isDigit
    if ds = [] then none else some (ds, cs.tail.dropWhile Char.isDigit)
  else some ([], cs)

/-- **The number that digits stand for** behind a point. -/
def fractionValue (ds : List Char) : ℚ := Nat.ofDigitChars 10 ds 0 / 10 ^ ds.length

/-! ### Date-times -/

/-- A date and a time in UTC. -/
structure DateTime where
  date : Date
  hour : Nat
  minute : Nat
  second : Nat
  /-- The digits behind the point. -/
  fraction : List Char
deriving DecidableEq

namespace DateTime

/-- The last minute of a month. -/
def EndsMonth (d : DateTime) : Prop :=
  d.hour = 23 ∧ d.minute = 59 ∧ d.date.day = Date.daysInMonth d.date.year d.date.month

/-- **The date-time is one of RFC 3339.** -/
structure IsValid (d : DateTime) : Prop where
  date : d.date.IsValid
  hour : d.hour ≤ 23
  minute : d.minute ≤ 59
  second : d.second ≤ 60
  leap : d.second = 60 → d.EndsMonth

instance (d : DateTime) : Decidable d.EndsMonth := inferInstanceAs (Decidable (_ ∧ _))

instance (d : DateTime) : Decidable d.IsValid :=
  decidable_of_iff (d.date.IsValid ∧ d.hour ≤ 23 ∧ d.minute ≤ 59 ∧ d.second ≤ 60 ∧
      (d.second = 60 → d.EndsMonth))
    ⟨fun ⟨h, h', h'', h''', h''''⟩ => ⟨h, h', h'', h''', h''''⟩,
      fun h => ⟨h.date, h.hour, h.minute, h.second, h.leap⟩⟩

/-- **The second that a date-time names,** counted from the start of 1970. -/
def seconds (d : DateTime) : Int :=
  86400 * d.date.dayNumber + 3600 * d.hour + 60 * d.minute + d.second

end DateTime

/-- **A date-time of RFC 3339 in UTC.** -/
def dateTime? (cs : List Char) : Option DateTime := do
  let (year, cs) ← number? 4 cs
  let cs ← behind? '-' cs
  let (month, cs) ← number? 2 cs
  let cs ← behind? '-' cs
  let (day, cs) ← number? 2 cs
  let cs ← behind? 'T' cs
  let (hour, cs) ← number? 2 cs
  let cs ← behind? ':' cs
  let (minute, cs) ← number? 2 cs
  let cs ← behind? ':' cs
  let (second, cs) ← number? 2 cs
  let (fraction, cs) ← fraction? cs
  let d : DateTime := ⟨⟨year, month, day⟩, hour, minute, second, fraction⟩
  if cs = ['Z'] ∧ d.IsValid then some d else none

/-! ### Numbers of seconds -/

/-- A number of seconds without a sign, and its unit. -/
def unsignedSeconds? (cs : List Char) : Option ℚ := do
  let whole := cs.takeWhile Char.isDigit
  let (fraction, rest) ← fraction? (cs.dropWhile Char.isDigit)
  if whole ≠ [] ∧ fraction.length ∈ [0, 3, 6, 9] ∧ rest = ['s'] then
    some (Nat.ofDigitChars 10 whole 0 + fractionValue fraction)
  else none

/-- **A number of seconds** and its unit. -/
def seconds? (cs : List Char) : Option ℚ :=
  if cs.head? = some '-' then (unsignedSeconds? cs.tail).map (-·) else unsignedSeconds? cs

end Redaction.Render
