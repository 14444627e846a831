import Redaction.Json.Value
import Redaction.Number.Decimal
import Redaction.Render.Calendar

/-!
# Timestamps and durations as JSON

A timestamp shows as a date and a time in UTC, a duration as seconds; both have a fraction of 3, 6
or 9 digits if they have one at all.

* A timestamp shows as null when its year is beyond the calendar in use (`firstYear` to `lastYear`),
  or its nanoseconds are negative or too many. A second of nanoseconds is not too many in the last
  second of a minute, where it stands for a leap second.
* A duration is normalised before it is written: nanoseconds above a second are carried, and seconds
  and nanoseconds get one sign. The sign is written only if both were negative to begin with.
* The seconds of a duration are written without their sign, which the first number of seconds has no
  way to lose: its opposite is out of range. What follows depends on the build. Where overflow is
  checked the program ends, elsewhere the seconds stay as they are (`Duration.json?`).
-/

namespace Redaction.Render

open Number

/-- An instant, in seconds after the start of 1970 and nanoseconds after that second. -/
structure Timestamp where
  seconds : Int64
  nanos : Int32
deriving DecidableEq

/-- A span of time. -/
structure Duration where
  seconds : Int64
  nanos : Int32
deriving DecidableEq

/-- The nanoseconds in a second. -/
def nanosPerSecond : Nat := 1000000000

/-- The digits of a fraction of a second: none, or 3, 6 or 9 behind a point. -/
def fraction (nanos : Nat) : List Char :=
  if nanos = 0 then []
  else if nanos % 1000000 = 0 then '.' :: paddedDigits 3 (nanos / 1000000)
  else if nanos % 1000 = 0 then '.' :: paddedDigits 6 (nanos / 1000)
  else '.' :: paddedDigits 9 nanos

/-! ### Timestamps -/

namespace Timestamp

/-- The first and the last year of the calendar. -/
def firstYear : Int := -262143

def lastYear : Int := 262142

def secondsPerDay : Int := 86400

/-- The date of a timestamp. -/
def date (t : Timestamp) : Date := .ofDays (t.seconds.toInt / secondsPerDay)

/-- The second of the day. -/
def secondOfDay (t : Timestamp) : Nat := (t.seconds.toInt % secondsPerDay).toNat

/-- Whether the nanoseconds are those of a second, or of a leap second at the end of a minute. -/
def hasNanos (t : Timestamp) : Bool :=
  let n := t.nanos.toInt
  0 ≤ n && n < 2 * nanosPerSecond && (n < nanosPerSecond || t.secondOfDay % 60 == 59)

/-- Four digits; a year that has not four digits gets a sign and at least four. -/
def yearText (year : Int) : List Char :=
  if 0 ≤ year ∧ year ≤ 9999 then paddedDigits 4 year.natAbs
  else (if year < 0 then '-' else '+') :: paddedDigits 4 year.natAbs

def dateText (d : Date) : List Char :=
  yearText d.year ++ '-' :: paddedDigits 2 d.month ++ '-' :: paddedDigits 2 d.day

/-- The time of a day; a leap second is the second 60. -/
def timeText (second nanos : Nat) : List Char :=
  paddedDigits 2 (second / 3600) ++ ':' :: paddedDigits 2 (second / 60 % 60) ++
    ':' :: paddedDigits 2 (second % 60 + nanos / nanosPerSecond) ++
    fraction (nanos % nanosPerSecond)

/-- The text of a timestamp in the range of the calendar. -/
def text (t : Timestamp) : List Char :=
  dateText t.date ++ 'T' :: timeText t.secondOfDay t.nanos.toInt.toNat ++ ['Z']

/-- Whether a timestamp can be written. -/
def isWritable (t : Timestamp) : Bool :=
  firstYear ≤ t.date.year && t.date.year ≤ lastYear && t.hasNanos

/-- **A timestamp as JSON.** -/
def json (t : Timestamp) : Json :=
  if t.isWritable then .text (String.ofList t.text) else .null

end Timestamp

/-! ### Durations -/

/-- What a build does where the result of an operation is out of the range of its type. -/
inductive Overflow where
  | wraps
  | panics
deriving DecidableEq

namespace Duration

/-- Seconds and nanoseconds that are below a second: what is above is carried, unless the seconds
would leave their range, which then gives the last value in it. -/
def carry (seconds nanos : Int) : Int × Int :=
  if nanos.natAbs < nanosPerSecond then (seconds, nanos)
  else
    let carried := seconds + nanos.tdiv nanosPerSecond
    if carried < Int64.minValue.toInt then (Int64.minValue.toInt, -(nanosPerSecond - 1 : Nat))
    else if Int64.maxValue.toInt < carried then (Int64.maxValue.toInt, (nanosPerSecond - 1 : Nat))
    else (carried, nanos.tmod nanosPerSecond)

/-- Seconds and nanoseconds of one sign. -/
def alignSigns (seconds nanos : Int) : Int × Int :=
  if seconds < 0 ∧ 0 < nanos then (seconds + 1, nanos - nanosPerSecond)
  else if 0 < seconds ∧ nanos < 0 then (seconds - 1, nanos + nanosPerSecond)
  else (seconds, nanos)

/-- The normal form of a duration. -/
def normal (d : Duration) : Int × Int :=
  let (seconds, nanos) := carry d.seconds.toInt d.nanos.toInt
  alignSigns seconds nanos

/-- The seconds of a duration without their sign, unless their opposite is out of range. -/
def magnitude (d : Duration) : Int64 := (Int64.ofInt d.normal.1).abs

/-- The text of a duration. -/
def text (d : Duration) : List Char :=
  (if d.seconds < 0 ∧ d.nanos < 0 then ['-'] else []) ++ integerText d.magnitude.toInt ++
    fraction d.normal.2.natAbs ++ ['s']

/-- **A duration as JSON,** where overflow wraps. -/
def json (d : Duration) : Json := .text (String.ofList d.text)

/-- Whether the opposite of the seconds is out of range. -/
def overflows (d : Duration) : Bool := d.normal.1 == Int64.minValue.toInt

/-- **A duration as JSON in a build,** if that does not end it. -/
def json? (o : Overflow) (d : Duration) : Option Json :=
  if o = .panics ∧ d.overflows then none else some d.json

end Duration

end Redaction.Render
