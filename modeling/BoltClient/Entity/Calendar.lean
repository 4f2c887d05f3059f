/-!
Dates of the proleptic Gregorian calendar, times of day and exact spans of
time. Days are counted from 1970-01-01. A day's number and its date determine
each other, since the days before a year and before a month are sums.
-/

namespace BoltClient

/-- A date with a year zero before the year one. -/
structure CivilDate where
  year : Int
  month : Nat
  day : Nat
  deriving DecidableEq, Repr

/-- A second of the day and the nanoseconds into it. In the last second of a
minute up to a whole second more may have passed, which is a leap second. -/
structure ClockTime where
  second : Nat
  nanosecond : Nat
  deriving DecidableEq, Repr

/-- A date and a time of day in universal time. -/
structure CivilInstant where
  date : CivilDate
  time : ClockTime
  deriving DecidableEq, Repr

namespace CivilDate

def isLeapYear (year : Int) : Bool := year % 4 == 0 && (year % 100 != 0 || year % 400 == 0)

/-- Days from 0001-01-01 to the first day of a year. -/
def daysBeforeYear (year : Int) : Int :=
  let past := year - 1
  365 * past + past / 4 - past / 100 + past / 400

/-- Days from 0001-01-01 to 1970-01-01. -/
def epoch : Int := daysBeforeYear 1970

def monthLengths (year : Int) : List Nat :=
  [31, if isLeapYear year then 29 else 28, 31, 30, 31, 30, 31, 31, 30, 31, 30, 31]

/-- The year that holds a day counted from 0001-01-01: the mean length of a year
gives it up to one. -/
def yearOf (day : Int) : Int :=
  let guess := day * 400 / 146097 + 1
  if day < daysBeforeYear guess then guess - 1
  else if daysBeforeYear (guess + 1) ≤ day then guess + 1
  else guess

/-- The month and the day in it, from the day of the year counted from zero. -/
def monthAndDay (month : Nat) : List Nat → Nat → Nat × Nat
  | length :: next :: rest, day =>
    if day < length then (month, day + 1) else monthAndDay (month + 1) (next :: rest) (day - length)
  | _, day => (month, day + 1)

def ofDay (day : Int) : CivilDate :=
  let absolute := day + epoch
  let year := yearOf absolute
  let (month, dayOfMonth) :=
    monthAndDay 1 (monthLengths year) (absolute - daysBeforeYear year).toNat
  ⟨year, month, dayOfMonth⟩

def toDay (date : CivilDate) : Int :=
  let earlier : Nat := ((monthLengths date.year).take (date.month - 1)).foldl (· + ·) 0
  daysBeforeYear date.year + earlier + (date.day : Int) - 1 - epoch

/-- The first and the last date that are represented. -/
def first : CivilDate := ⟨-262143, 1, 1⟩
def last : CivilDate := ⟨262142, 12, 31⟩

def ofDay? (day : Int) : Option CivilDate :=
  if first.toDay ≤ day ∧ day ≤ last.toDay then some (ofDay day) else none

end CivilDate

def secondsPerDay : Nat := 86400
def nanosPerSecond : Nat := 1000000000

namespace ClockTime

/-- A second of the day below 86400; a nanosecond part of a second or more only
in the last second of a minute. -/
def ofParts? (second nanosecond : Nat) : Option ClockTime :=
  if second < secondsPerDay ∧ nanosecond < 2 * nanosPerSecond ∧
      (nanosecond < nanosPerSecond ∨ second % 60 = 59) then
    some ⟨second, nanosecond⟩
  else none

def hour (time : ClockTime) : Nat := time.second / 3600
def minute (time : ClockTime) : Nat := time.second / 60 % 60
def secondOfMinute (time : ClockTime) : Nat := time.second % 60

/-- Nanoseconds since midnight, those of a leap second included. -/
def nanosOfDay (time : ClockTime) : Nat := time.second * nanosPerSecond + time.nanosecond

end ClockTime

namespace CivilInstant

/-- The instant some seconds after the start of 1970 and some nanoseconds later. -/
def ofEpoch? (seconds : Int) (nanosecond : Nat) : Option CivilInstant := do
  let date ← CivilDate.ofDay? (seconds / secondsPerDay)
  let time ← ClockTime.ofParts? (seconds % secondsPerDay).toNat nanosecond
  return ⟨date, time⟩

def epochSeconds (instant : CivilInstant) : Int :=
  instant.date.toDay * secondsPerDay + instant.time.second

end CivilInstant

/-- An exact span of time in nanoseconds. -/
structure Span where
  nanos : Int
  deriving DecidableEq, Repr

namespace Span

/-- The longest span: as many milliseconds as a signed 64-bit integer counts. -/
def longest : Int := Int64.maxValue.toInt * 1000000

def ofNanos? (nanos : Int) : Option Span :=
  if -longest ≤ nanos ∧ nanos ≤ longest then some ⟨nanos⟩ else none

def ofSeconds? (seconds : Int) : Option Span := ofNanos? (seconds * nanosPerSecond)
def ofDays? (days : Int) : Option Span := ofSeconds? (days * secondsPerDay)

def add? (left right : Span) : Option Span := ofNanos? (left.nanos + right.nanos)

/-- Whole seconds, toward zero. -/
def wholeSeconds (span : Span) : Int := span.nanos.tdiv nanosPerSecond

/-- What is left beside the whole seconds, with the sign of the span. -/
def restNanos (span : Span) : Int := span.nanos.tmod nanosPerSecond

end Span
end BoltClient
