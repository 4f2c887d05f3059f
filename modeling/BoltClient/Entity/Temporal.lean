import BoltClient.Entity.Form
import BoltClient.Entity.Calendar

/-!
Temporal structures and what they stand for. A conversion from a structure
fails when a part is out of range; parts are checked in a fixed order, a zone
or an offset before the instant.
-/

namespace BoltClient

/-- Days since 1970-01-01. -/
structure Date where
  days : Int64

/-- A time of day with an offset from universal time. -/
structure Time where
  nanoseconds : Int64
  offsetSeconds : Int64

structure LocalTime where
  nanoseconds : Int64

/-- An instant in seconds of universal time, with the offset it was expressed in. -/
structure DateTime where
  seconds : Int64
  nanoseconds : Int64
  offsetSeconds : Int64

structure DateTimeZoneId where
  seconds : Int64
  nanoseconds : Int64
  zone : String

structure LocalDateTime where
  seconds : Int64
  nanoseconds : Int64

structure Duration where
  months : Int64
  days : Int64
  seconds : Int64
  nanoseconds : Int64

open StructureForm (field)

def Date.form : StructureForm Date where
  signature := 0x44
  arity := 1
  fields date := [.integer date.days]
  ofFields?
    | [days] => some do
      return ⟨← field 0 Decoder.int64 days⟩
    | _ => none

def Time.form : StructureForm Time where
  signature := 0x54
  arity := 2
  fields time := [.integer time.nanoseconds, .integer time.offsetSeconds]
  ofFields?
    | [nanoseconds, offset] => some do
      return ⟨← field 0 Decoder.int64 nanoseconds, ← field 1 Decoder.int64 offset⟩
    | _ => none

def LocalTime.form : StructureForm LocalTime where
  signature := 0x74
  arity := 1
  fields time := [.integer time.nanoseconds]
  ofFields?
    | [nanoseconds] => some do
      return ⟨← field 0 Decoder.int64 nanoseconds⟩
    | _ => none

def DateTime.form : StructureForm DateTime where
  signature := 0x49
  arity := 3
  fields instant :=
    [.integer instant.seconds, .integer instant.nanoseconds, .integer instant.offsetSeconds]
  ofFields?
    | [seconds, nanoseconds, offset] => some do
      return ⟨← field 0 Decoder.int64 seconds, ← field 1 Decoder.int64 nanoseconds,
        ← field 2 Decoder.int64 offset⟩
    | _ => none

def DateTimeZoneId.form : StructureForm DateTimeZoneId where
  signature := 0x69
  arity := 3
  fields instant :=
    [.integer instant.seconds, .integer instant.nanoseconds, .string instant.zone]
  ofFields?
    | [seconds, nanoseconds, zone] => some do
      return ⟨← field 0 Decoder.int64 seconds, ← field 1 Decoder.int64 nanoseconds,
        ← field 2 Decoder.text zone⟩
    | _ => none

def LocalDateTime.form : StructureForm LocalDateTime where
  signature := 0x64
  arity := 2
  fields instant := [.integer instant.seconds, .integer instant.nanoseconds]
  ofFields?
    | [seconds, nanoseconds] => some do
      return ⟨← field 0 Decoder.int64 seconds, ← field 1 Decoder.int64 nanoseconds⟩
    | _ => none

def Duration.form : StructureForm Duration where
  signature := 0x45
  arity := 4
  fields duration :=
    [.integer duration.months, .integer duration.days, .integer duration.seconds,
      .integer duration.nanoseconds]
  ofFields?
    | [months, days, seconds, nanoseconds] => some do
      return ⟨← field 0 Decoder.int64 months, ← field 1 Decoder.int64 days,
        ← field 2 Decoder.int64 seconds, ← field 3 Decoder.int64 nanoseconds⟩
    | _ => none

/-! Conversions. -/

def within {α : Type} (what : String) (result : Option α) : Except CodecFault α :=
  match result with
  | some data => .ok data
  | none => .error (.outOfRange what)

/-- An offset of less than a day, in seconds east. -/
def offsetOf (seconds : Int64) : Except CodecFault Int :=
  let east := seconds.toInt
  within "timezone offset"
    (if -(secondsPerDay : Int) < east ∧ east < secondsPerDay then some east else none)

/-- The time of day so many nanoseconds after midnight. -/
def clockOf (nanoseconds : Int64) : Except CodecFault ClockTime :=
  let nanos := nanoseconds.toInt
  within "time of day"
    (if nanos < 0 then none
      else ClockTime.ofParts? (nanos.toNat / nanosPerSecond) (nanos.toNat % nanosPerSecond))

/-- The instant of a second and the nanoseconds into it. -/
def instantOf (seconds nanoseconds : Int64) : Except CodecFault CivilInstant := do
  let nanos := nanoseconds.toInt
  let part ← within "nanoseconds"
    (if 0 ≤ nanos ∧ nanos < 0x100000000 then some nanos.toNat else none)
  within "instant" (CivilInstant.ofEpoch? seconds.toInt part)

namespace Date

def toCivil (date : Date) : Except CodecFault CivilDate :=
  within "date" (CivilDate.ofDay? date.days.toInt)

def ofCivil (date : CivilDate) : Date := ⟨Int64.ofInt date.toDay⟩

end Date

namespace LocalTime

def toClock (time : LocalTime) : Except CodecFault ClockTime := clockOf time.nanoseconds

def ofClock (time : ClockTime) : LocalTime := ⟨Int64.ofInt time.nanosOfDay⟩

end LocalTime

namespace Time

def ofClock (time : ClockTime) (offset : Int) : Time :=
  ⟨Int64.ofInt time.nanosOfDay, Int64.ofInt offset⟩

def clock (time : Time) : Except CodecFault ClockTime := clockOf time.nanoseconds

def offset (time : Time) : Except CodecFault Int := offsetOf time.offsetSeconds

end Time

namespace LocalDateTime

def toInstant (instant : LocalDateTime) : Except CodecFault CivilInstant :=
  instantOf instant.seconds instant.nanoseconds

def ofInstant (instant : CivilInstant) : LocalDateTime :=
  ⟨Int64.ofInt instant.epochSeconds, Int64.ofInt instant.time.nanosecond⟩

end LocalDateTime

namespace DateTime

/-- The instant in universal time and the offset, which is checked first. -/
def toInstant (instant : DateTime) : Except CodecFault (CivilInstant × Int) := do
  let offset ← offsetOf instant.offsetSeconds
  let utc ← instantOf instant.seconds instant.nanoseconds
  return (utc, offset)

def ofInstant (instant : CivilInstant) (offset : Int) : DateTime :=
  ⟨Int64.ofInt instant.epochSeconds, Int64.ofInt instant.time.nanosecond, Int64.ofInt offset⟩

end DateTime

namespace DateTimeZoneId

/-- The instant in universal time and the zone, which is checked first: it has to be one of
those that are known. -/
def toInstant (isKnown : String → Bool) (instant : DateTimeZoneId) :
    Except CodecFault (CivilInstant × String) := do
  if ¬ isKnown instant.zone then throw (.unknownZone instant.zone)
  let utc ← instantOf instant.seconds instant.nanoseconds
  return (utc, instant.zone)

def ofInstant (instant : CivilInstant) (zone : String) : DateTimeZoneId :=
  ⟨Int64.ofInt instant.epochSeconds, Int64.ofInt instant.time.nanosecond, zone⟩

end DateTimeZoneId

namespace Duration

/-- The exact length, available only without calendar months and when every
partial sum is in range. -/
def toSpan? (duration : Duration) : Option Span :=
  if duration.months ≠ 0 then none
  else do
    let days ← Span.ofDays? duration.days.toInt
    let seconds ← Span.ofSeconds? duration.seconds.toInt
    let whole ← days.add? seconds
    whole.add? ⟨duration.nanoseconds.toInt⟩

def ofSpan (span : Span) : Duration :=
  ⟨0, 0, Int64.ofInt span.wholeSeconds, Int64.ofInt span.restNanos⟩

end Duration
end BoltClient
