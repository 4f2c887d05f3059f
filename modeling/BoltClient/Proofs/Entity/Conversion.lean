import BoltClient.Entity.Temporal
import BoltClient.Proofs.Entity.Calendar

/-!
Temporal structures and what they stand for determine each other: a conversion refuses its
fields as out of their bounds, or gives something that has them back.

The machine does the arithmetic in words, and the conversions are written a second time that
way: each sum, product, quotient and narrowing names the word that is to hold it. Where a
conversion foresees that the word is too short it refuses the field, else the outer option is
`none`. Both ways of writing agree on all fields, so no step leaves its word.
-/

namespace BoltClient

namespace Word

/-- A number that a word from `least` to `most` holds. -/
def held? (least most number : Int) : Option Int :=
  if least ≤ number ∧ number ≤ most then some number else none

def int64? : Int → Option Int := held? (-0x8000000000000000) 0x7fffffffffffffff
def int32? : Int → Option Int := held? (-0x80000000) 0x7fffffff
def uint32? : Int → Option Int := held? 0 0xffffffff

section Held

variable {α : Type} {least most number : Int}

theorem held?_eq_some (low : least ≤ number) (high : number ≤ most) :
    held? least most number = some number :=
  if_pos ⟨low, high⟩

/-- A word is not seen to be too short where what follows refuses the same numbers. -/
theorem held?_bind {next : Int → Option α}
    (refused : number < least ∨ most < number → next number = none) :
    (held? least most number).bind next = next number := by
  by_cases range : least ≤ number ∧ number ≤ most
  · rw [held?_eq_some range.1 range.2, Option.bind_some]
  · rw [refused (by omega), held?, if_neg range, Option.bind_none]

end Held

theorem bounds (word : Int64) :
    -0x8000000000000000 ≤ word.toInt ∧ word.toInt ≤ 0x7fffffffffffffff := by
  have low := word.minValue_le_toInt
  have high := word.toInt_le
  rw [Int64.toInt_minValue] at low
  rw [Int64.toInt_maxValue] at high
  exact ⟨by omega, by omega⟩

end Word

/-! The arithmetic in words. -/

namespace CivilDate

/-- Days counted so that 0001-01-01 is the first. -/
def daysFromCommonEra (date : CivilDate) : Int := date.toDay + epoch + 1

def ofDaysFromCommonEra? (days : Int) : Option CivilDate := ofDay? (days - epoch - 1)

end CivilDate

namespace Date

/-- The number of 1970-01-01 among the days of the common era. -/
def commonEraOffset : Int := 719163

/-- A sum or a narrowing that does not fit refuses the date. -/
def toCivilInWords? (date : Date) : Option (Except CodecFault CivilDate) :=
  some (within "date" do
    let sum ← Word.int64? (date.days.toInt + commonEraOffset)
    let days ← Word.int32? sum
    CivilDate.ofDaysFromCommonEra? days)

def ofCivilInWords? (date : CivilDate) : Option Date := do
  let days ← Word.int32? date.daysFromCommonEra
  let difference ← Word.int64? (days - commonEraOffset)
  return ⟨Int64.ofInt difference⟩

end Date

/-- A narrowing of the quotient that does not fit refuses the time, one of the remainder is not
foreseen. -/
def clockInWords? (nanoseconds : Int64) : Option (Except CodecFault ClockTime) := do
  let quotient ← Word.int64? (nanoseconds.toInt / nanosPerSecond)
  let rest ← Word.uint32? (nanoseconds.toInt % nanosPerSecond)
  return within "time of day" do
    let second ← Word.uint32? quotient
    ClockTime.ofParts? second.toNat rest.toNat

def nanosInWords? (time : ClockTime) : Option Int64 := do
  let second ← Word.int64? time.second
  let product ← Word.int64? (second * nanosPerSecond)
  let part ← Word.int64? time.nanosecond
  let sum ← Word.int64? (product + part)
  return Int64.ofInt sum

def offsetInWords? (seconds : Int64) : Option (Except CodecFault Int) :=
  some (within "timezone offset" do
    let east ← Word.int32? seconds.toInt
    if -(secondsPerDay : Int) < east ∧ east < secondsPerDay then some east else none)

def offsetSecondsInWords? (east : Int) : Option Int64 := do
  let seconds ← Word.int64? east
  return Int64.ofInt seconds

def instantInWords? (seconds nanoseconds : Int64) : Option (Except CodecFault CivilInstant) :=
  some do
    let part ← within "nanoseconds" (Word.uint32? nanoseconds.toInt)
    within "instant" (CivilInstant.ofEpoch? seconds.toInt part.toNat)

def LocalDateTime.ofInstantInWords? (instant : CivilInstant) : Option LocalDateTime := do
  let seconds ← Word.int64? instant.epochSeconds
  let part ← Word.int64? instant.time.nanosecond
  return ⟨Int64.ofInt seconds, Int64.ofInt part⟩

namespace DateTime

def toInstantInWords? (instant : DateTime) : Option (Except CodecFault (CivilInstant × Int)) := do
  let offset? ← offsetInWords? instant.offsetSeconds
  let utc? ← instantInWords? instant.seconds instant.nanoseconds
  return do
    let offset ← offset?
    let utc ← utc?
    return (utc, offset)

def ofInstantInWords? (instant : CivilInstant) (offset : Int) : Option DateTime := do
  let ⟨seconds, part⟩ ← LocalDateTime.ofInstantInWords? instant
  let east ← offsetSecondsInWords? offset
  return ⟨seconds, part, east⟩

end DateTime

/-- Fields are refused, as out of their bounds, unless they are acceptable; all others stand for
something proper that has them back. In words both ways take the same course. -/
structure ExactConversion {α β : Type} (acceptable : α → Prop) (proper : β → Prop)
    (convert : α → Except CodecFault β) (restore : β → α)
    (convertInWords? : α → Option (Except CodecFault β)) (restoreInWords? : β → Option α) :
    Prop where
  accepted : ∀ fields, (∃ data, convert fields = .ok data) ↔ acceptable fields
  refused : ∀ fields fault, convert fields = .error fault → fault.kind = .outOfBoundary
  returned : ∀ fields data, convert fields = .ok data → proper data ∧ restore data = fields
  fits : ∀ fields, convertInWords? fields = some (convert fields)
  fits_back : ∀ data, proper data → restoreInWords? data = some (restore data)

/-- Days of a date that is represented. -/
def Date.Acceptable (date : Date) : Prop :=
  CivilDate.first.toDay ≤ date.days.toInt ∧ date.days.toInt ≤ CivilDate.last.toDay

/-- Nanoseconds of a day. -/
def AcceptableNanos (nanoseconds : Int64) : Prop :=
  0 ≤ nanoseconds.toInt ∧ nanoseconds.toInt < 86400000000000

/-- Less than a day from universal time. -/
def ProperOffset (east : Int) : Prop := -86400 < east ∧ east < 86400

/-- A second of a day that is represented and less than a second into it, or less than two into
the last second of a minute. -/
def AcceptableInstant (seconds nanoseconds : Int64) : Prop :=
  (CivilDate.first.toDay ≤ seconds.toInt / 86400 ∧
    seconds.toInt / 86400 ≤ CivilDate.last.toDay) ∧
  0 ≤ nanoseconds.toInt ∧ (nanoseconds.toInt < 1000000000 ∨
    nanoseconds.toInt < 2000000000 ∧ seconds.toInt % 60 = 59)

section Within

variable {α : Type} {what : String} {result : Option α}

theorem within_eq_ok {data : α} (made : within what result = .ok data) : result = some data := by
  cases result with
  | none => cases made
  | some found =>
    cases made
    rfl

theorem within_eq_error {fault : CodecFault} (refused : within what result = .error fault) :
    fault.kind = .outOfBoundary := by
  cases result with
  | none =>
    cases refused
    rfl
  | some found => cases refused

theorem within_accepts_iff : (∃ data, within what result = .ok data) ↔ result.isSome := by
  cases result with
  | none => exact ⟨fun ⟨_, made⟩ => (nomatch made), fun found => nomatch found⟩
  | some data => exact ⟨fun _ => rfl, fun _ => ⟨data, rfl⟩⟩

end Within

/-! Dates. -/

namespace Date

theorem commonEraOffset_eq : commonEraOffset = CivilDate.epoch + 1 := by decide

/-- Days that a word is too short for are beyond the dates that are represented. -/
theorem toCivilInWords?_eq (date : Date) : date.toCivilInWords? = some date.toCivil := by
  have days : date.days.toInt + commonEraOffset - CivilDate.epoch - 1 = date.days.toInt := by
    rw [commonEraOffset_eq]
    omega
  have refused : date.days.toInt + commonEraOffset < -0x80000000 ∨
      0x7fffffff < date.days.toInt + commonEraOffset →
      CivilDate.ofDaysFromCommonEra? (date.days.toInt + commonEraOffset) = none := by
    intro outside
    rw [CivilDate.ofDaysFromCommonEra?, days]
    refine CivilDate.ofDay?_eq_none ?_
    rw [CivilDate.toDay_first, CivilDate.toDay_last]
    unfold commonEraOffset at outside
    omega
  have same : (Word.int64? (date.days.toInt + commonEraOffset)).bind (fun sum =>
      (Word.int32? sum).bind CivilDate.ofDaysFromCommonEra?) =
        CivilDate.ofDay? date.days.toInt :=
    calc
      _ = (Word.int32? (date.days.toInt + commonEraOffset)).bind CivilDate.ofDaysFromCommonEra? :=
        Word.held?_bind fun outside => (Word.held?_bind refused).trans (refused (by omega))
      _ = CivilDate.ofDaysFromCommonEra? (date.days.toInt + commonEraOffset) :=
        Word.held?_bind refused
      _ = CivilDate.ofDay? date.days.toInt := congrArg CivilDate.ofDay? days
  exact congrArg (fun found => some (within "date" found)) same

theorem ofCivilInWords?_eq {date : CivilDate} (proper : date.Proper) :
    ofCivilInWords? date = some (ofCivil date) := by
  obtain ⟨low, high⟩ := proper.bounds
  have start : CivilDate.epoch = 719162 := by decide
  have days : Word.int32? date.daysFromCommonEra = some date.daysFromCommonEra :=
    Word.held?_eq_some (by unfold CivilDate.daysFromCommonEra; omega)
      (by unfold CivilDate.daysFromCommonEra; omega)
  have same : date.daysFromCommonEra - commonEraOffset = date.toDay := by
    rw [commonEraOffset_eq, CivilDate.daysFromCommonEra]
    omega
  have difference : Word.int64? date.toDay = some date.toDay :=
    Word.held?_eq_some (by omega) (by omega)
  rw [ofCivilInWords?, days, Option.bind_eq_bind, Option.bind_some, same, difference]
  rfl

theorem conversion_exact : ExactConversion Acceptable CivilDate.Proper toCivil ofCivil
    toCivilInWords? ofCivilInWords? where
  accepted date := by
    refine within_accepts_iff.trans ?_
    unfold CivilDate.ofDay?
    exact Option.isSome_ite
  refused _ _ := within_eq_error
  returned date civil made := by
    obtain ⟨proper, count⟩ := CivilDate.ofDay?_eq_some (within_eq_ok made)
    exact ⟨proper, by rw [ofCivil, count, Int64.ofInt_toInt]⟩
  fits := toCivilInWords?_eq
  fits_back _ := ofCivilInWords?_eq

end Date

/-! Times of day. -/

/-- A number of nanoseconds is a time of day if it is less than a day. -/
theorem clockOf_eq (nanoseconds : Int64) : clockOf nanoseconds =
    if 0 ≤ nanoseconds.toInt ∧ nanoseconds.toInt < 86400000000000 then
      .ok ⟨nanoseconds.toInt.toNat / 1000000000, nanoseconds.toInt.toNat % 1000000000⟩
    else .error (.outOfRange "time of day") := by
  unfold clockOf nanosPerSecond
  by_cases negative : nanoseconds.toInt < 0
  · rw [if_neg (by omega)]
    simp only [if_pos negative, within]
  · simp only [if_neg negative]
    by_cases short : nanoseconds.toInt < 86400000000000
    · have made : ClockTime.ofParts? (nanoseconds.toInt.toNat / 1000000000)
          (nanoseconds.toInt.toNat % 1000000000) = some _ :=
        ClockTime.ofParts?_eq_some_iff.2 ⟨rfl, by omega, by omega, by omega⟩
      rw [if_pos (by omega), made, within]
    · rw [if_neg (by omega), ClockTime.ofParts?_of_le (by omega), within]

theorem clockInWords?_eq (nanoseconds : Int64) :
    clockInWords? nanoseconds = some (clockOf nanoseconds) := by
  obtain ⟨low, high⟩ := Word.bounds nanoseconds
  have quotient : Word.int64? (nanoseconds.toInt / nanosPerSecond) = _ :=
    Word.held?_eq_some (by unfold nanosPerSecond; omega) (by unfold nanosPerSecond; omega)
  have rest : Word.uint32? (nanoseconds.toInt % nanosPerSecond) = _ :=
    Word.held?_eq_some (by unfold nanosPerSecond; omega) (by unfold nanosPerSecond; omega)
  have same : (Word.uint32? (nanoseconds.toInt / nanosPerSecond)).bind (fun second =>
      ClockTime.ofParts? second.toNat (nanoseconds.toInt % nanosPerSecond).toNat) =
        if nanoseconds.toInt < 0 then none
        else ClockTime.ofParts? (nanoseconds.toInt.toNat / nanosPerSecond)
          (nanoseconds.toInt.toNat % nanosPerSecond) := by
    unfold nanosPerSecond
    by_cases negative : nanoseconds.toInt < 0
    · have below : Word.uint32? (nanoseconds.toInt / (1000000000 : Nat)) = none :=
        if_neg (by omega)
      rw [if_pos negative, below, Option.bind_none]
    · rw [if_neg negative]
      refine (Word.held?_bind fun outside => ClockTime.ofParts?_of_le (by omega)).trans ?_
      congr 1 <;> omega
  rw [clockInWords?, quotient, rest]
  exact congrArg (fun found => some (within "time of day" found)) same

theorem nanosInWords?_eq {time : ClockTime} (proper : time.Proper) :
    nanosInWords? time = some (Int64.ofInt time.nanosOfDay) := by
  have first := proper.second
  have last := proper.nanosecond
  have second : Word.int64? time.second = _ := Word.held?_eq_some (by omega) (by omega)
  have product : Word.int64? ((time.second : Int) * nanosPerSecond) = _ :=
    Word.held?_eq_some (by unfold nanosPerSecond; omega) (by unfold nanosPerSecond; omega)
  have part : Word.int64? time.nanosecond = _ := Word.held?_eq_some (by omega) (by omega)
  have flat : (time.second : Int) * nanosPerSecond + time.nanosecond = time.nanosOfDay := by
    unfold ClockTime.nanosOfDay nanosPerSecond
    omega
  have sum : Word.int64? time.nanosOfDay = _ :=
    Word.held?_eq_some (by rw [← flat]; unfold nanosPerSecond; omega)
      (by rw [← flat]; unfold nanosPerSecond; omega)
  refine Option.bind_eq_some_iff.2 ⟨_, second, Option.bind_eq_some_iff.2 ⟨_, product, ?_⟩⟩
  refine Option.bind_eq_some_iff.2 ⟨_, part, Option.bind_eq_some_iff.2 ⟨_, ?_, rfl⟩⟩
  rw [flat, sum]

theorem clock_exact : ExactConversion AcceptableNanos ClockTime.Proper clockOf
    (fun time => Int64.ofInt time.nanosOfDay) clockInWords? nanosInWords? where
  accepted nanoseconds := by
    rw [clockOf_eq]
    split
    · next range => exact ⟨fun _ => range, fun _ => ⟨_, rfl⟩⟩
    · next range => exact ⟨fun ⟨_, made⟩ => (nomatch made), fun other => absurd other range⟩
  refused _ _ := within_eq_error
  returned nanoseconds time made := by
    rw [clockOf_eq] at made
    split at made
    · next range =>
      cases made
      refine ⟨⟨by dsimp only; omega, by dsimp only; omega⟩, ?_⟩
      have sum : ((nanoseconds.toInt.toNat / 1000000000 * 1000000000 +
          nanoseconds.toInt.toNat % 1000000000 : Nat) : Int) = nanoseconds.toInt := by omega
      exact (congrArg Int64.ofInt sum).trans nanoseconds.ofInt_toInt
    · cases made
  fits := clockInWords?_eq
  fits_back _ := nanosInWords?_eq

theorem LocalTime.conversion_exact : ExactConversion
    (fun fields => AcceptableNanos fields.nanoseconds) ClockTime.Proper toClock ofClock
    (fun fields => clockInWords? fields.nanoseconds)
    (fun time => (nanosInWords? time).map LocalTime.mk) where
  accepted fields := clock_exact.accepted fields.nanoseconds
  refused _ _ := clock_exact.refused _ _
  returned fields time made := by
    obtain ⟨proper, same⟩ := clock_exact.returned _ _ made
    exact ⟨proper, congrArg LocalTime.mk same⟩
  fits fields := clockInWords?_eq fields.nanoseconds
  fits_back time proper := by
    rw [nanosInWords?_eq proper]
    rfl

/-! Offsets. -/

theorem offsetOf_eq_ok {seconds : Int64} {east : Int} (made : offsetOf seconds = .ok east) :
    ProperOffset east ∧ seconds.toInt = east := by
  have found := within_eq_ok made
  split at found
  · next range =>
    cases found
    exact ⟨range, rfl⟩
  · cases found

theorem offset_exact : ExactConversion (fun seconds => ProperOffset seconds.toInt) ProperOffset
    offsetOf Int64.ofInt offsetInWords? offsetSecondsInWords? where
  accepted seconds := within_accepts_iff.trans Option.isSome_ite
  refused _ _ := within_eq_error
  returned seconds east made := by
    obtain ⟨proper, rfl⟩ := offsetOf_eq_ok made
    exact ⟨proper, seconds.ofInt_toInt⟩
  fits seconds := by
    refine congrArg (fun found => some (within "timezone offset" found)) (Word.held?_bind ?_)
    intro outside
    refine if_neg ?_
    unfold secondsPerDay
    omega
  fits_back east proper := by
    have held : Word.int64? east = some east :=
      Word.held?_eq_some (by have := proper.1; omega) (by have := proper.2; omega)
    rw [offsetSecondsInWords?, held]
    rfl

/-! Instants. -/

theorem instantOf_eq_ok {seconds nanoseconds : Int64} {instant : CivilInstant}
    (made : instantOf seconds nanoseconds = .ok instant) : instant.Proper ∧
      instant.epochSeconds = seconds.toInt ∧ instant.time.nanosecond = nanoseconds.toInt := by
  unfold instantOf at made
  simp only at made
  split at made
  · next range =>
    obtain ⟨proper, count, part⟩ := CivilInstant.ofEpoch?_eq_some (within_eq_ok made)
    exact ⟨proper, count, by omega⟩
  · cases made

theorem instantOf_eq_error {seconds nanoseconds : Int64} {fault : CodecFault}
    (refused : instantOf seconds nanoseconds = .error fault) : fault.kind = .outOfBoundary := by
  unfold instantOf at refused
  simp only at refused
  split at refused
  · exact within_eq_error refused
  · cases refused
    rfl

theorem instantOf_accepts_iff (seconds nanoseconds : Int64) :
    (∃ instant, instantOf seconds nanoseconds = .ok instant) ↔
      AcceptableInstant seconds nanoseconds := by
  unfold instantOf AcceptableInstant
  by_cases range : 0 ≤ nanoseconds.toInt ∧ nanoseconds.toInt < 0x100000000
  · simp only [if_pos range]
    refine within_accepts_iff.trans (CivilInstant.ofEpoch?_isSome_iff.trans ?_)
    omega
  · simp only [if_neg range]
    refine ⟨fun ⟨_, made⟩ => (nomatch made), fun other => ?_⟩
    omega

theorem instantInWords?_eq (seconds nanoseconds : Int64) :
    instantInWords? seconds nanoseconds = some (instantOf seconds nanoseconds) := by
  unfold instantInWords? instantOf
  by_cases range : 0 ≤ nanoseconds.toInt ∧ nanoseconds.toInt < 0x100000000
  · have held : Word.uint32? nanoseconds.toInt = some nanoseconds.toInt :=
      Word.held?_eq_some range.1 (by omega)
    simp only [if_pos range, held]
    rfl
  · have short : Word.uint32? nanoseconds.toInt = none := if_neg (by omega)
    simp only [if_neg range, short]
    rfl

namespace LocalDateTime

theorem ofInstantInWords?_eq {instant : CivilInstant} (proper : instant.Proper) :
    ofInstantInWords? instant = some (ofInstant instant) := by
  obtain ⟨first, last⟩ := proper.date.bounds
  have second := proper.time.second
  have part := proper.time.nanosecond
  have whole : Word.int64? instant.epochSeconds = _ :=
    Word.held?_eq_some (by unfold CivilInstant.epochSeconds secondsPerDay; omega)
      (by unfold CivilInstant.epochSeconds secondsPerDay; omega)
  have rest : Word.int64? instant.time.nanosecond = _ :=
    Word.held?_eq_some (by omega) (by omega)
  simp only [ofInstantInWords?, whole, rest, Option.bind_eq_bind, Option.bind_some]
  rfl

theorem conversion_exact : ExactConversion
    (fun fields => AcceptableInstant fields.seconds fields.nanoseconds) CivilInstant.Proper
    toInstant ofInstant (fun fields => instantInWords? fields.seconds fields.nanoseconds)
    ofInstantInWords? where
  accepted fields := instantOf_accepts_iff fields.seconds fields.nanoseconds
  refused _ _ := instantOf_eq_error
  returned fields instant made := by
    obtain ⟨proper, count, part⟩ := instantOf_eq_ok made
    exact ⟨proper, by rw [ofInstant, count, part, Int64.ofInt_toInt, Int64.ofInt_toInt]⟩
  fits fields := instantInWords?_eq fields.seconds fields.nanoseconds
  fits_back _ := ofInstantInWords?_eq

end LocalDateTime

namespace DateTime

variable {fields : DateTime}

theorem toInstant_eq_ok_iff {data : CivilInstant × Int} : fields.toInstant = .ok data ↔
    instantOf fields.seconds fields.nanoseconds = .ok data.1 ∧
      offsetOf fields.offsetSeconds = .ok data.2 := by
  unfold toInstant
  cases offsetOf fields.offsetSeconds with
  | error fault => exact ⟨fun made => (nomatch made), fun ⟨_, made⟩ => (nomatch made)⟩
  | ok east =>
    cases instantOf fields.seconds fields.nanoseconds with
    | error fault => exact ⟨fun made => (nomatch made), fun ⟨made, _⟩ => (nomatch made)⟩
    | ok instant =>
      constructor
      · rintro ⟨⟩
        exact ⟨rfl, rfl⟩
      · intro ⟨utc, offset⟩
        cases utc
        cases offset
        rfl

theorem toInstant_eq_error {fault : CodecFault} (refused : fields.toInstant = .error fault) :
    offsetOf fields.offsetSeconds = .error fault ∨
      instantOf fields.seconds fields.nanoseconds = .error fault := by
  unfold toInstant at refused
  cases offset : offsetOf fields.offsetSeconds with
  | error other =>
    rw [offset] at refused
    cases refused
    exact .inl rfl
  | ok east =>
    rw [offset] at refused
    cases utc : instantOf fields.seconds fields.nanoseconds with
    | error other =>
      rw [utc] at refused
      cases refused
      exact .inr rfl
    | ok instant =>
      rw [utc] at refused
      cases refused

theorem conversion_exact : ExactConversion
    (fun fields => AcceptableInstant fields.seconds fields.nanoseconds ∧
      ProperOffset fields.offsetSeconds.toInt)
    (fun data : CivilInstant × Int => data.1.Proper ∧ ProperOffset data.2)
    toInstant (fun data => ofInstant data.1 data.2) toInstantInWords?
    (fun data => ofInstantInWords? data.1 data.2) where
  accepted fields := by
    rw [← instantOf_accepts_iff, ← offset_exact.accepted]
    constructor
    · intro ⟨data, made⟩
      obtain ⟨utc, offset⟩ := toInstant_eq_ok_iff.1 made
      exact ⟨⟨_, utc⟩, ⟨_, offset⟩⟩
    · intro ⟨⟨instant, utc⟩, ⟨east, offset⟩⟩
      exact ⟨(instant, east), toInstant_eq_ok_iff.2 ⟨utc, offset⟩⟩
  refused fields fault refused := by
    rcases toInstant_eq_error refused with offset | utc
    · exact within_eq_error offset
    · exact instantOf_eq_error utc
  returned fields data made := by
    obtain ⟨utc, offset⟩ := toInstant_eq_ok_iff.1 made
    obtain ⟨proper, count, part⟩ := instantOf_eq_ok utc
    obtain ⟨near, east⟩ := offsetOf_eq_ok offset
    refine ⟨⟨proper, near⟩, ?_⟩
    rw [ofInstant, count, part, ← east, Int64.ofInt_toInt, Int64.ofInt_toInt, Int64.ofInt_toInt]
  fits fields := by
    unfold toInstantInWords?
    rw [offset_exact.fits, instantInWords?_eq]
    rfl
  fits_back data proper := by
    unfold ofInstantInWords?
    rw [LocalDateTime.ofInstantInWords?_eq proper.1, offset_exact.fits_back _ proper.2]
    rfl

end DateTime

/-- Whatever 64-bit fields arrive, a date, a time of day with or without an offset and an instant
with or without one are refused as out of their bounds or stand for exactly one thing, which has
the same fields; a time of day is refused unless it is of a day. No step on either way leaves its
word. -/
theorem temporal_fields_exact :
    ExactConversion Date.Acceptable CivilDate.Proper Date.toCivil Date.ofCivil Date.toCivilInWords?
      Date.ofCivilInWords? ∧
    ExactConversion (fun fields => AcceptableNanos fields.nanoseconds) ClockTime.Proper
      LocalTime.toClock LocalTime.ofClock (fun fields => clockInWords? fields.nanoseconds)
      (fun time => (nanosInWords? time).map LocalTime.mk) ∧
    -- Each part of a time with an offset, whatever the other one is.
    (∀ offset east, ExactConversion AcceptableNanos ClockTime.Proper
      (fun nanoseconds => (Time.mk nanoseconds offset).clock)
      (fun time => (Time.ofClock time east).nanoseconds) clockInWords? nanosInWords?) ∧
    (∀ nanoseconds time, ExactConversion (fun seconds => ProperOffset seconds.toInt) ProperOffset
      (fun seconds => (Time.mk nanoseconds seconds).offset)
      (fun east => (Time.ofClock time east).offsetSeconds) offsetInWords?
      offsetSecondsInWords?) ∧
    ExactConversion (fun fields => AcceptableInstant fields.seconds fields.nanoseconds)
      CivilInstant.Proper LocalDateTime.toInstant LocalDateTime.ofInstant
      (fun fields => instantInWords? fields.seconds fields.nanoseconds)
      LocalDateTime.ofInstantInWords? ∧
    ExactConversion
      (fun fields => AcceptableInstant fields.seconds fields.nanoseconds ∧
        ProperOffset fields.offsetSeconds.toInt)
      (fun data : CivilInstant × Int => data.1.Proper ∧ ProperOffset data.2)
      DateTime.toInstant (fun data => DateTime.ofInstant data.1 data.2)
      DateTime.toInstantInWords? (fun data => DateTime.ofInstantInWords? data.1 data.2) :=
  ⟨Date.conversion_exact, LocalTime.conversion_exact, fun _ _ => clock_exact,
    fun _ _ => offset_exact, LocalDateTime.conversion_exact, DateTime.conversion_exact⟩

/-- The end of a leap second right before 1970. -/
example : (LocalDateTime.mk (-1) 1999999999).toInstant =
    .ok ⟨⟨1969, 12, 31⟩, ⟨86399, 1999999999⟩⟩ := by rfl

end BoltClient
