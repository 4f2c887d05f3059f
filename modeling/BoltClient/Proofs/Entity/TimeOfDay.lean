import BoltClient.Proofs.Entity.Conversion

/-!
Times of day as one number of nanoseconds. The number has no place for a leap second: it counts
as the first of the next minute, so it shares its nanoseconds with a time there, and that time is
what comes back. No other two times share a number, and without a leap second a time comes back.
-/

namespace BoltClient

namespace ClockTime

/-- A leap second, as long after midnight as another time. -/
structure IsLeapOf (leap time : ClockTime) : Prop where
  second : leap.second + 1 = time.second
  nanosecond : leap.nanosecond = time.nanosecond + 1000000000

variable {time other : ClockTime}

theorem nanosOfDay_eq (time : ClockTime) :
    time.nanosOfDay = time.second * 1000000000 + time.nanosecond := rfl

/-- The number of seconds and the part of a second are found in the nanoseconds again, but for a
leap second. -/
theorem nanosOfDay_inj_iff (proper : time.Proper) (other_proper : other.Proper) :
    time.nanosOfDay = other.nanosOfDay ↔
      time = other ∨ time.IsLeapOf other ∨ other.IsLeapOf time := by
  have part := proper.nanosecond
  have other_part := other_proper.nanosecond
  rw [nanosOfDay_eq, nanosOfDay_eq]
  constructor
  · intro same
    -- The parts differ by less than two seconds, so the seconds by one at most.
    have near : time.second = other.second ∨ time.second + 1 = other.second ∨
        other.second + 1 = time.second := by omega
    rcases near with equal | before | after
    · exact .inl (by cases time; cases other; congr; dsimp only at *; omega)
    · exact .inr (.inl ⟨before, by omega⟩)
    · exact .inr (.inr ⟨after, by omega⟩)
  · rintro (rfl | ⟨second, part⟩ | ⟨second, part⟩)
    · rfl
    · omega
    · omega

/-- A word holds the nanoseconds of a time. -/
theorem toInt_nanosOfDay (proper : time.Proper) :
    (Int64.ofInt time.nanosOfDay).toInt = time.nanosOfDay := by
  have second := proper.second
  have part := proper.nanosecond
  have flat := time.nanosOfDay_eq
  apply Int64.toInt_ofInt_of_le <;> omega

/-- So times share a word exactly if they share their nanoseconds. -/
theorem ofInt_nanosOfDay_inj_iff (proper : time.Proper) (other_proper : other.Proper) :
    Int64.ofInt time.nanosOfDay = Int64.ofInt other.nanosOfDay ↔
      time.nanosOfDay = other.nanosOfDay := by
  constructor
  · intro same
    have words := congrArg Int64.toInt same
    rw [toInt_nanosOfDay proper, toInt_nanosOfDay other_proper] at words
    exact Int.ofNat_inj.1 words
  · intro same
    rw [same]

end ClockTime

/-- A time without a leap second comes back from its nanoseconds, whichever time had them. -/
theorem clockOf_nanosOfDay {time back : ClockTime} (proper : time.Proper)
    (day : back.second < 86400) (part : back.nanosecond < 1000000000)
    (same : time.nanosOfDay = back.nanosOfDay) :
    AcceptableNanos (Int64.ofInt time.nanosOfDay) ∧
      clockOf (Int64.ofInt time.nanosOfDay) = .ok back := by
  have flat := back.nanosOfDay_eq
  have second : (back.nanosOfDay : Int).toNat / 1000000000 = back.second := by omega
  have rest : (back.nanosOfDay : Int).toNat % 1000000000 = back.nanosecond := by omega
  rw [clockOf_eq, AcceptableNanos, ClockTime.toInt_nanosOfDay proper, same, if_pos (by omega),
    second, rest]
  exact ⟨by omega, rfl⟩

/-- An offset comes back from its seconds. -/
theorem offsetOf_ofInt {east : Int} (near : ProperOffset east) :
    offsetOf (Int64.ofInt east) = .ok east := by
  have low := near.1
  have high := near.2
  have held : (Int64.ofInt east).toInt = east := by
    apply Int64.toInt_ofInt_of_le <;> omega
  rw [offsetOf, held]
  exact congrArg (within "timezone offset") (if_pos near)

/-- With an offset a time has the same nanoseconds as without, and the offset comes back. A time
without a leap second comes back too; for a leap second the time comes back that is as long after
midnight, if that is of the same day. Then the nanoseconds are of a day. No two times share their
nanoseconds but a leap second and that time. -/
theorem times_of_day_come_back {time : ClockTime} (proper : time.Proper) {east : Int}
    (near : ProperOffset east) :
    (Time.ofClock time east).nanoseconds = (LocalTime.ofClock time).nanoseconds ∧
    (Time.ofClock time east).offset = .ok east ∧
    (∀ back : ClockTime, back.second < 86400 → back.nanosecond < 1000000000 →
      time = back ∨ time.IsLeapOf back →
      AcceptableNanos (LocalTime.ofClock time).nanoseconds ∧
      (LocalTime.ofClock time).toClock = .ok back ∧ (Time.ofClock time east).clock = .ok back) ∧
    ∀ other : ClockTime, other.Proper →
      ((LocalTime.ofClock time).nanoseconds = (LocalTime.ofClock other).nanoseconds ↔
        time = other ∨ time.IsLeapOf other ∨ other.IsLeapOf time) := by
  refine ⟨rfl, offsetOf_ofInt near, ?_, ?_⟩
  · intro back day part kin
    have same : time.nanosOfDay = back.nanosOfDay :=
      (ClockTime.nanosOfDay_inj_iff proper ⟨day, by omega⟩).2 (kin.imp_right .inl)
    obtain ⟨inside, found⟩ := clockOf_nanosOfDay proper day part same
    exact ⟨inside, found, found⟩
  · intro other other_proper
    rw [← ClockTime.nanosOfDay_inj_iff proper other_proper]
    exact ClockTime.ofInt_nanosOfDay_inj_iff proper other_proper

/-- Half a second into a leap second, an hour east. -/
theorem leap_second_comes_back_behind :
    (⟨59, 1500000000⟩ : ClockTime).Proper ∧ ProperOffset 3600 ∧
    (Time.ofClock ⟨59, 1500000000⟩ 3600).offset = .ok 3600 ∧
    (LocalTime.ofClock ⟨59, 1500000000⟩).toClock = .ok ⟨60, 500000000⟩ := by
  have proper : (⟨59, 1500000000⟩ : ClockTime).Proper := ⟨by decide, by decide⟩
  have near : ProperOffset 3600 := ⟨by decide, by decide⟩
  obtain ⟨-, offset, back, -⟩ := times_of_day_come_back proper near
  obtain ⟨-, found, -⟩ := back ⟨60, 500000000⟩ (by decide) (by decide) (.inr ⟨rfl, rfl⟩)
  exact ⟨proper, near, offset, found⟩

/-- The leap second at the end of the day has nanoseconds beyond it, that are not taken back; and
half a second into a leap second is as long after midnight as half a second behind it. -/
theorem leap_second_is_not_carried :
    (⟨86399, 1000000000⟩ : ClockTime).Proper ∧
    (LocalTime.ofClock ⟨86399, 1000000000⟩).nanoseconds = 86400000000000 ∧
    ¬ AcceptableNanos (LocalTime.ofClock ⟨86399, 1000000000⟩).nanoseconds ∧
    (LocalTime.ofClock ⟨86399, 1000000000⟩).toClock = .error (.outOfRange "time of day") ∧
    (⟨59, 1500000000⟩ : ClockTime).Proper ∧ (⟨60, 500000000⟩ : ClockTime).Proper ∧
    (LocalTime.ofClock ⟨59, 1500000000⟩).nanoseconds =
      (LocalTime.ofClock ⟨60, 500000000⟩).nanoseconds ∧
    (LocalTime.ofClock ⟨59, 1500000000⟩).toClock ≠ .ok ⟨59, 1500000000⟩ := by
  have last : (LocalTime.ofClock ⟨86399, 1000000000⟩).nanoseconds = 86400000000000 := by decide
  have beyond : ¬ AcceptableNanos (LocalTime.ofClock ⟨86399, 1000000000⟩).nanoseconds := by
    rw [last]
    exact fun inside => absurd inside.2 (by decide)
  have refused : clockOf (LocalTime.ofClock ⟨86399, 1000000000⟩).nanoseconds =
      .error (.outOfRange "time of day") := (clockOf_eq _).trans (if_neg beyond)
  have behind : clockOf (LocalTime.ofClock ⟨59, 1500000000⟩).nanoseconds =
      .ok ⟨60, 500000000⟩ := rfl
  refine ⟨⟨by decide, by decide⟩, last, beyond, refused, ⟨by decide, by decide⟩,
    ⟨by decide, by decide⟩, by decide, fun back => ?_⟩
  cases behind.symm.trans back

end BoltClient
