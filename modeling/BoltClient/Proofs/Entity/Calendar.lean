import BoltClient.Entity.Calendar

/-!
Days and dates. The guess at a year is off by one at most, since the days before a year lie
within two of the mean length of a year times its number; the months of a year are walked with
what is left. So the date of a day is one of the calendar, and counting the days up to it gives
the day. An instant is split into a day and a second of it, and put together again.
-/

namespace BoltClient

namespace CivilDate

/-- A day of a month of its year. -/
structure Valid (date : CivilDate) : Prop where
  month : 1 ≤ date.month ∧ date.month ≤ 12
  day : 1 ≤ date.day ∧ date.day ≤ (monthLengths date.year).getD (date.month - 1) 0

/-- A day of a month that is represented. -/
structure Proper (date : CivilDate) : Prop extends Valid date where
  after_first : first.toDay ≤ date.toDay
  before_last : date.toDay ≤ last.toDay

theorem toDay_first : first.toDay = -96465292 := by decide

theorem toDay_last : last.toDay = 95026236 := by decide

theorem Proper.bounds {date : CivilDate} (proper : date.Proper) :
    -96465292 ≤ date.toDay ∧ date.toDay ≤ 95026236 :=
  ⟨toDay_first ▸ proper.after_first, toDay_last ▸ proper.before_last⟩

theorem daysBeforeYear_yearOf_le (day : Int) : daysBeforeYear (yearOf day) ≤ day := by
  unfold yearOf daysBeforeYear
  simp only
  split
  · omega
  · split <;> omega

theorem lt_daysBeforeYear_yearOf (day : Int) : day < daysBeforeYear (yearOf day + 1) := by
  unfold yearOf daysBeforeYear
  simp only
  split
  · omega
  · split <;> omega

/-- A year is as long as its months. -/
theorem daysBeforeYear_succ (year : Int) : daysBeforeYear (year + 1) =
    daysBeforeYear year + ((monthLengths year).foldl (· + ·) 0 : Nat) := by
  unfold daysBeforeYear monthLengths isLeapYear
  simp only [List.foldl, Bool.and_eq_true, Bool.or_eq_true, beq_iff_eq, bne_iff_ne]
  split <;> omega

theorem foldl_add_cons (length : Nat) (rest : List Nat) :
    (length :: rest).foldl (· + ·) 0 = length + rest.foldl (· + ·) 0 := by
  have moved : rest.foldl (· + ·) (length + 0) = length + rest.foldl (· + ·) 0 :=
    List.foldl_assoc
  rw [List.foldl_cons, Nat.zero_add, ← moved, Nat.add_zero]

/-- The month is found behind those that end before the day, and the day is in it. -/
theorem monthAndDay_within (month : Nat) {lengths : List Nat} {day : Nat}
    (inside : day < lengths.foldl (· + ·) 0) :
    ∃ index < lengths.length, (monthAndDay month lengths day).1 = month + index ∧
      (lengths.take index).foldl (· + ·) 0 + (monthAndDay month lengths day).2 = day + 1 ∧
      1 ≤ (monthAndDay month lengths day).2 ∧
      (monthAndDay month lengths day).2 ≤ lengths.getD index 0 := by
  fun_induction monthAndDay month lengths day with
  | case1 month length next rest day here =>
    exact ⟨0, by simp, rfl, by simp, by omega, here⟩
  | case2 month length next rest day behind ih =>
    rw [foldl_add_cons] at inside
    obtain ⟨index, bound, later, earlier, start, fits⟩ := ih (by omega)
    refine ⟨index + 1, by simpa using bound, by omega, ?_, start, ?_⟩
    · rw [List.take_succ_cons, foldl_add_cons]
      omega
    · simpa using fits
  | case3 lengths month day last =>
    rcases lengths with _ | ⟨length, _ | ⟨next, rest⟩⟩
    · cases inside
    · rw [foldl_add_cons] at inside
      exact ⟨0, by simp, rfl, by simp, by omega, inside⟩
    · exact (last length next rest rfl).elim

/-- What is left of a day behind the years before it is less than its year. -/
theorem dayOfYear_lt (day : Int) : (day - daysBeforeYear (yearOf day)).toNat <
    (monthLengths (yearOf day)).foldl (· + ·) 0 := by
  have start := daysBeforeYear_yearOf_le day
  have stop := lt_daysBeforeYear_yearOf day
  rw [daysBeforeYear_succ] at stop
  omega

/-- The months before that of a day, and the day in its month. -/
theorem ofDay_within (day : Int) : ∃ index < 12, (ofDay day).month = 1 + index ∧
    (((monthLengths (ofDay day).year).take index).foldl (· + ·) 0 : Nat) + (ofDay day).day =
      (day + epoch - daysBeforeYear (ofDay day).year).toNat + 1 ∧
    1 ≤ (ofDay day).day ∧ (ofDay day).day ≤ (monthLengths (ofDay day).year).getD index 0 :=
  monthAndDay_within 1 (dayOfYear_lt (day + epoch))

theorem valid_ofDay (day : Int) : (ofDay day).Valid := by
  obtain ⟨index, bound, month, -, start, fits⟩ := ofDay_within day
  have place : (ofDay day).month - 1 = index := by omega
  exact ⟨by omega, start, place ▸ fits⟩

/-- The days up to the date of a day are that day. -/
theorem toDay_ofDay (day : Int) : (ofDay day).toDay = day := by
  obtain ⟨index, bound, month, earlier, -⟩ := ofDay_within day
  have start : daysBeforeYear (ofDay day).year ≤ day + epoch := daysBeforeYear_yearOf_le _
  have place : (ofDay day).month - 1 = index := by omega
  unfold toDay
  rw [place]
  simp only
  omega

theorem ofDay?_eq_some {day : Int} {date : CivilDate} (found : ofDay? day = some date) :
    date.Proper ∧ date.toDay = day := by
  unfold ofDay? at found
  split at found
  · next range =>
    cases found
    have count := toDay_ofDay day
    exact ⟨⟨valid_ofDay day, by omega, by omega⟩, count⟩
  · cases found

/-- Only a day that is represented has a date. -/
theorem ofDay?_eq_none {day : Int} (outside : day < first.toDay ∨ last.toDay < day) :
    ofDay? day = none :=
  if_neg (by omega)

end CivilDate

namespace ClockTime

/-- A second of a day and less than two seconds from its start. -/
structure Proper (time : ClockTime) : Prop where
  second : time.second < 86400
  nanosecond : time.nanosecond < 2000000000

theorem ofParts?_eq_some_iff {second nanosecond : Nat} {time : ClockTime} :
    ofParts? second nanosecond = some time ↔ time = ⟨second, nanosecond⟩ ∧ second < 86400 ∧
      nanosecond < 2000000000 ∧ (nanosecond < 1000000000 ∨ second % 60 = 59) := by
  have range : (second < secondsPerDay ∧ nanosecond < 2 * nanosPerSecond ∧
      (nanosecond < nanosPerSecond ∨ second % 60 = 59)) ↔ second < 86400 ∧
      nanosecond < 2000000000 ∧ (nanosecond < 1000000000 ∨ second % 60 = 59) := Iff.rfl
  rw [ofParts?, Option.ite_none_right_eq_some, range, Option.some_inj, and_comm, eq_comm]

theorem ofParts?_of_le {second nanosecond : Nat} (last : 86400 ≤ second) :
    ofParts? second nanosecond = none := by
  refine if_neg fun range => ?_
  have day : second < 86400 := range.1
  omega

end ClockTime

namespace CivilInstant

/-- A date of the calendar and a time of day. -/
structure Proper (instant : CivilInstant) : Prop where
  date : instant.date.Proper
  time : instant.time.Proper

/-- An instant is as many seconds after the start of 1970 as it was made from. -/
theorem ofEpoch?_eq_some {seconds : Int} {nanosecond : Nat} {instant : CivilInstant}
    (found : ofEpoch? seconds nanosecond = some instant) :
    instant.Proper ∧ instant.epochSeconds = seconds ∧ instant.time.nanosecond = nanosecond := by
  obtain ⟨date, day, rest⟩ := Option.bind_eq_some_iff.1 found
  obtain ⟨time, clock, made⟩ := Option.bind_eq_some_iff.1 rest
  cases made
  obtain ⟨dated, count⟩ := CivilDate.ofDay?_eq_some day
  obtain ⟨rfl, second, part, -⟩ := ClockTime.ofParts?_eq_some_iff.1 clock
  refine ⟨⟨dated, ⟨second, part⟩⟩, ?_, rfl⟩
  show date.toDay * 86400 + ((seconds % 86400).toNat : Int) = seconds
  rw [count]
  change seconds / 86400 * 86400 + _ = seconds
  omega

theorem ofEpoch?_isSome_iff {seconds : Int} {nanosecond : Nat} :
    (ofEpoch? seconds nanosecond).isSome ↔
      (CivilDate.first.toDay ≤ seconds / 86400 ∧ seconds / 86400 ≤ CivilDate.last.toDay) ∧
      nanosecond < 2000000000 ∧ (nanosecond < 1000000000 ∨ seconds % 60 = 59) := by
  have minute : (seconds % 86400).toNat % 60 = 59 ↔ seconds % 60 = 59 := by omega
  constructor
  · intro found
    obtain ⟨instant, made⟩ := Option.isSome_iff_exists.1 found
    obtain ⟨date, day, rest⟩ := Option.bind_eq_some_iff.1 made
    obtain ⟨time, clock, -⟩ := Option.bind_eq_some_iff.1 rest
    obtain ⟨-, -, part, leap⟩ := ClockTime.ofParts?_eq_some_iff.1 clock
    exact ⟨(Option.ite_none_right_eq_some.1 day).1, part, leap.imp_right minute.1⟩
  · intro ⟨days, part, leap⟩
    have day : CivilDate.ofDay? (seconds / secondsPerDay) = some _ := if_pos days
    have clock : ClockTime.ofParts? (seconds % secondsPerDay).toNat nanosecond = some _ :=
      ClockTime.ofParts?_eq_some_iff.2
        ⟨rfl, by unfold secondsPerDay; omega, part, leap.imp_right minute.2⟩
    rw [ofEpoch?, day, Option.bind_eq_bind, Option.bind_some, clock]
    rfl

end CivilInstant
end BoltClient
