import BoltClient.Proofs.Entity.Conversion

/-!
Durations and exact spans of time. A duration without months is as long as its days, seconds and
nanoseconds together, unless a sum on the way is longer than the longest span. A span is cut
toward zero into whole seconds and what is left, so both have its sign, and together they are the
span again, from the longest one before to the longest one after.

As for the other temporal structures, both ways are written a second time in words of 64 bits:
the outer option is `none` where a word or a span is too short and nothing foresees it.
-/

namespace BoltClient

namespace Span

/-- A number of nanoseconds that a span can have. -/
def InRange (nanos : Int) : Prop := -longest ≤ nanos ∧ nanos ≤ longest

/-- No longer than the longest span. -/
def Proper (span : Span) : Prop := InRange span.nanos

theorem longest_eq : longest = 9223372036854775807000000 := by decide

variable {span : Span}

theorem Proper.bounds (proper : span.Proper) :
    -9223372036854775807000000 ≤ span.nanos ∧ span.nanos ≤ 9223372036854775807000000 :=
  longest_eq ▸ proper

theorem ofNanos?_eq_some_iff {nanos : Int} :
    ofNanos? nanos = some span ↔ InRange nanos ∧ span.nanos = nanos := by
  have made : (⟨nanos⟩ : Span) = span ↔ span.nanos = nanos := by
    rw [Span.mk.injEq, eq_comm]
  rw [ofNanos?, Option.ite_none_right_eq_some, Option.some_inj, made]
  rfl

theorem ofSeconds?_eq_some_iff {seconds : Int} : ofSeconds? seconds = some span ↔
    InRange (seconds * 1000000000) ∧ span.nanos = seconds * 1000000000 :=
  ofNanos?_eq_some_iff

theorem ofDays?_eq_some_iff {days : Int} : ofDays? days = some span ↔
    InRange (days * 86400000000000) ∧ span.nanos = days * 86400000000000 := by
  have day : days * secondsPerDay * 1000000000 = days * 86400000000000 := by
    unfold secondsPerDay
    omega
  rw [ofDays?, ofSeconds?_eq_some_iff, day]

theorem add?_eq_some_iff {left right : Span} : left.add? right = some span ↔
    InRange (left.nanos + right.nanos) ∧ span.nanos = left.nanos + right.nanos :=
  ofNanos?_eq_some_iff

/-- Every number of nanoseconds in a word is one of a span. -/
theorem inRange_word (nanos : Int64) : InRange nanos.toInt := by
  obtain ⟨low, high⟩ := Word.bounds nanos
  rw [InRange, longest_eq]
  omega

/-- Seconds that a span can have are in a word. -/
theorem seconds_bounds {seconds : Int} (inRange : InRange (seconds * 1000000000)) :
    -0x8000000000000000 ≤ seconds ∧ seconds ≤ 0x7fffffffffffffff := by
  rw [InRange, longest_eq] at inRange
  omega

/-- Seconds that a word is too short for are longer than any span. -/
theorem ofSeconds?_eq_none {seconds : Int}
    (outside : seconds < -0x8000000000000000 ∨ 0x7fffffffffffffff < seconds) :
    ofSeconds? seconds = none := by
  have far : ¬ InRange (seconds * 1000000000) := by
    intro inRange
    have bounds := seconds_bounds inRange
    omega
  exact if_neg far

theorem wholeSeconds_add_restNanos (span : Span) :
    span.wholeSeconds * 1000000000 + span.restNanos = span.nanos :=
  Int.tdiv_mul_add_tmod span.nanos 1000000000

theorem restNanos_short (span : Span) :
    -1000000000 < span.restNanos ∧ span.restNanos < 1000000000 :=
  ⟨Int.lt_tmod_of_pos span.nanos (by decide), Int.tmod_lt_of_pos span.nanos (by decide)⟩

/-- What is cut off a span has its sign, and so has what is left. -/
theorem same_sign (span : Span) : 0 ≤ span.wholeSeconds ∧ 0 ≤ span.restNanos ∨
    span.wholeSeconds ≤ 0 ∧ span.restNanos ≤ 0 := by
  have sum := span.wholeSeconds_add_restNanos
  have short := span.restNanos_short
  rcases Int.le_total 0 span.nanos with behind | before
  · have rest : 0 ≤ span.restNanos := Int.tmod_nonneg 1000000000 behind
    omega
  · have mirrored : 0 ≤ (-span.nanos).tmod 1000000000 :=
      Int.tmod_nonneg 1000000000 (Int.neg_nonneg_of_nonpos before)
    rw [Int.neg_tmod] at mirrored
    have rest : span.restNanos ≤ 0 := Int.nonpos_of_neg_nonneg mirrored
    omega

/-- The whole seconds of a span are no longer than it, since what is left has its sign. -/
theorem Proper.wholeSeconds_inRange (proper : span.Proper) :
    InRange (span.wholeSeconds * 1000000000) := by
  have bounds := proper.bounds
  have sum := span.wholeSeconds_add_restNanos
  have signs := span.same_sign
  rw [InRange, longest_eq]
  omega

theorem restNanos_inRange (span : Span) : InRange span.restNanos := by
  have short := span.restNanos_short
  rw [InRange, longest_eq]
  omega

end Span

namespace Duration

variable {fields : Duration} {span : Span}

/-- Seconds of days that do not fit refuse the days. -/
def spanOfDaysInWords? (days : Int) : Option Span := do
  let seconds ← Word.int64? (days * secondsPerDay)
  Span.ofSeconds? seconds

/-- A part or a sum that is too long refuses the duration, one of nanoseconds alone is not
foreseen. -/
def toSpanInWords? (fields : Duration) : Option (Option Span) := do
  let part ← Span.ofNanos? fields.nanoseconds.toInt
  return if fields.months ≠ 0 then none
    else do
      let days ← spanOfDaysInWords? fields.days.toInt
      let seconds ← Span.ofSeconds? fields.seconds.toInt
      let whole ← days.add? seconds
      whole.add? part

/-- The seconds are taken off as a span, and what is left is counted in a word, where more than
that holds counts as nothing. -/
def ofSpanInWords? (span : Span) : Option Duration := do
  let seconds ← Word.int64? span.wholeSeconds
  let whole ← Span.ofSeconds? seconds
  let rest ← Span.ofNanos? (span.nanos - whole.nanos)
  let part := (Word.int64? rest.nanos).getD 0
  return ⟨0, 0, Int64.ofInt seconds, Int64.ofInt part⟩

/-- That neither a part nor a sum of parts, in their order, is too long. -/
structure Fits (fields : Duration) : Prop where
  days : Span.InRange (fields.days.toInt * 86400000000000)
  seconds : Span.InRange (fields.seconds.toInt * 1000000000)
  whole : Span.InRange (fields.days.toInt * 86400000000000 + fields.seconds.toInt * 1000000000)
  total : Span.InRange (fields.days.toInt * 86400000000000 + fields.seconds.toInt * 1000000000 +
    fields.nanoseconds.toInt)

theorem spanOfDaysInWords?_eq (days : Int) : spanOfDaysInWords? days = Span.ofDays? days :=
  Word.held?_bind Span.ofSeconds?_eq_none

theorem toSpanInWords?_eq (fields : Duration) : fields.toSpanInWords? = some fields.toSpan? := by
  have part : Span.ofNanos? fields.nanoseconds.toInt = some ⟨fields.nanoseconds.toInt⟩ :=
    if_pos (Span.inRange_word fields.nanoseconds)
  rw [toSpanInWords?, part, spanOfDaysInWords?_eq]
  rfl

/-- A duration is as long as its parts together, if it has no months and they fit. -/
theorem toSpan?_eq_some_iff : fields.toSpan? = some span ↔ fields.months = 0 ∧ fields.Fits ∧
    span.nanos = fields.days.toInt * 86400000000000 + fields.seconds.toInt * 1000000000 +
      fields.nanoseconds.toInt := by
  unfold toSpan?
  by_cases months : fields.months = 0
  · rw [if_neg fun nonzero => nonzero months]
    constructor
    · intro made
      obtain ⟨days, one, made⟩ := Option.bind_eq_some_iff.1 made
      obtain ⟨seconds, two, made⟩ := Option.bind_eq_some_iff.1 made
      obtain ⟨whole, three, made⟩ := Option.bind_eq_some_iff.1 made
      obtain ⟨days_fit, days_long⟩ := Span.ofDays?_eq_some_iff.1 one
      obtain ⟨seconds_fit, seconds_long⟩ := Span.ofSeconds?_eq_some_iff.1 two
      obtain ⟨whole_fits, whole_long⟩ := Span.add?_eq_some_iff.1 three
      obtain ⟨all_fits, long⟩ := Span.add?_eq_some_iff.1 made
      rw [days_long, seconds_long] at whole_fits whole_long
      rw [whole_long] at all_fits long
      exact ⟨months, ⟨days_fit, seconds_fit, whole_fits, all_fits⟩, long⟩
    · rintro ⟨-, fits, long⟩
      refine Option.bind_eq_some_iff.2 ⟨⟨_⟩, Span.ofDays?_eq_some_iff.2 ⟨fits.days, rfl⟩, ?_⟩
      refine Option.bind_eq_some_iff.2
        ⟨⟨_⟩, Span.ofSeconds?_eq_some_iff.2 ⟨fits.seconds, rfl⟩, ?_⟩
      refine Option.bind_eq_some_iff.2 ⟨⟨_⟩, Span.add?_eq_some_iff.2 ⟨fits.whole, rfl⟩, ?_⟩
      exact Span.add?_eq_some_iff.2 ⟨fits.total, long⟩
  · rw [if_pos months]
    exact iff_of_false nofun fun parts => months parts.1

/-- Words hold the seconds of a span and what is left of it. -/
theorem toInt_ofSpan (proper : span.Proper) :
    (ofSpan span).seconds.toInt = span.wholeSeconds ∧
      (ofSpan span).nanoseconds.toInt = span.restNanos := by
  have seconds := Span.seconds_bounds proper.wholeSeconds_inRange
  have short := span.restNanos_short
  constructor <;> apply Int64.toInt_ofInt_of_le <;> omega

theorem ofSpanInWords?_eq (proper : span.Proper) : ofSpanInWords? span = some (ofSpan span) := by
  have bounds := Span.seconds_bounds proper.wholeSeconds_inRange
  have short := span.restNanos_short
  have seconds : Word.int64? span.wholeSeconds = some span.wholeSeconds :=
    Word.held?_eq_some bounds.1 bounds.2
  have whole : Span.ofSeconds? span.wholeSeconds = some ⟨span.wholeSeconds * 1000000000⟩ :=
    Span.ofSeconds?_eq_some_iff.2 ⟨proper.wholeSeconds_inRange, rfl⟩
  have left : span.nanos - span.wholeSeconds * 1000000000 = span.restNanos := by
    have sum := span.wholeSeconds_add_restNanos
    omega
  have rest : Span.ofNanos? span.restNanos = some ⟨span.restNanos⟩ :=
    Span.ofNanos?_eq_some_iff.2 ⟨span.restNanos_inRange, rfl⟩
  have part : Word.int64? span.restNanos = some span.restNanos :=
    Word.held?_eq_some (by omega) (by omega)
  simp only [ofSpanInWords?, seconds, whole, left, rest, part, Option.bind_eq_bind,
    Option.bind_some, Option.getD_some]
  rfl

/-- A span is as long as its seconds and what is left of it. -/
theorem toSpan?_ofSpan (proper : span.Proper) : (ofSpan span).toSpan? = some span := by
  obtain ⟨seconds, rest⟩ := toInt_ofSpan proper
  have noDays : (ofSpan span).days.toInt * 86400000000000 = 0 := Int.zero_mul _
  have whole : Span.InRange ((ofSpan span).seconds.toInt * 1000000000) := by
    rw [seconds]
    exact proper.wholeSeconds_inRange
  have long : span.nanos = 0 + (ofSpan span).seconds.toInt * 1000000000 +
      (ofSpan span).nanoseconds.toInt := by
    rw [Int.zero_add, seconds, rest, span.wholeSeconds_add_restNanos]
  rw [← noDays] at long
  refine toSpan?_eq_some_iff.2 ⟨rfl, ⟨?_, whole, ?_, long ▸ proper⟩, long⟩
  · rw [noDays]
    exact Span.inRange_word 0
  · rwa [noDays, Int.zero_add]

end Duration

/-- A duration has a length exactly if it has no months and no sum on the way is too long, and
then it is that of its days, seconds and nanoseconds together. The duration of a span, however
long, has nothing but seconds and less than one second of nanoseconds, of one sign, and the span
for its length. No step either way leaves its word. -/
theorem durations_are_exact :
    (∀ fields : Duration, fields.toSpanInWords? = some fields.toSpan?) ∧
    (∀ (fields : Duration) (span : Span), fields.toSpan? = some span ↔
      fields.months = 0 ∧ fields.Fits ∧
        span.nanos = fields.days.toInt * 86400000000000 + fields.seconds.toInt * 1000000000 +
          fields.nanoseconds.toInt) ∧
    ∀ span : Span, span.Proper →
      Duration.ofSpanInWords? span = some (Duration.ofSpan span) ∧
      (Duration.ofSpan span).months = 0 ∧ (Duration.ofSpan span).days = 0 ∧
      (-1000000000 < (Duration.ofSpan span).nanoseconds.toInt ∧
        (Duration.ofSpan span).nanoseconds.toInt < 1000000000) ∧
      (0 ≤ (Duration.ofSpan span).seconds.toInt ∧ 0 ≤ (Duration.ofSpan span).nanoseconds.toInt ∨
        (Duration.ofSpan span).seconds.toInt ≤ 0 ∧
          (Duration.ofSpan span).nanoseconds.toInt ≤ 0) ∧
      (Duration.ofSpan span).toSpan? = some span := by
  refine ⟨Duration.toSpanInWords?_eq, fun _ _ => Duration.toSpan?_eq_some_iff, ?_⟩
  intro span proper
  obtain ⟨seconds, rest⟩ := Duration.toInt_ofSpan proper
  refine ⟨Duration.ofSpanInWords?_eq proper, rfl, rfl, ?_, ?_, Duration.toSpan?_ofSpan proper⟩
  · rw [rest]
    exact span.restNanos_short
  · rw [seconds, rest]
    exact span.same_sign

/-- The longest span before, which ends between two seconds; and a day less a second and a half. -/
theorem longest_span_is_exact :
    (⟨-9223372036854775807000000⟩ : Span).Proper ∧
    Duration.ofSpan ⟨-9223372036854775807000000⟩ = ⟨0, 0, -9223372036854775, -807000000⟩ ∧
    (Duration.mk 0 0 (-9223372036854775) (-807000000)).toSpan? =
      some ⟨-9223372036854775807000000⟩ ∧
    (Duration.mk 0 1 (-1) (-500000000)).toSpan? = some ⟨86398500000000⟩ := by
  obtain ⟨-, exact, back⟩ := durations_are_exact
  have proper : (⟨-9223372036854775807000000⟩ : Span).Proper := by
    rw [Span.Proper, Span.InRange, Span.longest_eq]
    decide
  obtain ⟨-, -, -, -, -, same⟩ := back _ proper
  refine ⟨proper, by rfl, same, (exact _ _).2 ⟨rfl, ?_, by decide +kernel⟩⟩
  constructor <;> rw [Span.InRange, Span.longest_eq] <;> decide +kernel

end BoltClient
