import BoltClient.Proofs.Codec.Appending
import BoltClient.Proofs.Codec.Shortest

/-!
Headers in buffers and sources. A count is announced behind what a buffer holds, in the shortest
header of its kind; the marker tells the kind, since no two kinds share one and none is that of a
scalar. Read off a source, a header takes as many bytes as its marker announces, or none at all
when the source has fewer or the marker is of another kind.
-/

namespace BoltClient

namespace HeaderScheme

theorem run_takeOff (count : Nat) (source : Bytes) : (takeOff count).run.run source =
    match take count source with
    | .ok (front, rest) => (.ok front, rest)
    | .error fault => (.error fault, source) := by
  have lifted : (liftM (take count source) : Taker (Bytes × Bytes)).run.run source =
      (take count source, source) := rfl
  rw [takeOff, CodecFault.run_bind]
  change (liftM (take count source) >>= fun taken => (do set taken.2; return taken.1) :
    Taker Bytes).run.run source = _
  rw [CodecFault.run_bind, lifted]
  cases take count source <;> rfl

/-- What is read off a source, and what is left of it. -/
theorem run_readSize (scheme : HeaderScheme) (marker : UInt8) (source : Bytes) :
    (scheme.readSize marker).run.run source =
      match scheme.compactCount? marker, scheme.longWidth? marker with
      | some count, _ => (.ok (some count), source)
      | none, none => (.ok none, source)
      | none, some width =>
        match take width source with
        | .error fault => (.error fault, source)
        | .ok (raw, rest) =>
          if maxCount < Bytes.toNat raw then (.error (.lengthTooLarge (Bytes.toNat raw)), rest)
          else (.ok (some (Bytes.toNat raw)), rest) := by
  unfold readSize
  cases scheme.compactCount? marker with
  | some count => rfl
  | none =>
    cases scheme.longWidth? marker with
    | none => rfl
    | some width =>
      simp only
      rw [CodecFault.run_bind, run_takeOff]
      rcases take width source with fault | ⟨raw, rest⟩
      · rfl
      · simp only
        by_cases large : maxCount < Bytes.toNat raw
        · rw [if_pos large, if_pos large]
          rfl
        · rw [if_neg large, if_neg large]
          rfl

/-- Reading off a source is reading, and tells what is left when there is no count. -/
theorem read?_eq_readSize (scheme : HeaderScheme) (marker : UInt8) (source : Bytes) :
    scheme.read? marker source =
      match (scheme.readSize marker).run.run source with
      | (.ok (some count), rest) => .ok (some (count, rest))
      | (.ok none, _) => .ok none
      | (.error fault, _) => .error fault := by
  rw [run_readSize, read?]
  cases scheme.compactCount? marker with
  | some count => rfl
  | none =>
    cases scheme.longWidth? marker with
    | none => rfl
    | some width =>
      simp only
      rcases take width source with fault | ⟨raw, rest⟩
      · rfl
      · by_cases large : maxCount < Bytes.toNat raw
        · simp only [if_pos large]
        · simp only [if_neg large]

/-- A marker of another kind leaves the source as it is. -/
theorem run_readSize_of_not_claims {scheme : HeaderScheme} {marker : UInt8}
    (foreign : scheme.claims marker = false) (source : Bytes) :
    (scheme.readSize marker).run.run source = (.ok none, source) := by
  simp only [claims, Bool.or_eq_false_iff, Option.isSome_eq_false_iff, Option.isNone_iff_eq_none]
    at foreign
  rw [run_readSize, foreign.1, foreign.2]

theorem run_readSize_of_read? {scheme : HeaderScheme} {marker : UInt8} {source rest : Bytes}
    {count : Nat} (found : scheme.read? marker source = .ok (some (count, rest))) :
    (scheme.readSize marker).run.run source = (.ok (some count), rest) := by
  rw [read?_eq_readSize] at found
  split at found
  · next same =>
    cases found
    exact same
  · cases found
  · cases found

end HeaderScheme

namespace Value

/-- The markers of scalars: those with a fixed meaning and those of small integers. -/
def ScalarMarker (marker : UInt8) : Prop :=
  marker ∈ [0xC0, 0xC1, 0xC2, 0xC3, 0xC8, 0xC9, 0xCA, 0xCB] ∨ marker ≤ 0x7F ∨ 0xF0 ≤ marker

theorem not_scalarMarker_of_claims {kind : Composite} {marker : UInt8}
    (own : kind.scheme.claims marker = true) : ¬ ScalarMarker marker := by
  have range := Composite.range_of_claims own
  rintro (fixed | small)
  · have between : ∀ other ∈ [0xC0, 0xC1, 0xC2, 0xC3, 0xC8, 0xC9, 0xCA, (0xCB : UInt8)],
        0xC0 ≤ other.toNat ∧ other.toNat ≤ 0xCB := by decide +kernel
    have here := between marker fixed
    omega
  · rw [UInt8.le_iff_toNat_le, UInt8.le_iff_toNat_le] at small
    simp only [UInt8.reduceToNat] at small
    omega

end Value

namespace Composite

open HeaderScheme

/-- What is taken off a source is nothing, or as much as the marker announces. -/
theorem run_readSize_takes (kind : Composite) (marker : UInt8) (source : Bytes) :
    ∃ taken result rest, (kind.scheme.readSize marker).run.run source = (result, rest) ∧
      source = taken ++ rest ∧ (taken = [] ∨ kind.longMarker? taken.length = some marker) ∧
      (result = .ok none → taken = []) ∧
      ∀ fault, result = .error fault → fault.kind = .notEnoughBytes → taken = [] := by
  rw [run_readSize]
  cases kind.scheme.compactCount? marker with
  | some count => exact ⟨[], _, _, rfl, rfl, .inl rfl, fun _ => rfl, fun _ _ _ => rfl⟩
  | none =>
    cases wide : kind.scheme.longWidth? marker with
    | none => exact ⟨[], _, _, rfl, rfl, .inl rfl, fun _ => rfl, fun _ _ _ => rfl⟩
    | some width =>
      simp only
      rcases found : take width source with fault | ⟨raw, rest⟩
      · exact ⟨[], _, _, rfl, rfl, .inl rfl, fun _ => rfl, fun _ _ _ => rfl⟩
      · obtain ⟨rfl, rfl⟩ := eq_append_of_take found
        have announced := longMarker?_of_longWidth? wide
        by_cases large : maxCount < Bytes.toNat raw
        · simp only [if_pos large]
          refine ⟨raw, _, rest, rfl, rfl, .inr announced, nofun, ?_⟩
          rintro _ ⟨⟩ ⟨⟩
        · simp only [if_neg large]
          exact ⟨raw, _, rest, rfl, rfl, .inr announced, nofun, nofun⟩

/-- A header is read by its own kind alone. -/
theorem Header.run_readSize {kind : Composite} {count : Nat} {header : Bytes}
    (announced : kind.Header count header) :
    ∃ marker tail, header = marker :: tail ∧ ¬ Value.ScalarMarker marker ∧
      (∀ rest, (kind.scheme.readSize marker).run.run (tail ++ rest) = (.ok (some count), rest)) ∧
      ∀ other, other ≠ kind → ∀ source,
        (other.scheme.readSize marker).run.run source = (.ok none, source) := by
  obtain ⟨marker, tail, shape, own, found⟩ := announced.read?_eq
  refine ⟨marker, tail, shape, Value.not_scalarMarker_of_claims own,
    fun rest => run_readSize_of_read? (found rest), fun other different source => ?_⟩
  have foreign : other.scheme.claims marker = false :=
    Bool.eq_false_iff.2 fun claimed => different (eq_of_claims claimed own)
  exact run_readSize_of_not_claims foreign source

/-- A count is announced up to the most that its kind has a header for, behind whatever a buffer
holds and in the shortest header that the kind offers. Every header, the shortest or not, begins
with a marker that is none of a scalar. Its kind reads the count off a source, whatever follows,
and takes the header alone; the other kinds find nothing of theirs and take nothing, so the value
behind is read as one of that kind. From any source a kind takes nothing or what the marker
announces, and nothing when it finds none of its markers or too few bytes. -/
theorem headers_told_apart (kind : Composite) :
    (∀ count, (∃ header, kind.scheme.write count = .ok header) ↔ count ≤ kind.most) ∧
    (∀ count header, kind.scheme.write count = .ok header →
      (∀ buffer, (Packer.putHeader (kind.scheme.write count)).run.run buffer =
        (.ok (), buffer ++ header)) ∧
      kind.Header count header ∧ ∀ other, kind.Header count other → header.length ≤ other.length) ∧
    (∀ count header, kind.Header count header →
      (∃ marker tail, header = marker :: tail ∧ ¬ Value.ScalarMarker marker ∧
        (∀ rest, (kind.scheme.readSize marker).run.run (tail ++ rest) = (.ok (some count), rest)) ∧
        ∀ other, other ≠ kind → ∀ source,
          (other.scheme.readSize marker).run.run source = (.ok none, source)) ∧
      ∀ levels rest, Value.Reader.value (levels + 1) (header ++ rest) =
        Value.Reader.content (Value.Reader.value levels) kind count rest) ∧
    ∀ marker source, ∃ taken result rest,
      (kind.scheme.readSize marker).run.run source = (result, rest) ∧ source = taken ++ rest ∧
      (taken = [] ∨ kind.longMarker? taken.length = some marker) ∧
      (result = .ok none → taken = []) ∧
      ∀ fault, result = .error fault → fault.kind = .notEnoughBytes → taken = [] := by
  refine ⟨fun count => ⟨?_, write_of_le⟩, ?_, ?_, kind.run_readSize_takes⟩
  · rintro ⟨header, written⟩
    by_contra large
    rw [write_of_lt (Nat.lt_of_not_le large)] at written
    cases written
  · intro count header written
    refine ⟨fun buffer => ?_, header_of_write written, fun other announced => ?_⟩
    · rw [written]
      exact Packer.puts_header (.ok header) buffer
    · obtain ⟨shortest, same, short⟩ := announced.shortest (Nat.le_refl count)
      rw [written] at same
      cases same
      exact short
  · intro count header announced
    exact ⟨announced.run_readSize,
      fun levels rest => Value.Reader.value_header levels rest announced⟩

/-- Three hundred characters are announced in two bytes behind a marker of their own; four bytes
would do as well. One of the two bytes alone is left where it is. -/
theorem headers_told_apart_string :
    Composite.string.scheme.write 300 = .ok [0xD1, 1, 44] ∧
    (Packer.putHeader (Composite.string.scheme.write 300)).run.run #[0x93] =
      (.ok (), #[0x93, 0xD1, 1, 44]) ∧
    (Composite.string.scheme.readSize 0xD1).run.run [1, 44, 7] = (.ok (some 300), [7]) ∧
    (Composite.bytes.scheme.readSize 0xD1).run.run [1, 44, 7] = (.ok none, [1, 44, 7]) ∧
    (Composite.string.scheme.readSize 0xD1).run.run [1] = (.error (.notEnoughBytes 2 1), [1]) := by
  have written : Composite.string.scheme.write 300 = .ok [0xD1, 1, 44] := by decide
  obtain ⟨-, puts, reads, -⟩ := headers_told_apart .string
  obtain ⟨behind, announced, -⟩ := puts 300 _ written
  obtain ⟨⟨marker, tail, shape, -, own, foreign⟩, -⟩ := reads 300 _ announced
  cases shape
  exact ⟨written, behind #[0x93], own [7], foreign .bytes (by decide) [1, 44, 7], rfl⟩

end Composite
end BoltClient
