import BoltClient.Codec.Pack
import BoltClient.Proofs.Codec.Header
import BoltClient.Proofs.Text.Utf8

/-!
Scalars are read back as they were packed: integers in each of their five
forms, floating-point words bit by bit, and texts. A value is told by its first
byte, so each lemma says which branch of the reader that byte selects.
-/

namespace BoltClient.Value

namespace Reader

/-- The first byte of a value decides how the rest is read. -/
theorem value_cons (levels : Nat) (marker : UInt8) (input : Bytes) :
    value (levels + 1) (marker :: input) = afterMarker (value levels) marker input := rfl

theorem signed_signedBytes {width : Nat} {number : Int} (rest : Bytes)
    (low : -(Bytes.limit width : Int) ≤ 2 * number) (high : 2 * number < Bytes.limit width) :
    signed width (signedBytes width number ++ rest) = .ok (number, rest) := by
  have positive : (0 : Int) < Bytes.limit width := by omega
  have range := Int.emod_nonneg number (Int.ne_of_gt positive)
  have bound := Int.emod_lt_of_pos number positive
  have fits : (number % (Bytes.limit width : Nat)).toNat < Bytes.limit width := by omega
  have taken := HeaderScheme.take_append (signedBytes width number) rest
  rw [signedBytes, Bytes.length_ofNat] at taken
  have back : Int.bmod (Bytes.toNat (signedBytes width number)) (Bytes.limit width) = number := by
    rw [signedBytes, Bytes.toNat_ofNat fits, Int.toNat_of_nonneg range, Int.emod_bmod]
    exact Int.bmod_eq_of_le (by omega) (by omega)
  rw [signed, signedBytes, taken]
  exact congrArg (fun found => Except.ok (found, rest)) back

theorem integer_signedBytes {width : Nat} {number : Int} (rest : Bytes)
    (low : -(Bytes.limit width : Int) ≤ 2 * number) (high : 2 * number < Bytes.limit width) :
    integer width (signedBytes width number ++ rest) = .ok (.ofInt number, rest) := by
  rw [integer, signed_signedBytes rest low high]
  rfl

/-- Small integers are their own marker. -/
theorem afterMarker_small (read : Reader Value) (marker : UInt8) (rest : Bytes)
    (small : marker.toNat ≤ 0x7F ∨ 0xF0 ≤ marker.toNat) :
    afterMarker read marker rest = .ok (.ofInt (Int.bmod marker.toNat 256), rest) := by
  have other : ∀ fixed : UInt8, 0xC0 ≤ fixed.toNat → fixed.toNat ≤ 0xCB → marker ≠ fixed := by
    intro fixed low high same
    subst same
    omega
  have range : marker ≤ 0x7F ∨ 0xF0 ≤ marker := small
  unfold afterMarker
  rw [if_neg (other 0xC0 (by decide) (by decide)), if_neg (other 0xC1 (by decide) (by decide)),
    if_neg (other 0xC2 (by decide) (by decide)), if_neg (other 0xC3 (by decide) (by decide)),
    if_neg (other 0xC8 (by decide) (by decide)), if_neg (other 0xC9 (by decide) (by decide)),
    if_neg (other 0xCA (by decide) (by decide)), if_neg (other 0xCB (by decide) (by decide)),
    if_pos range]

/-- A marker that some kind of header claims leaves the scalars alone. -/
theorem afterMarker_of_claims (read : Reader Value) {kind : Composite} {marker : UInt8}
    (own : kind.scheme.claims marker = true) (input : Bytes) :
    afterMarker read marker input = (do
      match ← Composite.announced? marker input Composite.all with
      | some (kind, count, rest) => content read kind count rest
      | none => throw (.unknownMarker marker)) := by
  have range := Composite.range_of_claims own
  have other : ∀ fixed : UInt8, 0xC0 ≤ fixed.toNat → fixed.toNat ≤ 0xCB → marker ≠ fixed := by
    intro fixed low high same
    subst same
    omega
  have wide : ¬ (marker ≤ 0x7F ∨ 0xF0 ≤ marker) := by
    rw [UInt8.le_iff_toNat_le, UInt8.le_iff_toNat_le]
    simp only [UInt8.reduceToNat]
    omega
  unfold afterMarker
  rw [if_neg (other 0xC0 (by decide) (by decide)), if_neg (other 0xC1 (by decide) (by decide)),
    if_neg (other 0xC2 (by decide) (by decide)), if_neg (other 0xC3 (by decide) (by decide)),
    if_neg (other 0xC8 (by decide) (by decide)), if_neg (other 0xC9 (by decide) (by decide)),
    if_neg (other 0xCA (by decide) (by decide)), if_neg (other 0xCB (by decide) (by decide))]
  exact if_neg wide

/-- Behind a header the parts are read as its kind and count say. -/
theorem value_header {kind : Composite} {count : Nat} {header : Bytes} (levels : Nat) (rest : Bytes)
    (announced : kind.Header count header) :
    value (levels + 1) (header ++ rest) = content (value levels) kind count rest := by
  obtain ⟨marker, tail, rfl, own, found⟩ := announced.announced?_eq
  rw [List.cons_append, value_cons, afterMarker_of_claims _ own, found rest]
  rfl

/-- The one-byte form of an integer is its own marker. -/
theorem value_tiny {number : Int} (levels : Nat) (rest : Bytes)
    (tiny : -16 ≤ number ∧ number ≤ 127) :
    value (levels + 1) (signedBytes 1 number ++ rest) = .ok (.ofInt number, rest) := by
  have shape : signedBytes 1 number = [UInt8.ofNat (number % 256).toNat] := by
    simp [signedBytes, Bytes.ofNat, Bytes.limit]
  have marker : (UInt8.ofNat (number % 256).toNat).toNat = (number % 256).toNat :=
    Utf8.toNat_lead _ (by omega)
  have back : Int.bmod (number % 256).toNat 256 = number := by
    rw [Int.toNat_of_nonneg (by omega)]
    exact (Int.emod_bmod number 256).trans (Int.bmod_eq_of_le (by omega) (by omega))
  rw [shape, List.singleton_append, value_cons, afterMarker_small _ _ _ (by omega), marker, back]

/-- An integer is read back from whichever form it was packed in. -/
theorem value_packInteger (number : Int64) (levels : Nat) (rest : Bytes) :
    value (levels + 1) (packInteger number.toInt ++ rest) = .ok (.integer number, rest) := by
  have low := number.minValue_le_toInt
  have high := number.toInt_lt
  have whole : Value.ofInt number.toInt = .integer number := by
    rw [ofInt, Int64.ofInt_toInt]
  rw [Int64.toInt_minValue] at low
  generalize number.toInt = integer at low high whole
  rw [← whole]
  unfold packInteger
  split
  · next tiny => exact value_tiny levels rest tiny
  split
  · rw [List.cons_append, value_cons]
    change Reader.integer 1 (signedBytes 1 integer ++ rest) = _
    exact integer_signedBytes rest (by simp only [Bytes.limit]; omega)
      (by simp only [Bytes.limit]; omega)
  split
  · rw [List.cons_append, value_cons]
    change Reader.integer 2 (signedBytes 2 integer ++ rest) = _
    exact integer_signedBytes rest (by simp only [Bytes.limit]; omega)
      (by simp only [Bytes.limit]; omega)
  split
  · rw [List.cons_append, value_cons]
    change Reader.integer 4 (signedBytes 4 integer ++ rest) = _
    exact integer_signedBytes rest (by simp only [Bytes.limit]; omega)
      (by simp only [Bytes.limit]; omega)
  · rw [List.cons_append, value_cons]
    change Reader.integer 8 (signedBytes 8 integer ++ rest) = _
    exact integer_signedBytes rest (by simp only [Bytes.limit]; omega)
      (by simp only [Bytes.limit]; omega)

/-- A floating-point number is read back bit by bit. -/
theorem value_float (number : Double) (levels : Nat) (rest : Bytes) :
    value (levels + 1) (0xC1 :: Bytes.ofNat 8 number.bits.toNat ++ rest) =
      .ok (.float number, rest) := by
  have taken := HeaderScheme.take_append (Bytes.ofNat 8 number.bits.toNat) rest
  rw [Bytes.length_ofNat] at taken
  have fits : number.bits.toNat < Bytes.limit 8 := number.bits.toNat_lt
  have same : Double.ofWord (Bytes.toNat (Bytes.ofNat 8 number.bits.toNat)) = number := by
    rw [Bytes.toNat_ofNat fits, Double.ofWord, UInt64.ofNat_toNat]
  rw [List.cons_append, value_cons]
  change float (Bytes.ofNat 8 number.bits.toNat ++ rest) = _
  rw [float, taken]
  exact congrArg (fun found => Except.ok (Value.float found, rest)) same

/-- A text is read back from its bytes. -/
theorem text_encode (content : String) (rest : Bytes) :
    text (Utf8.encode content).length (Utf8.encode content ++ rest) =
      .ok (.string content, rest) := by
  rw [text, HeaderScheme.take_append]
  simp only [bind, Except.bind, Utf8.decode_encode]
  rfl

theorem byteString_append (content rest : Bytes) :
    byteString content.length (content ++ rest) = .ok (.bytes content, rest) := by
  rw [byteString, HeaderScheme.take_append]
  rfl

end Reader
end BoltClient.Value
