import BoltClient.Proofs.Codec.Header
import BoltClient.Proofs.Codec.Scalar

/-!
What the reader answers is a value that the grammar allows for the bytes it took. The induction is
over the levels: the parts of a container are read with one level less, and a part that fits
into them is one level deeper inside the container.
-/

namespace BoltClient.Value

/-- The two's complement of a number is read from nothing but its own bytes. -/
theorem signedBytes_bmod (raw : Bytes) :
    signedBytes raw.length (Int.bmod (Bytes.toNat raw) (Bytes.limit raw.length)) = raw := by
  have bound := Bytes.toNat_lt raw
  have least : (Bytes.toNat raw : Int) % (Bytes.limit raw.length : Nat) = Bytes.toNat raw :=
    Int.emod_eq_of_lt (Int.natCast_nonneg _) (Int.ofNat_lt.2 bound)
  rw [signedBytes, Int.bmod_emod, least, Int.toNat_natCast, Bytes.ofNat_toNat]

private theorem even_limit {width : Nat} {marker : UInt8}
    (own : integerMarker? width = some marker) :
    Bytes.limit width % 2 = 0 ∧ Bytes.limit width ≤ UInt64.size := by
  unfold integerMarker? at own
  split at own
  case h_5 => cases own
  all_goals decide

/-- A number of a width that integers have lies in the range of that width and is not cut. -/
theorem bmod_within (number : Int) {width : Nat} {marker : UInt8}
    (own : integerMarker? width = some marker) :
    (-(Bytes.limit width : Int) ≤ 2 * Int.bmod number (Bytes.limit width) ∧
      2 * Int.bmod number (Bytes.limit width) < Bytes.limit width) ∧
    (Int64.ofInt (Int.bmod number (Bytes.limit width))).toInt =
      Int.bmod number (Bytes.limit width) := by
  obtain ⟨even, most⟩ := even_limit own
  have positive := Bytes.limit_pos width
  have low := Int.le_bmod (x := number) positive
  have high := Int.bmod_lt (x := number) positive
  rw [UInt64.size] at most
  refine ⟨by omega, ?_⟩
  apply Int64.toInt_ofInt_of_le <;> omega

namespace Reader

theorem ok_of_bind {α β : Type} {found : Except CodecFault α} {next : α → Except CodecFault β}
    {result : β} (done : (found >>= next) = .ok result) :
    ∃ inner, found = .ok inner ∧ next inner = .ok result := by
  cases found with
  | error fault => cases done
  | ok inner => exact ⟨inner, rfl, done⟩

/-- What is taken off the front stands at the front. -/
theorem ok_of_take_bind {α : Type} {count : Nat} {input : Bytes}
    {next : Bytes × Bytes → Except CodecFault α} {result : α}
    (done : (HeaderScheme.take count input >>= next) = .ok result) :
    ∃ raw rest, input = raw ++ rest ∧ raw.length = count ∧ next (raw, rest) = .ok result := by
  obtain ⟨⟨raw, rest⟩, taken, done⟩ := ok_of_bind done
  obtain ⟨shape, length⟩ := HeaderScheme.eq_append_of_take taken
  exact ⟨raw, rest, shape, length, done⟩

/-- That what is read fits into `levels` levels and is encoded by the bytes taken for it. -/
def Sound (levels : Nat) (read : Reader Value) : Prop :=
  ∀ input value rest, read input = .ok (value, rest) →
    ∃ front depth, input = front ++ rest ∧ depth < levels ∧ Encoding value front depth

theorem encoding_of_float {input rest : Bytes} {value : Value}
    (read : float input = .ok (value, rest)) :
    ∃ front, input = front ++ rest ∧ Encoding value (0xC1 :: front) 0 := by
  obtain ⟨raw, rest, rfl, length, done⟩ := ok_of_take_bind read
  cases done
  have bound := Bytes.toNat_lt raw
  rw [length] at bound
  have word : (UInt64.ofNat (Bytes.toNat raw)).toNat = Bytes.toNat raw :=
    UInt64.toNat_ofNat_of_lt bound
  have written := Encoding.float (Double.ofWord (Bytes.toNat raw))
  rw [Double.ofWord, word, ← length, Bytes.ofNat_toNat] at written
  exact ⟨raw, rfl, written⟩

theorem encoding_of_integer {width : Nat} {marker : UInt8} {input rest : Bytes} {value : Value}
    (own : integerMarker? width = some marker) (read : integer width input = .ok (value, rest)) :
    ∃ front, input = front ++ rest ∧ Encoding value (marker :: front) 0 := by
  obtain ⟨⟨number, behind⟩, found, done⟩ := ok_of_bind read
  obtain ⟨raw, left, rfl, rfl, signed⟩ := ok_of_take_bind found
  cases signed
  cases done
  obtain ⟨range, same⟩ := bmod_within (Bytes.toNat raw) own
  have written := Encoding.wide (Int64.ofInt (Int.bmod (Bytes.toNat raw) (Bytes.limit raw.length)))
    own (by rw [same]; exact range)
  rw [same, signedBytes_bmod] at written
  exact ⟨raw, rfl, written⟩

theorem encoding_of_small {marker : UInt8} (small : marker ≤ 0x7F ∨ 0xF0 ≤ marker) :
    Encoding (.ofInt (Int.bmod marker.toNat 256)) [marker] 0 := by
  have own : integerMarker? 1 = some 0xC8 := rfl
  have bound := marker.toNat_lt
  have range : -16 ≤ Int.bmod marker.toNat 256 ∧ Int.bmod marker.toNat 256 ≤ 127 := by
    rw [UInt8.le_iff_toNat_le, UInt8.le_iff_toNat_le] at small
    simp only [UInt8.reduceToNat] at small
    rw [Int.bmod_def, Int.emod_eq_of_lt (by omega) (by omega)]
    split <;> omega
  have whole : Bytes.toNat [marker] = marker.toNat := by simp [Bytes.toNat]
  have raw : signedBytes 1 (Int.bmod marker.toNat 256) = [marker] := by
    rw [← whole]
    exact signedBytes_bmod [marker]
  have same : (Int64.ofInt (Int.bmod marker.toNat 256)).toInt = Int.bmod marker.toNat 256 :=
    (bmod_within marker.toNat own).2
  have written := Encoding.tiny (.ofInt (Int.bmod marker.toNat 256))
  rw [same, raw] at written
  exact written range

/-- Parts that are read one after the other are encoded one after the other. -/
theorem Sound.items {levels : Nat} {read : Reader Value} (sound : Sound levels read)
    {count : Nat} {input rest : Bytes} {parts : List Value}
    (found : items read count input = .ok (parts, rest)) :
    ∃ body depth, input = body ++ rest ∧ parts.length = count ∧ depth ≤ levels ∧
      Sequence parts body depth := by
  induction count generalizing input parts with
  | zero =>
    cases found
    exact ⟨[], 0, rfl, rfl, Nat.zero_le _, .nil⟩
  | succ count ih =>
    obtain ⟨⟨item, behind⟩, first, more⟩ := ok_of_bind found
    obtain ⟨⟨others, last⟩, later, done⟩ := ok_of_bind more
    cases done
    obtain ⟨front, depth, rfl, fits, written⟩ := sound _ _ _ first
    obtain ⟨body, deepest, rfl, rfl, within, sequence⟩ := ih later
    refine ⟨front ++ body, max (depth + 1) deepest, ?_, rfl, ?_, .cons written sequence⟩
    · rw [List.append_assoc]
    · omega

theorem items_succ_eq_ok {read : Reader Value} {count : Nat} {input rest : Bytes} {item : Value}
    {others : List Value} :
    items read (count + 1) input = .ok (item :: others, rest) ↔
      ∃ behind, read input = .ok (item, behind) ∧ items read count behind = .ok (others, rest) := by
  constructor
  · intro found
    obtain ⟨⟨first, behind⟩, here, more⟩ := ok_of_bind found
    obtain ⟨⟨later, last⟩, there, done⟩ := ok_of_bind more
    cases done
    exact ⟨behind, here, there⟩
  · rintro ⟨behind, here, there⟩
    simp only [items, here, there, bind, Except.bind]
    rfl

theorem key_eq_ok {read : Reader Value} {input rest : Bytes} {name : String} :
    key read input = .ok (name, rest) ↔ read input = .ok (.string name, rest) := by
  constructor
  · intro found
    obtain ⟨first, here, done⟩ := ok_of_bind found
    split at done <;> cases done
    exact here
  · intro here
    simp only [key, here, bind, Except.bind]
    rfl

theorem entries_succ_eq_ok {read : Reader Value} {count : Nat} {collected : Entries Value}
    {input : Bytes} {result : Entries Value × Bytes} :
    entries read (count + 1) collected input = .ok result ↔
      ∃ name between item behind, read input = .ok (.string name, between) ∧
        read between = .ok (item, behind) ∧
        entries read count (collected.put name item) behind = .ok result := by
  constructor
  · intro found
    obtain ⟨⟨name, between⟩, here, more⟩ := ok_of_bind found
    obtain ⟨⟨item, behind⟩, there, done⟩ := ok_of_bind more
    exact ⟨name, between, item, behind, key_eq_ok.1 here, there, done⟩
  · rintro ⟨name, between, item, behind, here, there, done⟩
    simp only [entries, key_eq_ok.2 here, there, bind, Except.bind]
    exact done

/-- Entries are read as pairs of values, each key being a text, and put one after the other. -/
theorem entries_eq_ok {read : Reader Value} {count : Nat} {collected found : Entries Value}
    {input rest : Bytes} :
    entries read count collected input = .ok (found, rest) ↔
      ∃ pairs : List (String × Value), pairs.length = count ∧
        items read (spellPairs pairs).length input = .ok (spellPairs pairs, rest) ∧
        found = pairs.foldl (fun entries (key, value) => entries.put key value) collected := by
  induction count generalizing collected input with
  | zero =>
    constructor
    · intro done
      cases done
      exact ⟨[], rfl, rfl, rfl⟩
    · rintro ⟨pairs, none, done, rfl⟩
      obtain rfl := List.length_eq_zero_iff.1 none
      cases done
      rfl
  | succ count ih =>
    rw [entries_succ_eq_ok]
    constructor
    · rintro ⟨name, between, item, behind, here, there, more⟩
      obtain ⟨pairs, rfl, done, rfl⟩ := ih.1 more
      refine ⟨(name, item) :: pairs, rfl, ?_, rfl⟩
      exact items_succ_eq_ok.2 ⟨between, here, items_succ_eq_ok.2 ⟨behind, there, done⟩⟩
    · rintro ⟨_ | ⟨⟨name, item⟩, pairs⟩, length, done, rfl⟩
      · cases length
      · obtain ⟨between, here, more⟩ := items_succ_eq_ok.1 done
        obtain ⟨behind, there, last⟩ := items_succ_eq_ok.1 more
        exact ⟨name, between, item, behind, here, there,
          ih.2 ⟨pairs, Nat.succ.inj length, last, rfl⟩⟩

/-- What an announced kind and count are read as is encoded behind any header for them. -/
theorem Sound.content {levels : Nat} {read : Reader Value} (sound : Sound levels read)
    {kind : Composite} {count : Nat} {input rest : Bytes} {value : Value}
    (found : content read kind count input = .ok (value, rest)) :
    ∃ body depth, input = body ++ rest ∧ depth ≤ levels ∧
      ∀ header, kind.Header count header → Encoding value (header ++ body) depth := by
  cases kind with
  | bytes =>
    obtain ⟨raw, left, rfl, rfl, done⟩ := ok_of_take_bind found
    cases done
    exact ⟨raw, 0, rfl, Nat.zero_le _, fun header announced => .bytes raw announced⟩
  | string =>
    obtain ⟨raw, left, rfl, rfl, done⟩ := ok_of_take_bind found
    simp only at done
    split at done
    · next text decoded =>
      cases done
      obtain rfl := Utf8.encode_of_decode decoded
      exact ⟨_, 0, rfl, Nat.zero_le _, fun header announced => .string text announced⟩
    · cases done
  | list =>
    obtain ⟨⟨parts, left⟩, inner, done⟩ := ok_of_bind found
    cases done
    obtain ⟨body, depth, rfl, rfl, fits, sequence⟩ := sound.items inner
    exact ⟨body, depth, rfl, fits, fun header announced => .list parts announced sequence⟩
  | map =>
    obtain ⟨⟨parts, left⟩, inner, done⟩ := ok_of_bind found
    cases done
    obtain ⟨pairs, rfl, spelt, rfl⟩ := entries_eq_ok.1 inner
    obtain ⟨body, depth, rfl, -, fits, sequence⟩ := sound.items spelt
    have settles := Entries.settles_ofPairs pairs
    exact ⟨body, depth, rfl, fits, fun header announced => .map pairs _ announced sequence settles⟩
  | struct =>
    obtain ⟨raw, behind, rfl, length, more⟩ := ok_of_take_bind found
    obtain ⟨signature, rfl⟩ := List.length_eq_one_iff.1 length
    obtain ⟨⟨parts, left⟩, inner, done⟩ := ok_of_bind more
    cases done
    obtain ⟨body, depth, rfl, rfl, fits, sequence⟩ := sound.items inner
    exact ⟨signature :: body, depth, rfl, fits,
      fun header announced => .struct signature parts announced sequence⟩

/-- What stands behind a marker is encoded together with it. -/
theorem Sound.afterMarker {levels : Nat} {read : Reader Value} (sound : Sound levels read)
    {marker : UInt8} {input rest : Bytes} {value : Value}
    (found : afterMarker read marker input = .ok (value, rest)) :
    ∃ front depth, input = front ++ rest ∧ depth ≤ levels ∧
      Encoding value (marker :: front) depth := by
  have scalar : (∃ front, input = front ++ rest ∧ Encoding value (marker :: front) 0) →
      ∃ front depth, input = front ++ rest ∧ depth ≤ levels ∧
        Encoding value (marker :: front) depth := by
    rintro ⟨front, shape, written⟩
    exact ⟨front, 0, shape, Nat.zero_le _, written⟩
  unfold Reader.afterMarker at found
  split at found
  · next same =>
    cases found
    exact scalar ⟨[], rfl, same ▸ .null⟩
  split at found
  · next same => exact scalar (same ▸ encoding_of_float found)
  split at found
  · next same =>
    cases found
    exact scalar ⟨[], rfl, same ▸ .no⟩
  split at found
  · next same =>
    cases found
    exact scalar ⟨[], rfl, same ▸ .yes⟩
  split at found
  · next same => exact scalar (encoding_of_integer (same ▸ rfl) found)
  split at found
  · next same => exact scalar (encoding_of_integer (same ▸ rfl) found)
  split at found
  · next same => exact scalar (encoding_of_integer (same ▸ rfl) found)
  split at found
  · next same => exact scalar (encoding_of_integer (same ▸ rfl) found)
  split at found
  · next small =>
    cases found
    exact scalar ⟨[], rfl, encoding_of_small small⟩
  · obtain ⟨announced, header, done⟩ := ok_of_bind found
    split at done
    · next kind count behind =>
      obtain ⟨tail, rfl, own⟩ := Composite.header_of_announced? header
      obtain ⟨body, depth, rfl, fits, written⟩ := sound.content done
      exact ⟨tail ++ body, depth, (List.append_assoc ..).symm, fits, written _ own⟩
    · cases done

/-- What is read fits into the levels and is encoded by the bytes taken for it. -/
theorem sound_value (levels : Nat) : Sound levels (value levels) := by
  induction levels with
  | zero =>
    intro input value rest found
    cases found
  | succ levels ih =>
    intro input value rest found
    obtain ⟨raw, behind, rfl, length, done⟩ := ok_of_take_bind found
    obtain ⟨marker, rfl⟩ := List.length_eq_one_iff.1 length
    obtain ⟨front, depth, rfl, fits, written⟩ := Sound.afterMarker ih done
    exact ⟨marker :: front, depth, rfl, Nat.lt_succ_of_le fits, written⟩

end Reader
end BoltClient.Value
