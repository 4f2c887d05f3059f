import Mathlib.Data.List.Flatten
import BoltClient.Proofs.Codec.Acceptance
import BoltClient.Proofs.Codec.RoundTrip

/-!
No way to pack a value is shorter than the encoder's. The grammar lets a count or an integer stand
in any width that holds it and lets a map repeat its keys, and the encoder takes the first width
that does and names each key once. So the encoding of a value is followed from its parts to the
whole, and what the encoder makes of each part has room in the bytes that encode it. A value that
was read has such an encoding, and is read again from the shorter one.
-/

namespace BoltClient

namespace HeaderScheme

/-- The first width that will do is no wider than any other that will. -/
theorem find?_narrowest {long : List (UInt8 × Nat)} {fits : UInt8 × Nat → Bool}
    {first entry : UInt8 × Nat} (ascending : long.Pairwise fun one other => one.2 ≤ other.2)
    (found : long.find? fits = some first) (member : entry ∈ long) (will : fits entry = true) :
    first.2 ≤ entry.2 := by
  induction long with
  | nil => cases member
  | cons head others ih =>
    obtain ⟨narrower, ascending⟩ := List.pairwise_cons.1 ascending
    by_cases here : fits head = true
    · rw [List.find?_cons_of_pos here] at found
      cases found
      rcases List.mem_cons.1 member with rfl | later
      · exact Nat.le_refl _
      · exact narrower entry later
    · rw [List.find?_cons_of_neg here] at found
      rcases List.mem_cons.1 member with rfl | later
      · exact absurd will here
      · exact ih ascending found later

end HeaderScheme

namespace Composite

open HeaderScheme

theorem widths_ascend (kind : Composite) :
    kind.scheme.long.Pairwise fun one other => one.2 ≤ other.2 := by
  cases kind <;> decide

/-- A header is written wherever a count that is no smaller has one, and is no longer. -/
theorem Header.shortest {kind : Composite} {count fewer : Nat} {header : Bytes}
    (announced : kind.Header count header) (less : fewer ≤ count) :
    ∃ shortest, kind.scheme.write fewer = .ok shortest ∧ shortest.length ≤ header.length := by
  cases announced with
  | @compact base own small =>
    have compact : kind.scheme.compact = some base := by cases kind <;> exact own
    refine ⟨[base + UInt8.ofNat fewer], ?_, Nat.le_refl 1⟩
    rw [write, compact]
    exact if_pos (Nat.le_trans less small)
  | @long width marker own fits bounded =>
    have entry := long_of_longMarker? own
    have room : fewer ≤ capacity width := by
      unfold capacity maxCount
      omega
    unfold write
    simp only
    generalize picked : List.find? _ kind.scheme.long = pick
    cases pick with
    | none => exact absurd (decide_eq_true room) (List.find?_eq_none.1 picked _ entry)
    | some first =>
      have narrower := find?_narrowest kind.widths_ascend picked entry (decide_eq_true room)
      have long : (first.1 :: Bytes.ofNat first.2 fewer).length ≤
          (marker :: Bytes.ofNat width count).length := by
        simp only [List.length_cons, Bytes.length_ofNat]
        exact Nat.succ_le_succ narrower
      split
      · next base _ =>
        by_cases small : fewer ≤ 15
        · exact ⟨[base + UInt8.ofNat fewer], if_pos small, Nat.succ_le_succ (Nat.zero_le _)⟩
        · exact ⟨_, if_neg small, long⟩
      · exact ⟨_, rfl, long⟩

end Composite

namespace Value

theorem length_packInteger (number : Int) : (packInteger number).length =
    if -16 ≤ number ∧ number ≤ 127 then 1
    else if -128 ≤ number ∧ number ≤ 127 then 2
    else if -0x8000 ≤ number ∧ number < 0x8000 then 3
    else if -0x80000000 ≤ number ∧ number < 0x80000000 then 5
    else 9 := by
  unfold packInteger
  split_ifs <;> simp only [signedBytes, List.length_cons, Bytes.length_ofNat]

/-- An integer takes no more bytes than in any width that holds it. -/
theorem length_packInteger_le {number : Int} {width : Nat} {marker : UInt8}
    (own : integerMarker? width = some marker)
    (fits : -(Bytes.limit width : Int) ≤ 2 * number ∧ 2 * number < Bytes.limit width) :
    (packInteger number).length ≤ width + 1 := by
  rw [length_packInteger]
  unfold integerMarker? at own
  -- The widths are 1, 2, 4 and 8, and each shuts out the branches that need more.
  split at own <;> cases own <;> simp only [Bytes.limit] at fits <;> split_ifs <;> omega

/-- That a proper value is packed in so many bytes at most and read under so many levels. -/
structure PacksIn (value : Value) (room levels : Nat) : Prop where
  distinct : value.DistinctKeys
  shallow : value.depth < levels
  packed : ∃ bytes, value.emit = .of bytes ∧ bytes.length ≤ room

/-- That proper values are packed one after the other in so many bytes at most. -/
structure PackInTurn (items : List Value) (room levels : Nat) : Prop where
  distinct : DistinctKeysOfItems items
  shallow : depthOfItems items ≤ levels
  packed : ∃ bytes, emitItems items = .of bytes ∧ bytes.length ≤ room

namespace PackInTurn

variable {items others : List Value} {room levels : Nat}

theorem mono (within : PackInTurn items room levels) {more higher : Nat} (wider : room ≤ more)
    (deeper : levels ≤ higher) : PackInTurn items more higher := by
  obtain ⟨distinct, shallow, bytes, packed, short⟩ := within
  exact ⟨distinct, Nat.le_trans shallow deeper, bytes, packed, Nat.le_trans short wider⟩

/-- Each of the parts has a room of its own. -/
theorem cons_iff {item : Value} : PackInTurn (item :: items) room levels ↔
    ∃ front back, item.PacksIn front levels ∧ PackInTurn items back levels ∧
      front + back ≤ room := by
  constructor
  · rintro ⟨distinct, shallow, bytes, packed, short⟩
    obtain ⟨front, back, here, later, rfl⟩ := Emission.andThen_eq_of.1 packed
    rw [depthOfItems] at shallow
    rw [List.length_append] at short
    have one : item.PacksIn front.length levels :=
      ⟨distinct.1, by omega, front, here, Nat.le_refl _⟩
    have rest : PackInTurn items back.length levels :=
      ⟨distinct.2, by omega, back, later, Nat.le_refl _⟩
    exact ⟨front.length, back.length, one, rest, short⟩
  · rintro ⟨front, back, one, rest, short⟩
    obtain ⟨bytes, here, narrow⟩ := one.packed
    obtain ⟨behind, later, narrower⟩ := rest.packed
    refine ⟨⟨one.distinct, rest.distinct⟩, ?_, bytes ++ behind, ?_, ?_⟩
    · rw [depthOfItems]
      exact Nat.max_le.2 ⟨one.shallow, rest.shallow⟩
    · exact Emission.andThen_eq_of.2 ⟨bytes, behind, here, later, rfl⟩
    · rw [List.length_append]
      omega

theorem perm (order : items.Perm others) :
    ∀ {room}, PackInTurn items room levels → PackInTurn others room levels := by
  induction order with
  | nil => exact id
  | cons item _ ih =>
    intro room within
    obtain ⟨front, back, one, rest, short⟩ := cons_iff.1 within
    exact cons_iff.2 ⟨front, back, one, ih rest, short⟩
  | swap first second others =>
    intro room within
    obtain ⟨front, back, one, within, short⟩ := cons_iff.1 within
    obtain ⟨middle, last, two, rest, shorter⟩ := cons_iff.1 within
    have swapped : PackInTurn (second :: others) (front + last) levels :=
      cons_iff.2 ⟨front, last, one, rest, Nat.le_refl _⟩
    exact cons_iff.2 ⟨middle, front + last, two, swapped, by omega⟩
  | trans _ _ one two => exact fun within => two (one within)

/-- Fewer parts need no more room. -/
theorem sublist (fewer : others.Sublist items) :
    ∀ {room}, PackInTurn items room levels → PackInTurn others room levels := by
  induction fewer with
  | slnil => exact id
  | cons item _ ih =>
    intro room within
    obtain ⟨front, back, -, rest, short⟩ := cons_iff.1 within
    exact (ih rest).mono (by omega) (Nat.le_refl _)
  | cons_cons item _ ih =>
    intro room within
    obtain ⟨front, back, one, rest, short⟩ := cons_iff.1 within
    exact cons_iff.2 ⟨front, back, one, ih rest, short⟩

end PackInTurn

section Pairs

/-- The entries of a map are packed like their keys and values in turn. -/
theorem emitItems_spellPairs (pairs : List (String × Value)) :
    emitItems (spellPairs pairs) = emitEntries pairs := by
  induction pairs with
  | nil => rfl
  | cons pair rest ih =>
    obtain ⟨key, item⟩ := pair
    calc
      emitItems (spellPairs ((key, item) :: rest)) = (emitText key).andThen fun _ =>
          item.emit.andThen fun _ => emitItems (spellPairs rest) := rfl
      _ = (emitText key).andThen fun _ => item.emit.andThen fun _ => emitEntries rest := by rw [ih]
      _ = emitEntries ((key, item) :: rest) := rfl

theorem distinctKeysOfItems_spellPairs (pairs : List (String × Value)) :
    DistinctKeysOfItems (spellPairs pairs) ↔ DistinctKeysOfEntries pairs := by
  induction pairs with
  | nil => exact Iff.rfl
  | cons pair rest ih =>
    obtain ⟨key, item⟩ := pair
    calc
      DistinctKeysOfItems (spellPairs ((key, item) :: rest)) ↔
          True ∧ item.DistinctKeys ∧ DistinctKeysOfItems (spellPairs rest) := Iff.rfl
      _ ↔ item.DistinctKeys ∧ DistinctKeysOfEntries rest := by rw [true_and, ih]

/-- A key is no deeper than the value behind it. -/
theorem depthOfItems_spellPairs (pairs : List (String × Value)) :
    depthOfItems (spellPairs pairs) = depthOfEntries pairs := by
  induction pairs with
  | nil => rfl
  | cons pair rest ih =>
    obtain ⟨key, item⟩ := pair
    calc
      depthOfItems (spellPairs ((key, item) :: rest)) =
          max (0 + 1) (max (item.depth + 1) (depthOfItems (spellPairs rest))) := rfl
      _ = max (item.depth + 1) (depthOfEntries rest) := by
        rw [ih]
        omega

end Pairs

section Containers

variable {kind : Composite} {count fewer room levels : Nat} {header : Bytes}

/-- A sized value with no more in it has room where its kind stood. -/
theorem emitSized_within (announced : kind.Header count header) (less : fewer ≤ count)
    (content : Unit → Emission) (inside : ∃ body, content () = .of body ∧ body.length ≤ room) :
    ∃ bytes, emitSized kind fewer content = .of bytes ∧ bytes.length ≤ header.length + room := by
  obtain ⟨shortest, written, shorter⟩ := announced.shortest less
  obtain ⟨body, done, short⟩ := inside
  refine ⟨shortest ++ body, emitSized_eq_of.2 ⟨shortest, body, written, done, rfl⟩, ?_⟩
  rw [List.length_append]
  exact Nat.add_le_add shorter short

theorem packsIn_list {items : List Value} (announced : Composite.list.Header items.length header)
    (inside : PackInTurn items room levels) :
    (list items).PacksIn (header.length + room) (levels + 1) :=
  ⟨inside.distinct, Nat.lt_succ_of_le inside.shallow,
    emitSized_within announced (Nat.le_refl _) _ inside.packed⟩

/-- A map needs no more room for its entries than for the pairs that came to them. -/
theorem packsIn_map {pairs entries : List (String × Value)}
    (announced : Composite.map.Header pairs.length header)
    (inside : PackInTurn (spellPairs pairs) room levels)
    (settles : Entries.Settles pairs entries) :
    (map entries).PacksIn (header.length + room) (levels + 1) := by
  -- The entries are some of the pairs, walked in an order of their own.
  obtain ⟨chosen, order, fewer⟩ := settles.subperm
  have kept : PackInTurn (spellPairs entries) room levels :=
    (inside.sublist (fewer.flatMap _)).perm (order.flatMap_right _)
  have less : entries.length ≤ pairs.length := List.Subperm.length_le settles.subperm
  have distinct := (distinctKeysOfItems_spellPairs entries).1 kept.distinct
  have shallow := kept.shallow
  have packed := kept.packed
  rw [depthOfItems_spellPairs] at shallow
  rw [emitItems_spellPairs] at packed
  exact ⟨⟨settles.distinct, distinct⟩, Nat.lt_succ_of_le shallow,
    emitSized_within announced less _ packed⟩

theorem packsIn_struct (signature : UInt8) {fields : List Value}
    (announced : Composite.struct.Header fields.length header)
    (inside : PackInTurn fields room levels) :
    (struct signature fields).PacksIn (header.length + (room + 1)) (levels + 1) := by
  refine ⟨inside.distinct, Nat.lt_succ_of_le inside.shallow, ?_⟩
  obtain ⟨shortest, written, shorter⟩ := announced.shortest (Nat.le_refl _)
  obtain ⟨body, done, short⟩ := inside.packed
  have front : structHeader signature fields.length = .ok (shortest ++ [signature]) :=
    structHeader_eq_ok.2 ⟨shortest, written, rfl⟩
  refine ⟨shortest ++ [signature] ++ body, ?_, ?_⟩
  · rw [emit, Emission.andThen_eq_of]
    exact ⟨_, body, Emission.ofHeader_eq_of.2 front, done, rfl⟩
  · simp only [List.length_append, List.length_singleton]
    omega

end Containers

mutual

/-- Whatever encodes a value, the encoder needs no more bytes for it. -/
theorem Encoding.packsIn : {value : Value} → {front : Bytes} → {depth : Nat} →
    value.Encoding front depth → value.PacksIn front.length (depth + 1)
  | _, _, _, .null => ⟨trivial, Nat.zero_lt_one, _, rfl, Nat.le_refl _⟩
  | _, _, _, .no => ⟨trivial, Nat.zero_lt_one, _, rfl, Nat.le_refl _⟩
  | _, _, _, .yes => ⟨trivial, Nat.zero_lt_one, _, rfl, Nat.le_refl _⟩
  | _, _, _, .float number => ⟨trivial, Nat.zero_lt_one, _, rfl, Nat.le_refl _⟩
  | _, _, _, .tiny number small => by
    have same : (packInteger number.toInt).length = (signedBytes 1 number.toInt).length := by
      rw [length_packInteger, if_pos small, signedBytes, Bytes.length_ofNat]
    exact ⟨trivial, Nat.zero_lt_one, packInteger number.toInt, rfl, Nat.le_of_eq same⟩
  | _, _, _, @Encoding.wide number width _ own fits => by
    refine ⟨trivial, Nat.zero_lt_one, packInteger number.toInt, rfl, ?_⟩
    rw [List.length_cons, signedBytes, Bytes.length_ofNat]
    exact length_packInteger_le own fits
  | _, _, _, .bytes content announced => by
    refine ⟨trivial, Nat.zero_lt_one, ?_⟩
    rw [List.length_append]
    exact emitSized_within announced (Nat.le_refl _) _ ⟨content, rfl, Nat.le_refl _⟩
  | _, _, _, .string text announced => by
    refine ⟨trivial, Nat.zero_lt_one, ?_⟩
    rw [List.length_append]
    exact emitSized_within announced (Nat.le_refl _) (fun _ => .of (Utf8.encode text))
      ⟨_, rfl, Nat.le_refl _⟩
  | _, _, _, .list items announced inside => by
    rw [List.length_append]
    exact packsIn_list announced inside.packInTurn
  | _, _, _, .map pairs entries announced inside settles => by
    rw [List.length_append]
    exact packsIn_map announced inside.packInTurn settles
  | _, _, _, .struct signature fields announced inside => by
    rw [List.length_append, List.length_cons]
    exact packsIn_struct signature announced inside.packInTurn

theorem Sequence.packInTurn : {items : List Value} → {body : Bytes} → {depth : Nat} →
    Sequence items body depth → PackInTurn items body.length depth
  | _, _, _, .nil => ⟨trivial, Nat.le_refl _, [], rfl, Nat.le_refl _⟩
  | _, _, _, @Sequence.cons _ _ _ _ depth deepest first rest => by
    obtain ⟨distinct, shallow, packed⟩ := first.packsIn
    have one : PacksIn _ _ (max (depth + 1) deepest) := ⟨distinct, by omega, packed⟩
    have others := rest.packInTurn.mono (Nat.le_refl _) (Nat.le_max_right (depth + 1) deepest)
    rw [List.length_append]
    exact PackInTurn.cons_iff.2 ⟨_, _, one, others, Nat.le_refl _⟩

end

/-- The bytes that the encoder emits are in the grammar. -/
theorem encoding_of_encode {value : Value} {bytes : Bytes} (distinct : value.DistinctKeys)
    (packed : value.encode = .ok bytes) : ∃ depth, value.Encoding bytes depth := by
  have read := Reader.value_emit value distinct (encode_eq_ok.1 packed) (value.depth + 1) []
  rw [Reader.within_of (Nat.lt_succ_self _)] at read
  obtain ⟨front, depth, shape, -, written⟩ := Reader.sound_value _ _ _ _ read
  obtain rfl := List.append_cancel_right shape
  exact ⟨depth, written⟩

/-- A value that was read is packed again in no more bytes than it was read from, whatever order its
maps are walked in, and is read from these as it was walked. So the encoder is never outdone: what it
emits encodes the value, and where anything else does, it emits something no longer. -/
theorem encode_shortest {value walked : Value} (order : value.Reordered walked) :
    (∀ input count, decode input = .ok (value, count) →
      ∃ bytes, walked.encode = .ok bytes ∧ bytes.length ≤ count ∧
        decode bytes = .ok (walked, bytes.length)) ∧
    (∀ bytes, value.DistinctKeys → walked.encode = .ok bytes →
      ∃ depth, value.Encoding bytes depth) ∧
    ∀ front depth, value.Encoding front depth →
      ∃ bytes, walked.encode = .ok bytes ∧ bytes.length ≤ front.length := by
  have packs : ∀ {front depth}, value.Encoding front depth →
      walked.PacksIn front.length (depth + 1) :=
    fun written => (order.symm.encoding written).packsIn
  refine ⟨?_, ?_, ?_⟩
  · intro input count decoded
    obtain ⟨within, depth, shallow, written⟩ := encoding_of_decode decoded (.refl value)
    obtain ⟨distinct, fits, bytes, packed, short⟩ := packs written
    rw [List.length_take, Nat.min_eq_left within] at short
    have enough : walked.depth < maxDepth + 1 := Nat.lt_of_lt_of_le fits (Nat.succ_le_succ shallow)
    have again := Reader.value_emit walked distinct packed (maxDepth + 1) []
    rw [Reader.within_of enough, List.append_nil] at again
    refine ⟨bytes, encode_eq_ok.2 packed, short, ?_⟩
    exact decode_eq_ok.2 ⟨bytes, [], (List.append_nil bytes).symm, rfl, again⟩
  · intro bytes distinct packed
    obtain ⟨depth, written⟩ := encoding_of_encode (order.distinctKeys distinct) packed
    exact ⟨depth, order.encoding written⟩
  · intro front depth written
    obtain ⟨bytes, packed, short⟩ := (packs written).packed
    exact ⟨bytes, encode_eq_ok.2 packed, short⟩

/-- A map that repeats a key, with counts in wider headers than they need. -/
theorem encode_shortest_repeated :
    let input : Bytes := [0xD9, 0, 2, 0xD0, 1, 0x61, 0xC0, 0x81, 0x61, 0xD5, 0, 1, 0xC3]
    let value : Value := map [("a", list [boolean true])]
    decode input = .ok (value, 13) ∧
    ∃ bytes, value.encode = .ok bytes ∧ bytes.length ≤ 13 ∧
      decode bytes = .ok (value, bytes.length) := by
  intro input value
  have decoded : decode input = .ok (value, 13) := by rfl
  exact ⟨decoded, (encode_shortest (.refl value)).1 input 13 decoded⟩

end Value
end BoltClient
