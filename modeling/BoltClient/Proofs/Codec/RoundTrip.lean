import BoltClient.Proofs.Codec.Emission
import BoltClient.Proofs.Codec.Scalar
import BoltClient.Proofs.Value.Arrangement

/-!
Packing and unpacking undo each other. A packed value is read back, whatever
follows it, exactly if it is nested no deeper than the reader allows; a deeper
one is refused for its depth. The induction is over the value: a reader with
`levels` levels hands `levels - 1` to the parts of a container, so each case
compares the depth of a part with the levels that are left for it.
-/

namespace BoltClient.Value

namespace Reader

/-- What is read when only the depth can be wrong. -/
def within {α : Type} (fits : Prop) [Decidable fits] (content : α) (rest : Bytes) :
    Except CodecFault (α × Bytes) :=
  if fits then .ok (content, rest) else .error (.nestedTooDeep maxDepth)

theorem within_of {α : Type} {fits : Prop} [Decidable fits] (holds : fits) (content : α)
    (rest : Bytes) : within fits content rest = .ok (content, rest) := if_pos holds

theorem within_congr {α : Type} {fits other : Prop} [Decidable fits] [Decidable other]
    (same : fits ↔ other) (content : α) (rest : Bytes) :
    within fits content rest = within other content rest := by
  simp only [within, same]

/-- Reading on behind a part needs the part to fit, then the rest. -/
theorem within_bind {α β : Type} {fits other : Prop} [Decidable fits] [Decidable other]
    {content : α} {rest : Bytes} {next : α × Bytes → Except CodecFault (β × Bytes)} {whole : β}
    {behind : Bytes} (goesOn : next (content, rest) = within other whole behind) :
    (within fits content rest >>= next) = within (fits ∧ other) whole behind := by
  by_cases here : fits
  · rw [within_of here]
    change next (content, rest) = _
    rw [goesOn]
    exact within_congr (by simp [here]) whole behind
  · simp only [within, here, false_and, if_false]
    rfl

theorem within_map {α β : Type} {fits : Prop} [Decidable fits] (whole : α → β) (content : α)
    (rest : Bytes) :
    (within fits content rest >>= fun found => Except.ok (whole found.1, found.2)) =
      within fits (whole content) rest := by
  by_cases here : fits
  · rw [within_of here, within_of here]
    rfl
  · simp only [within, here, if_false]
    rfl

/-- A value that encloses nothing is read at any level. -/
theorem value_of_flat {value : Value} {bytes : Bytes} (flat : value.depth = 0)
    (found : ∀ levels rest, Reader.value (levels + 1) (bytes ++ rest) = .ok (value, rest))
    (levels : Nat) (rest : Bytes) :
    Reader.value levels (bytes ++ rest) = within (value.depth < levels) value rest := by
  cases levels with
  | zero => rfl
  | succ levels =>
    rw [found, within_of]
    omega

/-- A container spends one level on itself. -/
theorem value_of_content (deepest : Nat) {kind : Composite} {count : Nat} {header body : Bytes}
    {value : Value} {levels : Nat} {rest : Bytes} (written : kind.scheme.write count = .ok header)
    (depth : value.depth = deepest)
    (inner : ∀ left, content (Reader.value left) kind count (body ++ rest) =
      within (deepest ≤ left) value rest) :
    Reader.value levels (header ++ body ++ rest) = within (value.depth < levels) value rest := by
  cases levels with
  | zero => rfl
  | succ left =>
    rw [List.append_assoc, value_header left _ (Composite.header_of_write written), inner]
    exact within_congr (by omega) value rest

theorem value_emitText {text : String} {bytes : Bytes} (packed : emitText text = .of bytes)
    (levels : Nat) (rest : Bytes) :
    Reader.value (levels + 1) (bytes ++ rest) = .ok (.string text, rest) := by
  obtain ⟨header, written, rfl⟩ := emitText_eq_of.1 packed
  rw [List.append_assoc, value_header levels _ (Composite.header_of_write written)]
  exact text_encode text rest

/-- A key is a text one level inside its map. -/
theorem key_emitText {name : String} {bytes : Bytes} (packed : emitText name = .of bytes)
    (levels : Nat) (rest : Bytes) :
    key (Reader.value levels) (bytes ++ rest) = within (0 < levels) name rest := by
  cases levels with
  | zero => rfl
  | succ levels =>
    rw [key, value_emitText packed]
    rfl

mutual

theorem value_emit : (value : Value) → value.DistinctKeys → ∀ {bytes : Bytes},
    value.emit = .of bytes → ∀ (levels : Nat) (rest : Bytes),
      Reader.value levels (bytes ++ rest) = within (value.depth < levels) value rest
  | null, _, _, packed => by
    cases packed
    exact value_of_flat rfl fun _ _ => rfl
  | boolean false, _, _, packed => by
    cases packed
    exact value_of_flat rfl fun _ _ => rfl
  | boolean true, _, _, packed => by
    cases packed
    exact value_of_flat rfl fun _ _ => rfl
  | .integer number, _, _, packed => by
    cases packed
    exact value_of_flat rfl (value_packInteger number)
  | .float number, _, _, packed => by
    cases packed
    exact value_of_flat rfl (value_float number)
  | .bytes content, _, _, packed => by
    obtain ⟨header, body, written, same, rfl⟩ := emitSized_eq_of.1 packed
    cases same
    refine value_of_flat rfl ?_
    intro levels rest
    rw [List.append_assoc, value_header levels _ (Composite.header_of_write written)]
    exact byteString_append content rest
  | string text, _, _, packed => value_of_flat rfl (value_emitText packed)
  | list parts, distinct, _, packed => by
    obtain ⟨header, body, written, inside, rfl⟩ := emitSized_eq_of.1 packed
    intro levels rest
    refine value_of_content (depthOfItems parts) written rfl ?_
    intro left
    change (items (Reader.value left) parts.length (body ++ rest) >>= fun found =>
      Except.ok (list found.1, found.2)) = _
    rw [items_emitItems parts distinct inside left rest, within_map]
  | map parts, distinct, _, packed => by
    obtain ⟨header, body, written, inside, rfl⟩ := emitSized_eq_of.1 packed
    intro levels rest
    refine value_of_content (depthOfEntries parts) written rfl ?_
    intro left
    change (entries (Reader.value left) parts.length [] (body ++ rest) >>= fun found =>
      Except.ok (map found.1, found.2)) = _
    rw [entries_emitEntries parts distinct.2 inside left rest [] distinct.1, within_map]
    rfl
  | struct signature fields, distinct, _, packed => by
    rw [emit] at packed
    obtain ⟨header, body, written, inside, rfl⟩ := Emission.andThen_eq_of.1 packed
    obtain ⟨announced, shortest, rfl⟩ := structHeader_eq_ok.1 (Emission.ofHeader_eq_of.1 written)
    intro levels rest
    rw [List.append_assoc announced]
    refine value_of_content (depthOfItems fields) shortest rfl ?_
    intro left
    change (items (Reader.value left) fields.length (body ++ rest) >>= fun found =>
      Except.ok (struct signature found.1, found.2)) = _
    rw [items_emitItems fields distinct inside left rest, within_map]
termination_by structural value => value

theorem items_emitItems : (parts : List Value) → DistinctKeysOfItems parts → ∀ {bytes : Bytes},
    emitItems parts = .of bytes → ∀ (levels : Nat) (rest : Bytes),
      items (Reader.value levels) parts.length (bytes ++ rest) =
        within (depthOfItems parts ≤ levels) parts rest
  | [], _, _, packed => by
    cases packed
    intro levels rest
    exact (within_of (Nat.zero_le levels) [] rest).symm
  | item :: others, distinct, _, packed => by
    obtain ⟨front, back, here, later, rfl⟩ := Emission.andThen_eq_of.1 packed
    intro levels rest
    rw [List.append_assoc, List.length_cons, items, value_emit item distinct.1 here]
    have goesOn : (items (Reader.value levels) others.length (back ++ rest) >>= fun found =>
        Except.ok (item :: found.1, found.2)) =
          within (depthOfItems others ≤ levels) (item :: others) rest := by
      rw [items_emitItems others distinct.2 later levels rest, within_map]
    refine (within_bind goesOn).trans (within_congr ?_ _ rest)
    rw [depthOfItems]
    omega
termination_by structural parts => parts

theorem entries_emitEntries : (parts : List (String × Value)) → DistinctKeysOfEntries parts →
    ∀ {bytes : Bytes}, emitEntries parts = .of bytes →
      ∀ (levels : Nat) (rest : Bytes) (collected : Entries Value),
        (collected ++ parts).keys.Nodup →
          entries (Reader.value levels) parts.length collected (bytes ++ rest) =
            within (depthOfEntries parts ≤ levels) (collected ++ parts) rest
  | [], _, _, packed => by
    cases packed
    intro levels rest collected _
    rw [List.append_nil]
    exact (within_of (Nat.zero_le levels) collected rest).symm
  | (name, item) :: others, distinct, _, packed => by
    obtain ⟨front, behind, here, afterKey, rfl⟩ := Emission.andThen_eq_of.1 packed
    obtain ⟨middle, back, inside, later, rfl⟩ := Emission.andThen_eq_of.1 afterKey
    intro levels rest collected unique
    have regrouped := Entries.append_cons_of_nodup unique
    rw [regrouped] at unique ⊢
    rw [List.append_assoc, List.append_assoc, List.length_cons, entries, key_emitText here]
    have valueThenOthers : (Reader.value levels (middle ++ (back ++ rest)) >>= fun found =>
        entries (Reader.value levels) others.length (collected.put name found.1) found.2) =
          within (item.depth < levels ∧ depthOfEntries others ≤ levels)
            (collected.put name item ++ others) rest := by
      rw [value_emit item distinct.1 inside]
      exact within_bind (entries_emitEntries others distinct.2 later levels rest _ unique)
    refine (within_bind valueThenOthers).trans (within_congr ?_ _ rest)
    rw [depthOfEntries]
    omega
termination_by structural parts => parts

end

end Reader

/-- A payload that is one packed value is read as that value. -/
theorem decodeExact_encode {value : Value} {bytes : Bytes} (distinct : value.DistinctKeys)
    (packed : value.encode = .ok bytes) (shallow : value.depth ≤ 512) :
    decodeExact bytes = .ok value := by
  have found := Reader.value_emit value distinct (encode_eq_ok.1 packed) (maxDepth + 1) []
  rw [List.append_nil] at found
  have answer : read bytes = .ok (value, []) :=
    found.trans (Reader.within_of (Nat.lt_succ_of_le shallow) value [])
  rw [decodeExact, answer]
  rfl

/-- What was packed is unpacked again, in whatever order its maps were walked and
whatever follows it; a value nested deeper than the limit is refused. -/
theorem decode_encode_append {value walked : Value} {bytes : Bytes} (distinct : value.DistinctKeys)
    (order : value.Reordered walked) (packed : walked.encode = .ok bytes) (rest : Bytes) :
    (value.depth ≤ 512 → decode (bytes ++ rest) = .ok (walked, bytes.length)) ∧
    (512 < value.depth →
      ∃ fault, decode (bytes ++ rest) = .error fault ∧ fault.kind = .incorrectValue) := by
  have found := Reader.value_emit walked (order.distinctKeys distinct) (encode_eq_ok.1 packed)
    (maxDepth + 1) rest
  rw [← order.depth_eq] at found
  constructor
  · intro shallow
    have answer : read (bytes ++ rest) = .ok (walked, rest) :=
      found.trans (Reader.within_of (Nat.lt_succ_of_le shallow) walked rest)
    have occupied : (bytes ++ rest).length - rest.length = bytes.length := by
      rw [List.length_append, Nat.add_sub_cancel]
    rw [decode, answer]
    exact congrArg (fun count => Except.ok (walked, count)) occupied
  · intro deep
    have beyond : ¬ value.depth < maxDepth + 1 := Nat.not_lt.2 deep
    have answer : read (bytes ++ rest) = .error (.nestedTooDeep maxDepth) :=
      found.trans (if_neg beyond)
    refine ⟨.nestedTooDeep maxDepth, ?_, rfl⟩
    rw [decode, answer]
    rfl

/-- A map whose second entry is walked first; the payload of its NaN survives. -/
theorem decode_encode_swapped :
    let number : Value := float ⟨0x7FF8000000000001⟩
    let items : Value := list [integer (-17), null]
    let bytes : Bytes :=
      [0xA2, 0x81, 0x62, 0x92, 0xC8, 0xEF, 0xC0, 0x81, 0x61, 0xC1, 0x7F, 0xF8, 0, 0, 0, 0, 0, 1]
    (map [("a", number), ("b", items)]).Reordered (map [("b", items), ("a", number)]) ∧
    (map [("b", items), ("a", number)]).encode = .ok bytes ∧
    decode (bytes ++ [0xA2]) = .ok (map [("b", items), ("a", number)], 18) := by
  intro number items bytes
  have order : (map [("a", number), ("b", items)]).Reordered (map [("b", items), ("a", number)]) :=
    .permuted (.swap ("b", items) ("a", number) [])
  have distinct : (map [("a", number), ("b", items)]).DistinctKeys := by
    simp [DistinctKeys, DistinctKeysOfEntries, DistinctKeysOfItems, Entries.keys, number, items]
  have packed : (map [("b", items), ("a", number)]).encode = .ok bytes := by rfl
  exact ⟨order, packed, (decode_encode_append distinct order packed [0xA2]).1 (by decide)⟩

end BoltClient.Value
