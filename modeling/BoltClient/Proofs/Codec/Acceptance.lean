import BoltClient.Proofs.Codec.Soundness
import BoltClient.Proofs.Value.Arrangement

/-!
The decoder accepts what the grammar allows, in whichever widths and orders it is packed, and
refuses everything else. A map is read with its entries in the order in which they come, so an
encoding of a value is read as that value but for the order of its maps; and the grammar, which
does not see that order, allows the same bytes for both.
-/

namespace BoltClient.Value

/-- That bytes are read as a value, but for the order of its maps, wherever it fits. -/
def Reads (value : Value) (front : Bytes) (depth : Nat) : Prop :=
  ∃ found, value.Reordered found ∧ ∀ levels rest, depth < levels →
    Reader.value levels (front ++ rest) = .ok (found, rest)

/-- That bytes are read as values one after the other, wherever they fit. -/
def ReadsInTurn (items : List Value) (body : Bytes) (depth : Nat) : Prop :=
  ∃ found, List.Forall₂ Reordered items found ∧ ∀ levels rest, depth ≤ levels →
    Reader.items (Reader.value levels) items.length (body ++ rest) = .ok (found, rest)

theorem reads_of_scalar {value : Value} {front : Bytes}
    (found : ∀ levels rest, Reader.value (levels + 1) (front ++ rest) = .ok (value, rest)) :
    Reads value front 0 := by
  refine ⟨value, .refl value, ?_⟩
  intro levels rest fits
  obtain ⟨left, rfl⟩ := Nat.exists_eq_add_one_of_ne_zero (Nat.ne_of_gt fits)
  exact found left rest

/-- Behind a header a container is read as its parts are. -/
theorem reads_of_content {kind : Composite} {count depth : Nat} {header body : Bytes}
    {value found : Value} (announced : kind.Header count header) (order : value.Reordered found)
    (inner : ∀ levels rest, depth ≤ levels →
      Reader.content (Reader.value levels) kind count (body ++ rest) = .ok (found, rest)) :
    Reads value (header ++ body) depth := by
  refine ⟨found, order, ?_⟩
  intro levels rest fits
  cases levels with
  | zero => exact absurd fits (Nat.not_lt_zero _)
  | succ left =>
    rw [List.append_assoc, Reader.value_header left _ announced]
    exact inner left rest (Nat.le_of_lt_succ fits)

theorem reads_wide (number : Int64) {width : Nat} {marker : UInt8}
    (own : integerMarker? width = some marker)
    (fits : -(Bytes.limit width : Int) ≤ 2 * number.toInt ∧
      2 * number.toInt < Bytes.limit width) :
    Reads (integer number) (marker :: signedBytes width number.toInt) 0 := by
  refine reads_of_scalar ?_
  intro levels rest
  have chosen : Reader.afterMarker (Reader.value levels) marker
      (signedBytes width number.toInt ++ rest) =
        Reader.integer width (signedBytes width number.toInt ++ rest) := by
    unfold integerMarker? at own
    split at own <;> cases own <;> rfl
  rw [List.cons_append, Reader.value_cons, chosen, Reader.integer_signedBytes rest fits.1 fits.2,
    ofInt, Int64.ofInt_toInt]

theorem readsInTurn_cons {item : Value} {items : List Value} {front back : Bytes}
    {depth deepest : Nat} (first : Reads item front depth) (rest : ReadsInTurn items back deepest) :
    ReadsInTurn (item :: items) (front ++ back) (max (depth + 1) deepest) := by
  obtain ⟨found, order, here⟩ := first
  obtain ⟨others, orders, later⟩ := rest
  refine ⟨found :: others, .cons order orders, ?_⟩
  intro levels behind fits
  have lower : depth < levels := by omega
  have deeper : deepest ≤ levels := by omega
  rw [List.append_assoc, List.length_cons, Reader.items_succ_eq_ok]
  exact ⟨back ++ behind, here levels (back ++ behind) lower, later levels behind deeper⟩

/-- Spelt pairs are read as spelt pairs, since a text is read as itself. -/
theorem forall₂_of_spellPairs {pairs : List (String × Value)} {found : List Value}
    (order : List.Forall₂ Reordered (spellPairs pairs) found) :
    ∃ others, found = spellPairs others ∧ List.Forall₂ EntryReordered pairs others := by
  induction pairs generalizing found with
  | nil =>
    cases order
    exact ⟨[], rfl, .nil⟩
  | cons pair pairs ih =>
    obtain ⟨key, item⟩ := pair
    obtain _ | ⟨name, _ | ⟨inner, later⟩⟩ := order
    obtain rfl := name.eq_of_mapless trivial
    obtain ⟨others, rfl, orders⟩ := ih later
    exact ⟨(key, _) :: others, rfl, .cons ⟨rfl, inner⟩ orders⟩

theorem reads_map {pairs entries : List (String × Value)} {header body : Bytes} {depth : Nat}
    (announced : Composite.map.Header pairs.length header)
    (inside : ReadsInTurn (spellPairs pairs) body depth)
    (settles : Entries.Settles pairs entries) : Reads (map entries) (header ++ body) depth := by
  obtain ⟨found, order, read⟩ := inside
  obtain ⟨others, rfl, orders⟩ := forall₂_of_spellPairs order
  have walked : (map entries).Reordered (map (Entries.ofPairs others)) :=
    .trans (.permuted (settles.perm (Entries.settles_ofPairs pairs)))
      (.map_of_forall₂ (forall₂_ofPairs orders) [])
  refine reads_of_content announced walked ?_
  intro levels rest fits
  have spelt := read levels rest fits
  rw [order.length_eq] at spelt
  have put : Reader.entries (Reader.value levels) pairs.length [] (body ++ rest) =
      .ok (Entries.ofPairs others, rest) :=
    Reader.entries_eq_ok.2 ⟨others, orders.length_eq.symm, spelt, rfl⟩
  rw [Reader.content, put]
  rfl

mutual

/-- An encoding is read as the value that it encodes, wherever it fits. -/
theorem Encoding.reads : {value : Value} → {front : Bytes} → {depth : Nat} →
    value.Encoding front depth → Reads value front depth
  | _, _, _, .null => reads_of_scalar fun _ _ => rfl
  | _, _, _, .no => reads_of_scalar fun _ _ => rfl
  | _, _, _, .yes => reads_of_scalar fun _ _ => rfl
  | _, _, _, .float number => reads_of_scalar (Reader.value_float number)
  | _, _, _, .tiny number small => by
    refine reads_of_scalar ?_
    intro levels rest
    rw [Reader.value_tiny levels rest small, ofInt, Int64.ofInt_toInt]
  | _, _, _, .wide number own fits => reads_wide number own fits
  | _, _, _, .bytes content announced =>
    reads_of_content announced (.refl _) fun _ rest _ => Reader.byteString_append content rest
  | _, _, _, .string text announced =>
    reads_of_content announced (.refl _) fun _ rest _ => Reader.text_encode text rest
  | _, _, _, .list items announced inside => by
    obtain ⟨found, order, read⟩ := inside.reads
    refine reads_of_content announced (.list_of_forall₂ order []) ?_
    intro levels rest fits
    rw [Reader.content, read levels rest fits]
    rfl
  | _, _, _, .map pairs entries announced inside settles =>
    reads_map announced inside.reads settles
  | _, _, _, .struct signature fields announced inside => by
    obtain ⟨found, order, read⟩ := inside.reads
    refine reads_of_content announced (.struct_of_forall₂ signature order []) ?_
    intro levels rest fits
    change (Reader.items (Reader.value levels) fields.length (_ ++ rest) >>= fun parts =>
      Except.ok (struct signature parts.1, parts.2)) = _
    rw [read levels rest fits]
    rfl

theorem Sequence.reads : {items : List Value} → {body : Bytes} → {depth : Nat} →
    Sequence items body depth → ReadsInTurn items body depth
  | _, _, _, .nil => ⟨[], .nil, fun _ _ _ => rfl⟩
  | _, _, _, .cons first rest => readsInTurn_cons first.reads rest.reads

end

/-- A part may be exchanged for another one that its bytes encode as well. -/
theorem Sequence.exchange {item other : Value}
    (same : ∀ {front depth}, Encoding other front depth → Encoding item front depth)
    (before : List Value) {after : List Value} {body : Bytes} {depth : Nat}
    (sequence : Sequence (before ++ other :: after) body depth) :
    Sequence (before ++ item :: after) body depth := by
  induction before generalizing body depth with
  | nil =>
    cases sequence with
    | cons first rest => exact .cons (same first) rest
  | cons part before ih =>
    cases sequence with
    | cons first rest => exact .cons first (ih rest)

theorem spellPairs_append (first second : List (String × Value)) :
    spellPairs (first ++ second) = spellPairs first ++ spellPairs second := List.flatMap_append

/-- The grammar does not see the order of maps. -/
theorem Reordered.encoding {value found : Value} (order : value.Reordered found) :
    ∀ {front : Bytes} {depth : Nat}, found.Encoding front depth → value.Encoding front depth := by
  induction order with
  | refl => exact id
  | trans _ _ one two => exact fun written => one (two written)
  | permuted order =>
    intro front depth written
    cases written with
    | map pairs _ announced inside settles =>
      refine .map pairs _ announced inside ⟨?_, ?_⟩
      · exact (order.map Prod.fst).nodup_iff.2 settles.distinct
      · intro key value
        rw [order.mem_iff, settles.last]
  | inList before after _ ih =>
    intro front depth written
    cases written with
    | list _ announced inside =>
      rw [List.length_append, List.length_cons] at announced
      refine .list _ ?_ (inside.exchange ih before)
      rw [List.length_append, List.length_cons]
      exact announced
  | inMap before after key _ ih =>
    intro front depth written
    cases written with
    | map pairs _ announced inside settles =>
      have found := (settles.last key _).1 (List.mem_append_right _ List.mem_cons_self)
      obtain ⟨first, last, rfl, none⟩ := Entries.split_of_last? found
      refine .map (first ++ (key, _) :: last) _ ?_ ?_ (settles.exchange none)
      · rw [List.length_append, List.length_cons] at announced ⊢
        exact announced
      · rw [spellPairs_append] at inside ⊢
        change Sequence (spellPairs first ++ .string key :: _ :: spellPairs last) _ _ at inside ⊢
        rw [List.append_cons] at inside ⊢
        exact inside.exchange ih _
  | inStruct signature before after _ ih =>
    intro front depth written
    cases written with
    | struct _ _ announced inside =>
      rw [List.length_append, List.length_cons] at announced
      refine .struct signature _ ?_ (inside.exchange ih before)
      rw [List.length_append, List.length_cons]
      exact announced

theorem decode_eq_ok {input : Bytes} {value : Value} {count : Nat} :
    decode input = .ok (value, count) ↔
      ∃ front rest, input = front ++ rest ∧ front.length = count ∧
        read input = .ok (value, rest) := by
  constructor
  · intro found
    obtain ⟨⟨walked, rest⟩, done, same⟩ := Reader.ok_of_bind found
    cases same
    obtain ⟨front, depth, rfl, -, -⟩ := Reader.sound_value _ _ _ _ done
    refine ⟨front, rest, rfl, ?_, done⟩
    rw [List.length_append, Nat.add_sub_cancel]
  · rintro ⟨front, rest, rfl, rfl, done⟩
    have occupied : (front ++ rest).length - rest.length = front.length := by
      rw [List.length_append, Nat.add_sub_cancel]
    rw [decode, done]
    exact congrArg (fun count => Except.ok (value, count)) occupied

/-- The bytes that a value is read from encode it. -/
theorem encoding_of_decode {input : Bytes} {value found : Value} {count : Nat}
    (decoded : decode input = .ok (found, count)) (order : value.Reordered found) :
    count ≤ input.length ∧ ∃ depth ≤ 512, value.Encoding (input.take count) depth := by
  obtain ⟨front, rest, rfl, rfl, done⟩ := decode_eq_ok.1 decoded
  obtain ⟨taken, depth, shape, fits, written⟩ := Reader.sound_value _ _ _ _ done
  obtain rfl := List.append_cancel_right shape
  refine ⟨by simp, depth, Nat.le_of_lt_succ fits, ?_⟩
  rw [List.take_left]
  exact order.encoding written

/-- Bytes that encode a value are read as that value but for the order of its maps. -/
theorem Encoding.decoded {input : Bytes} {value : Value} {count depth : Nat}
    (within : count ≤ input.length) (shallow : depth ≤ 512)
    (written : value.Encoding (input.take count) depth) :
    ∃ found, decode input = .ok (found, count) ∧ value.Reordered found := by
  obtain ⟨found, order, done⟩ := written.reads
  have answer := done (maxDepth + 1) (input.drop count) (Nat.lt_succ_of_le shallow)
  rw [List.take_append_drop] at answer
  refine ⟨found, decode_eq_ok.2 ⟨input.take count, input.drop count, ?_, ?_, answer⟩, order⟩
  · rw [List.take_append_drop]
  · rw [List.length_take, Nat.min_eq_left within]

/-- The decoder accepts exactly the encodings: an input is read as a value, but for the order of its
maps, and as so many bytes if and only if the grammar allows these bytes for that value with no part
deeper than the limit; and it is refused if no front of it is such an encoding of anything. -/
theorem decode_accepts_encodings (input : Bytes) :
    (∀ (value : Value) (count : Nat),
      (∃ found, decode input = .ok (found, count) ∧ value.Reordered found) ↔
        count ≤ input.length ∧ ∃ depth ≤ 512, value.Encoding (input.take count) depth) ∧
    ((∃ fault, decode input = .error fault) ↔
      ¬ ∃ value count, count ≤ input.length ∧
        ∃ depth ≤ 512, Encoding value (input.take count) depth) := by
  have exact : ∀ (value : Value) (count : Nat), (∃ found,
      decode input = .ok (found, count) ∧ value.Reordered found) ↔
        count ≤ input.length ∧ ∃ depth ≤ 512, value.Encoding (input.take count) depth := by
    intro value count
    constructor
    · rintro ⟨found, decoded, order⟩
      exact encoding_of_decode decoded order
    · rintro ⟨within, depth, shallow, written⟩
      exact written.decoded within shallow
  refine ⟨exact, ?_⟩
  constructor
  · rintro ⟨fault, refused⟩ ⟨value, count, encoded⟩
    obtain ⟨found, decoded, -⟩ := (exact value count).2 encoded
    rw [refused] at decoded
    cases decoded
  · intro nothing
    cases answer : decode input with
    | error fault => exact ⟨fault, rfl⟩
    | ok result =>
      obtain ⟨value, count⟩ := result
      exact absurd ⟨value, count, (exact value count).1 ⟨value, answer, .refl value⟩⟩ nothing

end BoltClient.Value
