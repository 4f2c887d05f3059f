import BoltClient.Text.Utf8

/-!
Text survives UTF-8: what `Utf8.encode` writes is read back by `Utf8.decode`, and
nothing else is read. The reader is followed through one character, by the number
of its bytes; at the end of a character it is where it was before, one character
further on. Backwards, the bytes it took are how that character is written.
-/

namespace BoltClient.Utf8

theorem toNat_following (code : Nat) : (following code).toNat = 0x80 + code % 0x40 := by
  simp only [following, UInt8.toNat_ofNat']
  omega

theorem following_within (code : Nat) : 0x80 ≤ following code ∧ following code ≤ 0xBF := by
  have number := toNat_following code
  constructor <;> rw [UInt8.le_iff_toNat_le, number]
  · simp
  · simp only [UInt8.reduceToNat]
    omega

/-- The code point of a character is no surrogate and is not past U+10FFFF. -/
theorem toNat_valid (c : Char) :
    c.toNat < 0xD800 ∨ 0xDFFF < c.toNat ∧ c.toNat < 0x110000 := c.valid

theorem toNat_lead (number : Nat) (fits : number < 0x100) :
    (UInt8.ofNat number).toNat = number := by
  rw [UInt8.toNat_ofNat', Nat.mod_eq_of_lt fits]

/-- A first byte that announces more bytes leaves the reader inside a character. -/
theorem decodeFrom_lead {lead : UInt8} {begun : Partial} (index : Nat) (rest : Bytes)
    (wide : ¬ lead < 0x80) (started : Partial.ofLead lead = some begun) :
    decodeFrom index none (lead :: rest) = decodeFrom index (some begun) rest := by
  rw [decodeFrom, if_neg wide, started]

/-- The last byte of a character gives the character. -/
theorem decodeFrom_last (index top seen code : Nat) {low high : UInt8} (rest : Bytes)
    (within : low ≤ following code ∧ following code ≤ high) :
    decodeFrom index (some ⟨top, seen, 1, low, high⟩) (following code :: rest) =
      (decodeFrom (index + seen + 1) none rest).map
        (Char.ofNat (top * 0x40 + code % 0x40) :: ·) := by
  have bits : (following code).toNat % 0x40 = code % 0x40 := by
    rw [toNat_following]
    omega
  rw [decodeFrom, if_pos within, bits]
  rfl

/-- A byte in the middle of a character adds six bits to it. -/
theorem decodeFrom_middle (index top seen missing code : Nat) {low high : UInt8} (rest : Bytes)
    (within : low ≤ following code ∧ following code ≤ high) :
    decodeFrom index (some ⟨top, seen, missing + 2, low, high⟩) (following code :: rest) =
      decodeFrom index
        (some ⟨top * 0x40 + code % 0x40, seen + 1, missing + 1, 0x80, 0xBF⟩) rest := by
  have bits : (following code).toNat % 0x40 = code % 0x40 := by
    rw [toNat_following]
    omega
  rw [decodeFrom, if_pos within, bits]
  rfl

private theorem ofLead_two {top : Nat} (least : 2 ≤ top) (most : top < 0x20) :
    Partial.ofLead (UInt8.ofNat (0xC0 + top)) = some ⟨top, 1, 1, 0x80, 0xBF⟩ := by
  have number := toNat_lead (0xC0 + top) (by omega)
  have range : 0xC2 ≤ UInt8.ofNat (0xC0 + top) ∧ UInt8.ofNat (0xC0 + top) ≤ 0xDF := by
    constructor <;> rw [UInt8.le_iff_toNat_le, number] <;> simp only [UInt8.reduceToNat] <;> omega
  rw [Partial.ofLead, if_pos range, number, Nat.add_sub_cancel_left]

/-- The second byte of a three-byte character is bounded below for the least first byte
and above for the one that could begin a surrogate. -/
private theorem ofLead_three {top : Nat} (most : top < 0x10) :
    Partial.ofLead (UInt8.ofNat (0xE0 + top)) =
      some ⟨top, 1, 2, if top = 0 then 0xA0 else 0x80, if top = 0xD then 0x9F else 0xBF⟩ := by
  have number := toNat_lead (0xE0 + top) (by omega)
  have past : ¬ (0xC2 ≤ UInt8.ofNat (0xE0 + top) ∧ UInt8.ofNat (0xE0 + top) ≤ 0xDF) := by
    rw [UInt8.le_iff_toNat_le, UInt8.le_iff_toNat_le, number]
    simp only [UInt8.reduceToNat]
    omega
  have range : 0xE0 ≤ UInt8.ofNat (0xE0 + top) ∧ UInt8.ofNat (0xE0 + top) ≤ 0xEF := by
    constructor <;> rw [UInt8.le_iff_toNat_le, number] <;> simp only [UInt8.reduceToNat] <;> omega
  have least : UInt8.ofNat (0xE0 + top) = 0xE0 ↔ top = 0 := by
    rw [← UInt8.toNat_inj, number]
    simp only [UInt8.reduceToNat]
    omega
  have surrogate : UInt8.ofNat (0xE0 + top) = 0xED ↔ top = 0xD := by
    rw [← UInt8.toNat_inj, number]
    simp only [UInt8.reduceToNat]
    omega
  rw [Partial.ofLead, if_neg past, if_pos range, number, Nat.add_sub_cancel_left]
  simp only [least, surrogate]

/-- The second byte of a four-byte character is bounded below for the least first byte
and above for the greatest. -/
private theorem ofLead_four {top : Nat} (most : top < 5) :
    Partial.ofLead (UInt8.ofNat (0xF0 + top)) =
      some ⟨top, 1, 3, if top = 0 then 0x90 else 0x80, if top = 4 then 0x8F else 0xBF⟩ := by
  match top, most with
  | 0, _ | 1, _ | 2, _ | 3, _ | 4, _ => decide

private theorem wide_lead {number : Nat} (least : 0x80 ≤ number) (most : number < 0x100) :
    ¬ UInt8.ofNat number < 0x80 := by
  rw [UInt8.lt_iff_toNat_lt, toNat_lead number most]
  simp only [UInt8.reduceToNat]
  omega

/-- The range of a second byte is a range of its six bits. -/
private theorem second_within (least most : Nat) {code : Nat} {low high : UInt8}
    (lowNumber : low.toNat = 0x80 + least) (highNumber : high.toNat = 0x80 + most) :
    (low ≤ following code ∧ following code ≤ high) ↔
      least ≤ code % 0x40 ∧ code % 0x40 ≤ most := by
  have number := toNat_following code
  rw [UInt8.le_iff_toNat_le, UInt8.le_iff_toNat_le, number]
  omega

private theorem second_of_three {top code : Nat} :
    ((if top = 0 then 0xA0 else 0x80) ≤ following code ∧
      following code ≤ (if top = 0xD then 0x9F else 0xBF)) ↔
    (if top = 0 then 0x20 else 0) ≤ code % 0x40 ∧
      code % 0x40 ≤ (if top = 0xD then 0x1F else 0x3F) :=
  second_within _ _ (by split <;> rfl) (by split <;> rfl)

private theorem second_of_four {top code : Nat} :
    ((if top = 0 then 0x90 else 0x80) ≤ following code ∧
      following code ≤ (if top = 4 then 0x8F else 0xBF)) ↔
    (if top = 0 then 0x10 else 0) ≤ code % 0x40 ∧
      code % 0x40 ≤ (if top = 4 then 0xF else 0x3F) :=
  second_within _ _ (by split <;> rfl) (by split <;> rfl)

/-- One character is read as it was written, and the reader goes on behind it. -/
theorem decodeFrom_encodeChar (c : Char) (index : Nat) (rest : Bytes) :
    ∃ next, decodeFrom index none (encodeChar c ++ rest) =
      (decodeFrom next none rest).map (c :: ·) := by
  have valid := toNat_valid c
  have same := Char.ofNat_toNat c
  unfold encodeChar
  generalize c.toNat = code at valid same
  by_cases one : code < 0x80
  · refine ⟨index + 1, ?_⟩
    have number := toNat_lead code (by omega)
    have narrow : UInt8.ofNat code < 0x80 := by
      rw [UInt8.lt_iff_toNat_lt, number]
      exact one
    simp only [if_pos one, List.cons_append, List.nil_append]
    rw [decodeFrom, if_pos narrow, number, same]
  by_cases two : code < 0x800
  · refine ⟨index + 1 + 1, ?_⟩
    simp only [if_neg one, if_pos two, List.cons_append, List.nil_append]
    rw [decodeFrom_lead _ _ (wide_lead (by omega) (by omega)) (ofLead_two (by omega) (by omega)),
      decodeFrom_last _ _ _ _ _ (following_within code)]
    have whole : code / 0x40 * 0x40 + code % 0x40 = code := by omega
    rw [whole, same]
  by_cases three : code < 0x10000
  · refine ⟨index + 2 + 1, ?_⟩
    simp only [if_neg one, if_neg two, if_pos three, List.cons_append, List.nil_append]
    have second : (if code / 0x1000 = 0 then 0xA0 else 0x80) ≤ following (code / 0x40) ∧
        following (code / 0x40) ≤ (if code / 0x1000 = 0xD then 0x9F else 0xBF) :=
      second_of_three.2 (by constructor <;> split <;> omega)
    rw [decodeFrom_lead _ _ (wide_lead (by omega) (by omega)) (ofLead_three (by omega)),
      decodeFrom_middle _ _ _ 0 _ _ second, decodeFrom_last _ _ _ _ _ (following_within code)]
    have whole : (code / 0x1000 * 0x40 + code / 0x40 % 0x40) * 0x40 + code % 0x40 = code := by omega
    rw [whole, same]
  · refine ⟨index + 3 + 1, ?_⟩
    simp only [if_neg one, if_neg two, if_neg three, List.cons_append, List.nil_append]
    have second : (if code / 0x40000 = 0 then 0x90 else 0x80) ≤ following (code / 0x1000) ∧
        following (code / 0x1000) ≤ (if code / 0x40000 = 4 then 0x8F else 0xBF) :=
      second_of_four.2 (by constructor <;> split <;> omega)
    rw [decodeFrom_lead _ _ (wide_lead (by omega) (by omega)) (ofLead_four (by omega)),
      decodeFrom_middle _ _ _ 1 _ _ second, decodeFrom_middle _ _ _ 0 _ _ (following_within _),
      decodeFrom_last _ _ _ _ _ (following_within code)]
    have whole : ((code / 0x40000 * 0x40 + code / 0x1000 % 0x40) * 0x40 +
        code / 0x40 % 0x40) * 0x40 + code % 0x40 = code := by omega
    rw [whole, same]

theorem decodeFrom_flatMap_encodeChar (text : List Char) (index : Nat) :
    decodeFrom index none (text.flatMap encodeChar) = .ok text := by
  induction text generalizing index with
  | nil => rfl
  | cons c text ih =>
    obtain ⟨next, step⟩ := decodeFrom_encodeChar c index (text.flatMap encodeChar)
    rw [List.flatMap_cons, step, ih]
    rfl

/-- Text that is written is read back. -/
theorem decode_encode (text : String) : decode (encode text) = .ok text := by
  rw [decode, encode, decodeFrom_flatMap_encodeChar]
  exact congrArg Except.ok (String.ofList_toList)

private theorem ok_of_map {α β : Type} {change : α → β} {found : Except Fault α} {result : β}
    (same : found.map change = .ok result) :
    ∃ inner, found = .ok inner ∧ result = change inner := by
  cases found with
  | error fault => cases same
  | ok inner =>
    cases same
    exact ⟨inner, rfl, rfl⟩

/-- A byte between 0x80 and 0xBF continues a character with its six low bits. -/
theorem following_toNat {byte : UInt8} (within : 0x80 ≤ byte ∧ byte ≤ 0xBF) :
    following byte.toNat = byte := by
  rw [UInt8.le_iff_toNat_le, UInt8.le_iff_toNat_le] at within
  simp only [UInt8.reduceToNat] at within
  rw [← UInt8.toNat_inj, toNat_following]
  omega

/-- Inside a character the next byte stands in its range, and the reader goes on. -/
theorem decodeFrom_inside {index : Nat} {begun : Partial} {input : Bytes} {text : List Char}
    (found : decodeFrom index (some begun) input = .ok text) :
    ∃ byte rest, input = byte :: rest ∧ (begun.low ≤ byte ∧ byte ≤ begun.high) ∧
      decodeFrom index (some begun) (byte :: rest) = .ok text := by
  cases input with
  | nil => cases found
  | cons byte rest =>
    by_cases within : begun.low ≤ byte ∧ byte ≤ begun.high
    · exact ⟨byte, rest, rfl, within, found⟩
    · rw [decodeFrom, if_neg within] at found
      cases found

/-- Where the last byte of a character is expected, the character ends with a byte in range. -/
theorem last_of_decodeFrom {index top seen : Nat} {low high : UInt8} {input : Bytes}
    {text : List Char} (least : 0x80 ≤ low) (most : high ≤ 0xBF)
    (found : decodeFrom index (some ⟨top, seen, 1, low, high⟩) input = .ok text) :
    ∃ code rest next tail, input = following code :: rest ∧
      (low ≤ following code ∧ following code ≤ high) ∧
      text = Char.ofNat (top * 0x40 + code % 0x40) :: tail ∧
      decodeFrom next none rest = .ok tail := by
  obtain ⟨byte, rest, rfl, within, found⟩ := decodeFrom_inside found
  have same := following_toNat ⟨UInt8.le_trans least within.1, UInt8.le_trans within.2 most⟩
  rw [← same] at found within
  rw [decodeFrom_last _ _ _ _ _ within] at found
  obtain ⟨tail, behind, rfl⟩ := ok_of_map found
  exact ⟨byte.toNat, rest, _, tail, by rw [same], within, rfl, behind⟩

/-- Where more bytes of a character are expected, a byte in range stands before them. -/
theorem middle_of_decodeFrom {index top seen missing : Nat} {low high : UInt8} {input : Bytes}
    {text : List Char} (least : 0x80 ≤ low) (most : high ≤ 0xBF)
    (found : decodeFrom index (some ⟨top, seen, missing + 2, low, high⟩) input = .ok text) :
    ∃ code rest, input = following code :: rest ∧
      (low ≤ following code ∧ following code ≤ high) ∧
      decodeFrom index (some ⟨top * 0x40 + code % 0x40, seen + 1, missing + 1, 0x80, 0xBF⟩) rest =
        .ok text := by
  obtain ⟨byte, rest, rfl, within, found⟩ := decodeFrom_inside found
  have same := following_toNat ⟨UInt8.le_trans least within.1, UInt8.le_trans within.2 most⟩
  rw [← same] at found within
  rw [decodeFrom_middle _ _ _ _ _ _ within] at found
  exact ⟨byte.toNat, rest, by rw [same], within, found⟩

/-- Only the first bytes of characters of two, three and four bytes announce more. -/
private theorem lead_of_ofLead {lead : UInt8} {begun : Partial}
    (started : Partial.ofLead lead = some begun) :
    (∃ top, 2 ≤ top ∧ top < 0x20 ∧ lead = UInt8.ofNat (0xC0 + top)) ∨
    (∃ top < 0x10, lead = UInt8.ofNat (0xE0 + top)) ∨
    ∃ top < 5, lead = UInt8.ofNat (0xF0 + top) := by
  have number := lead.ofNat_toNat
  unfold Partial.ofLead at started
  simp only [UInt8.le_iff_toNat_le, UInt8.reduceToNat] at started
  split at started
  · refine .inl ⟨lead.toNat - 0xC0, by omega, by omega, ?_⟩
    rw [Nat.add_sub_cancel' (by omega), number]
  split at started
  · refine .inr (.inl ⟨lead.toNat - 0xE0, by omega, ?_⟩)
    rw [Nat.add_sub_cancel' (by omega), number]
  split at started
  · refine .inr (.inr ⟨lead.toNat - 0xF0, by omega, ?_⟩)
    rw [Nat.add_sub_cancel' (by omega), number]
  · cases started

theorem following_mod {code other : Nat} (same : code % 0x40 = other % 0x40) :
    following code = following other := by
  rw [following, following, same]

theorem toNat_ofNat_valid {code : Nat} (valid : code.isValidChar) :
    (Char.ofNat code).toNat = code := by
  rw [Char.ofNat, dif_pos valid]
  rfl

theorem encodeChar_one {code : Nat} (small : code < 0x80) :
    encodeChar (Char.ofNat code) = [UInt8.ofNat code] := by
  have valid : code.isValidChar := .inl (by omega)
  simp only [encodeChar, toNat_ofNat_valid valid, if_pos small]

theorem encodeChar_two {top last : Nat} (least : 2 ≤ top) (most : top < 0x20) :
    encodeChar (Char.ofNat (top * 0x40 + last % 0x40)) =
      [UInt8.ofNat (0xC0 + top), following last] := by
  generalize whole : top * 0x40 + last % 0x40 = code
  have valid : code.isValidChar := .inl (by omega)
  have one : ¬ code < 0x80 := by omega
  have two : code < 0x800 := by omega
  have high : code / 0x40 = top := by omega
  have low : following code = following last := following_mod (by omega)
  simp only [encodeChar, toNat_ofNat_valid valid, if_neg one, if_pos two, high, low]

/-- The range of the second byte keeps overlong forms and surrogates away. -/
theorem encodeChar_three {top second : Nat} (last : Nat) (most : top < 0x10)
    (range : (if top = 0 then 0x20 else 0) ≤ second % 0x40 ∧
      second % 0x40 ≤ (if top = 0xD then 0x1F else 0x3F)) :
    encodeChar (Char.ofNat ((top * 0x40 + second % 0x40) * 0x40 + last % 0x40)) =
      [UInt8.ofNat (0xE0 + top), following second, following last] := by
  generalize whole : (top * 0x40 + second % 0x40) * 0x40 + last % 0x40 = code
  have least : 0x800 ≤ code := by
    have bound := range.1
    split at bound <;> omega
  have surrogate : top = 0xD → code < 0xD800 := by
    intro thirteen
    have bound := range.2
    rw [if_pos thirteen] at bound
    omega
  have valid : code.isValidChar := by
    unfold Nat.isValidChar
    omega
  have one : ¬ code < 0x80 := by omega
  have two : ¬ code < 0x800 := by omega
  have three : code < 0x10000 := by omega
  have high : code / 0x1000 = top := by omega
  have middle : following (code / 0x40) = following second := following_mod (by omega)
  have low : following code = following last := following_mod (by omega)
  simp only [encodeChar, toNat_ofNat_valid valid, if_neg one, if_neg two, if_pos three, high,
    middle, low]

/-- The range of the second byte keeps overlong forms away and what is past U+10FFFF. -/
theorem encodeChar_four {top second : Nat} (third last : Nat) (most : top < 5)
    (range : (if top = 0 then 0x10 else 0) ≤ second % 0x40 ∧
      second % 0x40 ≤ (if top = 4 then 0xF else 0x3F)) :
    encodeChar (Char.ofNat
        (((top * 0x40 + second % 0x40) * 0x40 + third % 0x40) * 0x40 + last % 0x40)) =
      [UInt8.ofNat (0xF0 + top), following second, following third, following last] := by
  generalize whole : ((top * 0x40 + second % 0x40) * 0x40 + third % 0x40) * 0x40 +
    last % 0x40 = code
  have least : 0x10000 ≤ code := by
    have bound := range.1
    split at bound <;> omega
  have greatest : code < 0x110000 := by
    have bound := range.2
    split at bound <;> omega
  have valid : code.isValidChar := .inr (by omega)
  have one : ¬ code < 0x80 := by omega
  have two : ¬ code < 0x800 := by omega
  have three : ¬ code < 0x10000 := by omega
  have high : code / 0x40000 = top := by omega
  have upper : following (code / 0x1000) = following second := following_mod (by omega)
  have lower : following (code / 0x40) = following third := following_mod (by omega)
  have low : following code = following last := following_mod (by omega)
  simp only [encodeChar, toNat_ofNat_valid valid, if_neg one, if_neg two, if_neg three, high,
    upper, lower, low]

/-- What is read as a character is how it is written, and the reader goes on behind it. -/
theorem encodeChar_of_decodeFrom {index : Nat} {lead : UInt8} {input : Bytes} {text : List Char}
    (found : decodeFrom index none (lead :: input) = .ok text) :
    ∃ c tail next rest, lead :: input = encodeChar c ++ rest ∧ text = c :: tail ∧
      decodeFrom next none rest = .ok tail := by
  by_cases narrow : lead < 0x80
  · rw [decodeFrom, if_pos narrow] at found
    obtain ⟨tail, behind, rfl⟩ := ok_of_map found
    have written := encodeChar_one (UInt8.lt_iff_toNat_lt.1 narrow)
    rw [UInt8.ofNat_toNat] at written
    exact ⟨Char.ofNat lead.toNat, tail, _, input, by rw [written]; rfl, rfl, behind⟩
  cases started : Partial.ofLead lead with
  | none =>
    rw [decodeFrom, if_neg narrow, started] at found
    cases found
  | some begun =>
    rw [decodeFrom_lead index input narrow started] at found
    rcases lead_of_ofLead started with ⟨top, least, most, rfl⟩ | ⟨top, most, rfl⟩ | ⟨top, most, rfl⟩
    · obtain rfl := Option.some.inj ((ofLead_two least most).symm.trans started)
      obtain ⟨last, rest, next, tail, rfl, -, rfl, behind⟩ :=
        last_of_decodeFrom (UInt8.le_refl _) (UInt8.le_refl _) found
      exact ⟨_, tail, next, rest, by rw [encodeChar_two least most]; rfl, rfl, behind⟩
    · obtain rfl := Option.some.inj ((ofLead_three most).symm.trans started)
      obtain ⟨second, rest, rfl, within, found⟩ :=
        middle_of_decodeFrom (by split <;> decide) (by split <;> decide) found
      obtain ⟨last, rest, next, tail, rfl, -, rfl, behind⟩ :=
        last_of_decodeFrom (UInt8.le_refl _) (UInt8.le_refl _) found
      have written := encodeChar_three last most (second_of_three.1 within)
      exact ⟨_, tail, next, rest, by rw [written]; rfl, rfl, behind⟩
    · obtain rfl := Option.some.inj ((ofLead_four most).symm.trans started)
      obtain ⟨second, rest, rfl, within, found⟩ :=
        middle_of_decodeFrom (by split <;> decide) (by split <;> decide) found
      obtain ⟨third, rest, rfl, -, found⟩ :=
        middle_of_decodeFrom (UInt8.le_refl _) (UInt8.le_refl _) found
      obtain ⟨last, rest, next, tail, rfl, -, rfl, behind⟩ :=
        last_of_decodeFrom (UInt8.le_refl _) (UInt8.le_refl _) found
      have written := encodeChar_four third last most (second_of_four.1 within)
      exact ⟨_, tail, next, rest, by rw [written]; rfl, rfl, behind⟩

theorem flatMap_encodeChar_of_decodeFrom (text : List Char) {index : Nat} {input : Bytes}
    (found : decodeFrom index none input = .ok text) : text.flatMap encodeChar = input := by
  induction text generalizing index input with
  | nil =>
    cases input with
    | nil => rfl
    | cons lead input =>
      obtain ⟨c, tail, next, rest, -, other, -⟩ := encodeChar_of_decodeFrom found
      cases other
  | cons c text ih =>
    cases input with
    | nil => cases found
    | cons lead input =>
      obtain ⟨c, tail, next, rest, shape, same, behind⟩ := encodeChar_of_decodeFrom found
      cases same
      rw [shape, List.flatMap_cons, ih behind]

/-- Bytes that are read as text are how that text is written. -/
theorem encode_of_decode {input : Bytes} {text : String} (found : decode input = .ok text) :
    encode text = input := by
  obtain ⟨letters, inner, rfl⟩ := ok_of_map found
  rw [encode, String.toList_ofList]
  exact flatMap_encodeChar_of_decodeFrom letters inner

end BoltClient.Utf8
