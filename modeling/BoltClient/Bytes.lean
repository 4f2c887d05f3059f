/-!
Byte strings as lists. A fixed-width number is written most significant byte
first; a reader takes bytes off the front and leaves the rest. The lemmas say
that writing and reading a number undo each other within the width.
-/

namespace BoltClient

abbrev Bytes := List UInt8

namespace Bytes

/-- How many numbers `width` bytes can hold. -/
def limit : (width : Nat) → Nat
  | 0 => 1
  | width + 1 => 256 * limit width

/-- Writes `value` as `width` bytes, most significant first, dropping higher bits. -/
def ofNat : (width value : Nat) → Bytes
  | 0, _ => []
  | width + 1, value => UInt8.ofNat (value / limit width) :: ofNat width value

/-- Reads all of `bytes` as one number, most significant byte first. -/
def toNat (bytes : Bytes) : Nat :=
  bytes.foldl (fun number byte => number * 256 + byte.toNat) 0

/-- Splits `count` bytes off the front, or answers `none` when there are fewer. -/
def split? : (count : Nat) → Bytes → Option (Bytes × Bytes)
  | 0, input => some ([], input)
  | _ + 1, [] => none
  | count + 1, byte :: rest =>
    (split? count rest).map fun (front, remaining) => (byte :: front, remaining)

@[simp] theorem length_ofNat (width value : Nat) : (ofNat width value).length = width := by
  induction width with
  | zero => rfl
  | succ width ih => simp [ofNat, ih]

private theorem foldl_number (bytes : Bytes) (start : Nat) :
    bytes.foldl (fun number byte => number * 256 + byte.toNat) start =
      start * limit bytes.length + toNat bytes := by
  induction bytes generalizing start with
  | nil => simp [toNat, limit]
  | cons byte rest ih =>
    have head := ih (start * 256 + byte.toNat)
    have tail := ih byte.toNat
    simp only [toNat, List.foldl_cons, List.length_cons, Nat.zero_mul, Nat.zero_add] at *
    rw [head, tail, limit, Nat.add_mul]
    have regroup : start * 256 * limit rest.length = start * (256 * limit rest.length) :=
      Nat.mul_assoc ..
    omega

theorem toNat_cons (byte : UInt8) (rest : Bytes) :
    toNat (byte :: rest) = byte.toNat * limit rest.length + toNat rest := by
  simpa [toNat] using foldl_number rest byte.toNat

theorem toNat_ofNat_mod (width value : Nat) : toNat (ofNat width value) = value % limit width := by
  induction width with
  | zero => simp [ofNat, toNat, limit, Nat.mod_one]
  | succ width ih =>
    have top : (UInt8.ofNat (value / limit width)).toNat = value / limit width % 256 := by simp
    rw [ofNat, toNat_cons, ih, length_ofNat, top, limit, Nat.mul_comm 256, Nat.mod_mul,
      Nat.mul_comm]
    omega

/-- A number that fits the width is read back as it was written. -/
theorem toNat_ofNat {width value : Nat} (fits : value < limit width) :
    toNat (ofNat width value) = value := by
  rw [toNat_ofNat_mod, Nat.mod_eq_of_lt fits]

theorem toNat_lt (bytes : Bytes) : toNat bytes < limit bytes.length := by
  induction bytes with
  | nil => simp [toNat, limit]
  | cons byte rest ih =>
    have high := byte.toNat_lt
    rw [toNat_cons, List.length_cons, limit]
    have bound : (byte.toNat + 1) * limit rest.length ≤ 256 * limit rest.length :=
      Nat.mul_le_mul_right _ (by omega)
    have split : (byte.toNat + 1) * limit rest.length =
        byte.toNat * limit rest.length + limit rest.length := by
      rw [Nat.add_mul, Nat.one_mul]
    omega

theorem limit_pos (width : Nat) : 0 < limit width := by
  induction width with
  | zero => decide
  | succ width ih =>
    rw [limit]
    omega

/-- Higher bits than those of the width are dropped. -/
theorem ofNat_mul_add (width high value : Nat) :
    ofNat width (high * limit width + value) = ofNat width value := by
  induction width generalizing high with
  | zero => rfl
  | succ width ih =>
    have regroup : high * limit (width + 1) = high * 256 * limit width := by
      rw [limit, Nat.mul_assoc]
    have quotient : (high * limit (width + 1) + value) / limit width =
        high * 256 + value / limit width := by
      rw [regroup, Nat.add_comm, Nat.add_mul_div_right _ _ (limit_pos width), Nat.add_comm]
    have top : UInt8.ofNat (high * 256 + value / limit width) =
        UInt8.ofNat (value / limit width) := by
      rw [← UInt8.toNat_inj, UInt8.toNat_ofNat', UInt8.toNat_ofNat']
      omega
    rw [ofNat, ofNat, quotient, top, regroup, ih]

/-- Bytes that are read as a number are written for it again. -/
theorem ofNat_toNat (bytes : Bytes) : ofNat bytes.length (toNat bytes) = bytes := by
  induction bytes with
  | nil => rfl
  | cons byte rest ih =>
    have top : (byte.toNat * limit rest.length + toNat rest) / limit rest.length = byte.toNat := by
      rw [Nat.add_comm, Nat.add_mul_div_right _ _ (limit_pos _), Nat.div_eq_of_lt (toNat_lt rest),
        Nat.zero_add]
    rw [toNat_cons, List.length_cons, ofNat, top, ofNat_mul_add, ih, UInt8.ofNat_toNat]

theorem split?_append (front rest : Bytes) :
    split? front.length (front ++ rest) = some (front, rest) := by
  induction front with
  | nil => rfl
  | cons byte front ih => simp [split?, ih]

theorem eq_append_of_split? {count : Nat} {input front rest : Bytes}
    (taken : split? count input = some (front, rest)) :
    input = front ++ rest ∧ front.length = count := by
  induction count generalizing input front with
  | zero =>
    simp only [split?, Option.some.injEq, Prod.mk.injEq] at taken
    simp [← taken.1, taken.2]
  | succ count ih =>
    cases input with
    | nil => simp [split?] at taken
    | cons byte input =>
      obtain ⟨⟨inner, left⟩, found, same⟩ := Option.map_eq_some_iff.1 taken
      obtain ⟨rfl, rfl⟩ := Prod.mk.inj same
      have step := ih found
      simp [step.1, step.2]

theorem split?_eq_none_iff {count : Nat} {input : Bytes} :
    split? count input = none ↔ input.length < count := by
  induction count generalizing input with
  | zero => simp [split?]
  | succ count ih => cases input <;> simp [split?, ih]

end Bytes
end BoltClient
