import Mathlib.Data.List.Nodup
import Mathlib.Data.List.Perm.Subperm
import BoltClient.Codec.Pack
import BoltClient.Proofs.Value.Lookup

/-!
The grammar of packed values, as a relation between values and bytes. A value may be packed in
several ways: an integer in any width that holds it, a count in any header that holds it, and
the entries of a map in any order, where a key may be repeated and its last value counts. The
grammar also tells how many containers enclose the deepest part of what is packed, keys and
overwritten values included.
-/

namespace BoltClient

namespace Composite

/-- The first of the sixteen markers that hold a count themselves. -/
def compactBase? : Composite → Option UInt8
  | bytes => none
  | string => some 0x80
  | list => some 0x90
  | map => some 0xA0
  | struct => some 0xB0

/-- The marker behind which a count stands in `width` bytes. -/
def longMarker? : Composite → (width : Nat) → Option UInt8
  | bytes, 1 => some 0xCC
  | bytes, 2 => some 0xCD
  | bytes, 4 => some 0xCE
  | string, 1 => some 0xD0
  | string, 2 => some 0xD1
  | string, 4 => some 0xD2
  | list, 1 => some 0xD4
  | list, 2 => some 0xD5
  | list, 4 => some 0xD6
  | map, 1 => some 0xD8
  | map, 2 => some 0xD9
  | map, 4 => some 0xDA
  | struct, 1 => some 0xDC
  | struct, 2 => some 0xDD
  | _, _ => none

/-- The headers with which a kind can announce a count. -/
inductive Header (kind : Composite) (count : Nat) : Bytes → Prop where
  | compact {base : UInt8} (own : kind.compactBase? = some base) (small : count ≤ 15) :
    Header kind count [base + UInt8.ofNat count]
  | long {width : Nat} {marker : UInt8} (own : kind.longMarker? width = some marker)
    (fits : count < Bytes.limit width) (bounded : count ≤ 0x7FFFFFFF) :
    Header kind count (marker :: Bytes.ofNat width count)

end Composite

namespace Entries

variable {α : Type}

/-- The value in the last of the pairs with a key. -/
def last? (key : String) : List (String × α) → Option α
  | [] => none
  | (name, value) :: rest => (last? key rest).or (if name = key then some value else none)

/-- That entries are what pairs come to, whatever their order: no key is there twice, and each
has the value of its last pair. -/
structure Settles (pairs entries : List (String × α)) : Prop where
  distinct : (Entries.keys entries).Nodup
  last (key : String) (value : α) : (key, value) ∈ entries ↔ last? key pairs = some value

theorem get?_foldl_put (key : String) (pairs : List (String × α)) (collected : Entries α) :
    get? key (pairs.foldl (fun entries (name, value) => entries.put name value) collected) =
      (last? key pairs).or (get? key collected) := by
  induction pairs generalizing collected with
  | nil => rfl
  | cons pair rest ih =>
    obtain ⟨name, value⟩ := pair
    rw [List.foldl_cons, ih, get?_put, last?, Option.or_assoc]
    by_cases here : name = key <;> simp [here]

theorem nodup_keys_foldl_put (pairs : List (String × α)) {collected : Entries α}
    (distinct : collected.keys.Nodup) :
    (keys (pairs.foldl (fun entries (name, value) => entries.put name value) collected)).Nodup := by
  induction pairs generalizing collected with
  | nil => exact distinct
  | cons pair rest ih => exact ih (nodup_keys_put distinct)

/-- Pairs come to the entries that are left when one is put after the other. -/
theorem settles_ofPairs (pairs : List (String × α)) : Settles pairs (ofPairs pairs) := by
  have distinct : (ofPairs pairs).keys.Nodup := nodup_keys_foldl_put pairs List.nodup_nil
  refine ⟨distinct, ?_⟩
  intro key value
  rw [mem_iff_get? distinct, ofPairs, get?_foldl_put, get?, Option.or_none]

theorem last?_append (key : String) (first second : List (String × α)) :
    last? key (first ++ second) = (last? key second).or (last? key first) := by
  induction first with
  | nil => simp [last?]
  | cons pair rest ih => rw [List.cons_append, last?, ih, last?, Option.or_assoc]

/-- The last pair with a key stands somewhere, with no other pair with that key behind it. -/
theorem split_of_last? {key : String} {value : α} {pairs : List (String × α)}
    (found : last? key pairs = some value) :
    ∃ before after, pairs = before ++ (key, value) :: after ∧ last? key after = none := by
  induction pairs with
  | nil => cases found
  | cons pair rest ih =>
    obtain ⟨name, other⟩ := pair
    cases later : last? key rest with
    | some inner =>
      rw [last?, later] at found
      cases found
      obtain ⟨before, after, rfl, none⟩ := ih later
      exact ⟨(name, other) :: before, after, rfl, none⟩
    | none =>
      rw [last?, later, Option.none_or] at found
      split at found
      · next same =>
        subst same
        cases found
        exact ⟨[], rest, rfl, later⟩
      · cases found

/-- Exchanging the value of an entry exchanges it in the last pair with its key. -/
theorem Settles.exchange {front back before after : List (String × α)} {key : String}
    {value other : α} (settles : Settles (front ++ (key, other) :: back)
      (before ++ (key, other) :: after)) (none : last? key back = none) :
    Settles (front ++ (key, value) :: back) (before ++ (key, value) :: after) := by
  have absent : ∀ v, (key, v) ∉ before ∧ (key, v) ∉ after := by
    have distinct := settles.distinct
    simp only [keys, List.map_append, List.map_cons] at distinct
    have fresh := (List.nodup_middle.1 distinct).notMem
    intro v
    constructor <;> intro found <;>
      exact fresh (List.mem_append.2 (by simp [List.mem_map_of_mem found]))
  refine ⟨?_, ?_⟩
  · have distinct := settles.distinct
    simpa [keys] using distinct
  · intro name v
    by_cases here : key = name
    · subst here
      simp [last?_append, last?, none, absent, eq_comm]
    · have same := settles.last name v
      simpa [last?_append, last?, here, Ne.symm here] using same

/-- What pairs come to is the same but for its order. -/
theorem Settles.perm {pairs first second : List (String × α)} (one : Settles pairs first)
    (other : Settles pairs second) : first.Perm second := by
  rw [List.perm_ext_iff_of_nodup (.of_map _ one.distinct) (.of_map _ other.distinct)]
  rintro ⟨key, value⟩
  rw [one.last, other.last]

/-- What pairs come to is some of them, each of its keys once. -/
theorem Settles.subperm {pairs entries : List (String × α)} (settles : Settles pairs entries) :
    entries.Subperm pairs := by
  refine List.Nodup.subperm (.of_map _ settles.distinct) ?_
  rintro ⟨key, value⟩ member
  obtain ⟨before, after, rfl, -⟩ := split_of_last? ((settles.last key value).1 member)
  exact List.mem_append_right _ List.mem_cons_self

end Entries

namespace Value

/-- The marker behind which an integer stands in `width` bytes. -/
def integerMarker? : (width : Nat) → Option UInt8
  | 1 => some 0xC8
  | 2 => some 0xC9
  | 4 => some 0xCA
  | 8 => some 0xCB
  | _ => none

/-- Pairs as the values that stand one after the other, each key before its value. -/
def spellPairs (pairs : List (String × Value)) : List Value :=
  pairs.flatMap fun (key, value) => [string key, value]

mutual

/-- The bytes with which a value can be packed, with the depth of their deepest part. -/
inductive Encoding : Value → Bytes → Nat → Prop where
  | null : Encoding null [0xC0] 0
  | no : Encoding (boolean false) [0xC2] 0
  | yes : Encoding (boolean true) [0xC3] 0
  | float (number : Double) : Encoding (float number) (0xC1 :: Bytes.ofNat 8 number.bits.toNat) 0
  | tiny (number : Int64) (small : -16 ≤ number.toInt ∧ number.toInt ≤ 127) :
    Encoding (integer number) (signedBytes 1 number.toInt) 0
  | wide (number : Int64) {width : Nat} {marker : UInt8} (own : integerMarker? width = some marker)
    (fits : -(Bytes.limit width : Int) ≤ 2 * number.toInt ∧
      2 * number.toInt < Bytes.limit width) :
    Encoding (integer number) (marker :: signedBytes width number.toInt) 0
  | bytes (content : Bytes) {header : Bytes}
    (announced : Composite.bytes.Header content.length header) :
    Encoding (bytes content) (header ++ content) 0
  | string (text : String) {header : Bytes}
    (announced : Composite.string.Header (Utf8.encode text).length header) :
    Encoding (string text) (header ++ Utf8.encode text) 0
  | list (items : List Value) {header body : Bytes} {depth : Nat}
    (announced : Composite.list.Header items.length header)
    (inside : Sequence items body depth) : Encoding (list items) (header ++ body) depth
  | map (pairs entries : List (String × Value)) {header body : Bytes} {depth : Nat}
    (announced : Composite.map.Header pairs.length header)
    (inside : Sequence (spellPairs pairs) body depth) (settles : Entries.Settles pairs entries) :
    Encoding (map entries) (header ++ body) depth
  | struct (signature : UInt8) (fields : List Value) {header body : Bytes} {depth : Nat}
    (announced : Composite.struct.Header fields.length header)
    (inside : Sequence fields body depth) :
    Encoding (struct signature fields) (header ++ signature :: body) depth

/-- The parts of a container, one after the other; each is one level deeper than the container. -/
inductive Sequence : List Value → Bytes → Nat → Prop where
  | nil : Sequence [] [] 0
  | cons {item : Value} {items : List Value} {front back : Bytes} {depth deepest : Nat}
    (first : Encoding item front depth) (rest : Sequence items back deepest) :
    Sequence (item :: items) (front ++ back) (max (depth + 1) deepest)

end

end Value
end BoltClient
