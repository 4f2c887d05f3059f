import Mathlib.Logic.Basic
import BoltClient.Proofs.Codec.Emission

/-!
Packing behind what a buffer holds. Every writer only puts bytes at the end of its buffer, and
which bytes does not depend on what is there: they are those of an emission. It stops where a
length has no header, and the lengths that have one differ between structures and all else. So
what is put behind a buffer is the encoding of a value, or its front when a part is too large.
-/

namespace BoltClient

namespace Composite

open HeaderScheme

/-- The largest count that a kind has a header for. -/
def most : Composite → Nat
  | struct => 65535
  | _ => 2147483647

theorem capacity_one : capacity 1 = 255 := rfl
theorem capacity_two : capacity 2 = 65535 := rfl
theorem capacity_four : capacity 4 = 2147483647 := rfl

/-- The widest header of a kind holds the most. -/
theorem exists_long_iff {kind : Composite} {count : Nat} :
    (∃ entry ∈ kind.scheme.long, count ≤ capacity entry.2) ↔ count ≤ kind.most := by
  cases kind <;> simp [scheme, most, capacity_one, capacity_two, capacity_four] <;> omega

/-- Whether a search by capacity finds a long header. -/
theorem found_isSome_iff {kind : Composite} {count : Nat} {fits : UInt8 × Nat → Bool}
    {found : Option (UInt8 × Nat)} (picked : kind.scheme.long.find? fits = found)
    (means : ∀ entry, fits entry = decide (count ≤ capacity entry.2)) :
    found.isSome ↔ count ≤ kind.most := by
  rw [← picked, List.find?_isSome, ← exists_long_iff]
  simp only [means, decide_eq_true_eq]

theorem write_of_le {kind : Composite} {count : Nat} (fits : count ≤ kind.most) :
    ∃ header, kind.scheme.write count = .ok header := by
  unfold write
  generalize picked : kind.scheme.long.find? _ = found
  obtain ⟨entry, rfl⟩ := Option.isSome_iff_exists.1
    ((found_isSome_iff picked fun _ => rfl).2 fits)
  simp only
  split
  · split <;> exact ⟨_, rfl⟩
  · exact ⟨_, rfl⟩

theorem write_of_lt {kind : Composite} {count : Nat} (large : kind.most < count) :
    kind.scheme.write count = .error (.tooManyElements count) := by
  have compact : 15 ≤ kind.most := by cases kind <;> decide
  have above : ¬ count ≤ 15 := by omega
  unfold write
  generalize picked : kind.scheme.long.find? _ = found
  have missing : ¬ found.isSome := fun here =>
    Nat.not_le_of_lt large ((found_isSome_iff picked fun _ => rfl).1 here)
  rw [Option.not_isSome_iff_eq_none] at missing
  subst missing
  simp only
  split
  · exact if_neg above
  · rfl

end Composite

namespace Emission

/-- How a writer ends. -/
def outcome (emission : Emission) : Except CodecFault Unit :=
  match emission.fault with
  | some fault => .error fault
  | none => .ok ()

/-- That a writer runs to its end exactly under a condition, and that what stops it otherwise
is that something cannot be packed. -/
structure EndsIff (emission : Emission) (condition : Prop) : Prop where
  done : emission.fault = none ↔ condition
  unpackable : ∀ fault ∈ emission.fault, fault.kind = .notPackable

variable {first : Emission} {second : Unit → Emission} {one two condition : Prop}

theorem fault_andThen : (first.andThen second).fault = first.fault.or (second ()).fault := by
  obtain ⟨bytes, fault⟩ := first
  cases fault <;> rfl

theorem endsIff_of (bytes : Bytes) : (of bytes).EndsIff True :=
  ⟨iff_of_true rfl trivial, nofun⟩

theorem EndsIff.andThen (front : first.EndsIff one) (back : (second ()).EndsIff two) :
    (first.andThen second).EndsIff (one ∧ two) := by
  constructor
  · rw [fault_andThen, Option.or_eq_none_iff, front.done, back.done]
  · intro fault stopped
    rw [fault_andThen] at stopped
    rcases Option.or_eq_some_iff.1 stopped with here | ⟨-, later⟩
    · exact front.unpackable fault here
    · exact back.unpackable fault later

theorem ofHeader_ends {header : Except CodecFault Bytes} {fits : Prop}
    (written : fits → ∃ bytes, header = .ok bytes)
    (refused : ¬ fits → ∃ fault, header = .error fault ∧ fault.kind = .notPackable) :
    (ofHeader header).EndsIff fits := by
  by_cases small : fits
  · obtain ⟨bytes, rfl⟩ := written small
    exact ⟨iff_of_true rfl small, nofun⟩
  · obtain ⟨fault, rfl, kind⟩ := refused small
    refine ⟨iff_of_false nofun small, ?_⟩
    rintro _ ⟨⟩
    exact kind

theorem EndsIff.congr {emission : Emission} (ends : emission.EndsIff one) (same : one ↔ two) :
    emission.EndsIff two :=
  ⟨ends.done.trans same, ends.unpackable⟩

end Emission

/-- Over a buffer or a source, what comes second goes on with what the first one has left, unless
a fault stopped that. -/
theorem CodecFault.run_bind {σ α β : Type} (first : ExceptT CodecFault (StateM σ) α)
    (next : α → ExceptT CodecFault (StateM σ) β) (state : σ) :
    (first >>= next).run.run state =
      match first.run.run state with
      | (.ok found, left) => (next found).run.run left
      | (.error fault, left) => (.error fault, left) := by
  change (ExceptT.bindCont next (first.run.run state).1).run (first.run.run state).2 = _
  rcases first.run.run state with ⟨_ | _, left⟩ <;> rfl

namespace Packer

open Emission

/-- What a writer does to any buffer: it puts the bytes of an emission behind it, and ends as
that does. -/
def Puts (packer : Packer) (emission : Emission) : Prop :=
  ∀ buffer, packer.run.run buffer = (emission.outcome, buffer ++ emission.bytes)

theorem append_bytes (buffer : Array UInt8) (bytes more : Bytes) :
    buffer ++ bytes ++ more = buffer ++ (bytes ++ more) := by
  apply Array.toList_inj.1
  simp only [Array.toList_appendList, List.append_assoc]

theorem puts_put (bytes : Bytes) : Puts (put bytes) (.of bytes) := by
  intro buffer
  rfl

theorem puts_header (header : Except CodecFault Bytes) :
    Puts (putHeader header) (.ofHeader header) := by
  intro buffer
  cases header <;> rfl

theorem Puts.andThen {first second : Packer} {front : Emission} {back : Unit → Emission}
    (one : Puts first front) (two : Puts second (back ())) :
    Puts (first >>= fun _ => second) (front.andThen back) := by
  intro buffer
  rw [CodecFault.run_bind, one buffer]
  obtain ⟨bytes, fault⟩ := front
  cases fault with
  | some fault => rfl
  | none =>
    change second.run.run (buffer ++ bytes) = _
    rw [two, append_bytes]
    rfl

end Packer

namespace Value

open Packer Emission

theorem putSized_puts (kind : Composite) (count : Nat) {content : Packer}
    {emitted : Unit → Emission} (inside : Puts content (emitted ())) :
    Puts (putSized kind count content) (emitSized kind count emitted) :=
  (puts_header _).andThen inside

theorem putText_puts (text : String) : Puts (putText text) (emitText text) :=
  putSized_puts .string _ (puts_put _)

/-- The marker and the number are put one after the other. -/
theorem putFloat_puts (number : Double) : Puts (pack (float number)) (emit (float number)) := by
  have parts : emit (float number) =
      (of [0xC1]).andThen fun _ => of (Bytes.ofNat 8 number.bits.toNat) := rfl
  rw [parts]
  exact (puts_put _).andThen (puts_put _)

mutual

/-- Packing a value puts what its emission says. -/
theorem pack_puts : (value : Value) → Puts value.pack value.emit
  | null => puts_put _
  | boolean false => puts_put _
  | boolean true => puts_put _
  | integer _ => puts_put _
  | float number => putFloat_puts number
  | bytes content => putSized_puts .bytes _ (puts_put content)
  | string text => putText_puts text
  | list items => putSized_puts .list _ (packItems_puts items)
  | map entries => putSized_puts .map _ (packEntries_puts entries)
  | struct _ fields => (puts_header _).andThen (packItems_puts fields)

theorem packItems_puts : (items : List Value) → Puts (packItems items) (emitItems items)
  | [] => puts_put []
  | item :: rest => (pack_puts item).andThen (packItems_puts rest)

theorem packEntries_puts :
    (entries : List (String × Value)) → Puts (packEntries entries) (emitEntries entries)
  | [] => puts_put []
  | (key, item) :: rest =>
    (putText_puts key).andThen ((pack_puts item).andThen (packEntries_puts rest))

end

/-- The buffer ends with what the emission says, and the rest of it is what was there. -/
theorem encodeInto_eq (value : Value) (destination : Bytes) :
    value.encodeInto destination = (destination ++ value.emit.bytes, value.emit.outcome) := by
  rw [encodeInto, pack_puts value destination.toArray]
  simp only [Array.toList_appendList]

theorem encode_eq (value : Value) :
    value.encode = value.emit.outcome.map fun _ => value.emit.bytes := by
  rw [encode, result, outcome]
  cases value.emit.fault <;> rfl

/-! What is too large. -/

/-- The values right inside of a value. -/
def parts : Value → List Value
  | list items => items
  | map entries => entries.map Prod.snd
  | struct _ fields => fields
  | _ => []

/-- The values in a value, however deep, itself included. -/
inductive Within (value : Value) : Value → Prop where
  | self : Within value value
  | inside {item whole : Value} (member : item ∈ whole.parts) (deeper : Within value item) :
    Within value whole

/-- That a value's own length, and those of its keys, can be announced. Texts are as long as
their bytes. -/
def Announceable : Value → Prop
  | bytes content => content.length ≤ 2147483647
  | string text => (Utf8.encode text).length ≤ 2147483647
  | list items => items.length ≤ 2147483647
  | map entries => entries.length ≤ 2147483647 ∧
    ∀ entry ∈ entries, (Utf8.encode entry.1).length ≤ 2147483647
  | struct _ fields => fields.length ≤ 65535
  | _ => True

/-- What holds of all in a value holds of the value and of all in its parts. -/
theorem forall_within_iff {such : Value → Prop} {whole : Value} :
    (∀ value, Within value whole → such value) ↔
      such whole ∧ ∀ item ∈ whole.parts, ∀ value, Within value item → such value := by
  constructor
  · intro all
    exact ⟨all whole .self, fun item member value deeper => all value (.inside member deeper)⟩
  · rintro ⟨own, others⟩ value within
    cases within with
    | self => exact own
    | inside member deeper => exact others _ member value deeper

theorem emitSized_ends (kind : Composite) (count : Nat) {content : Unit → Emission}
    {inside : Prop} (ends : (content ()).EndsIff inside) :
    (emitSized kind count content).EndsIff (count ≤ kind.most ∧ inside) := by
  refine (ofHeader_ends Composite.write_of_le fun large => ?_).andThen ends
  exact ⟨_, Composite.write_of_lt (Nat.lt_of_not_le large), rfl⟩

theorem emitStruct_ends (signature : UInt8) {fields : List Value} {inside : Prop}
    (ends : (emitItems fields).EndsIff inside) :
    (emit (struct signature fields)).EndsIff (fields.length ≤ 65535 ∧ inside) := by
  rw [emit]
  refine (ofHeader_ends (fun fits => ?_) fun large => ?_).andThen ends
  · obtain ⟨header, written⟩ := @Composite.write_of_le .struct _ fits
    exact ⟨header ++ [signature], structHeader_eq_ok.2 ⟨header, written, rfl⟩⟩
  · rw [structHeader, @Composite.write_of_lt .struct _ (Nat.lt_of_not_le large)]
    exact ⟨_, rfl, rfl⟩

theorem emitText_ends (text : String) :
    (emitText text).EndsIff ((Utf8.encode text).length ≤ 2147483647) :=
  (emitSized_ends .string _ (endsIff_of _)).congr (and_iff_left trivial)

theorem ends_of_partless {value : Value} (ends : value.emit.EndsIff value.Announceable)
    (partless : value.parts = []) :
    value.emit.EndsIff (∀ part, Within part value → part.Announceable) := by
  refine ends.congr ?_
  rw [forall_within_iff, partless]
  exact (and_iff_left nofun).symm

mutual

/-- A value is packed if nothing in it is too large, and fails for that alone. -/
theorem emit_ends : (value : Value) →
    value.emit.EndsIff (∀ part, Within part value → part.Announceable)
  | null => ends_of_partless (endsIff_of _) rfl
  | boolean false => ends_of_partless (endsIff_of _) rfl
  | boolean true => ends_of_partless (endsIff_of _) rfl
  | integer _ => ends_of_partless (endsIff_of _) rfl
  | float _ => ends_of_partless (endsIff_of _) rfl
  | bytes content =>
    have ends := emitSized_ends .bytes content.length (endsIff_of content)
    ends_of_partless (ends.congr (and_iff_left trivial)) rfl
  | string text => ends_of_partless (emitText_ends text) rfl
  | list items => by
    rw [forall_within_iff]
    exact emitSized_ends .list _ (emitItems_ends items)
  | map entries => by
    refine (emitSized_ends .map _ (emitEntries_ends entries)).congr ?_
    rw [forall_within_iff, parts, List.forall_mem_map, forall₂_and, ← and_assoc]
    rfl
  | struct signature fields => by
    rw [forall_within_iff]
    exact emitStruct_ends signature (emitItems_ends fields)

theorem emitItems_ends : (items : List Value) →
    (emitItems items).EndsIff (∀ item ∈ items, ∀ part, Within part item → part.Announceable)
  | [] => (endsIff_of _).congr (iff_of_true trivial nofun)
  | item :: rest => by
    rw [List.forall_mem_cons]
    exact (emit_ends item).andThen (emitItems_ends rest)

theorem emitEntries_ends : (entries : List (String × Value)) →
    (emitEntries entries).EndsIff (∀ entry ∈ entries,
      (Utf8.encode entry.1).length ≤ 2147483647 ∧
        ∀ part, Within part entry.2 → part.Announceable)
  | [] => (endsIff_of _).congr (iff_of_true trivial nofun)
  | (key, item) :: rest => by
    rw [List.forall_mem_cons, and_assoc]
    exact (emitText_ends key).andThen ((emit_ends item).andThen (emitEntries_ends rest))

end

/-- A value is put behind whatever a buffer holds, and what is there stays. All of it is put,
and is its encoding, exactly if no text, key, byte string, list or map in it, however deep, is
longer than 2147483647 and no structure has more than 65535 fields. Otherwise it cannot be
packed, and packing it by itself fails in the same way. -/
theorem encodeInto_appends (value : Value) (destination : Bytes) :
    ∃ written, (value.encodeInto destination).1 = destination ++ written ∧
      ((value.encodeInto destination).2 = .ok () ↔
        ∀ part, Within part value → part.Announceable) ∧
      match (value.encodeInto destination).2 with
      | .ok () => value.encode = .ok written
      | .error fault => fault.kind = .notPackable ∧ value.encode = .error fault := by
  obtain ⟨done, unpackable⟩ := value.emit_ends
  rw [encodeInto_eq, encode_eq, outcome]
  cases stopped : value.emit.fault with
  | none =>
    exact ⟨_, rfl, iff_of_true rfl (done.1 stopped), rfl⟩
  | some fault =>
    have large : ¬ ∀ part, Within part value → part.Announceable := by
      rw [← done, stopped]
      nofun
    exact ⟨_, rfl, iff_of_false nofun large, unpackable fault stopped, rfl⟩

end Value
end BoltClient
