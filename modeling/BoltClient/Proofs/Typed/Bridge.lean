import BoltClient.Entity.Form
import BoltClient.Proofs.Value.Arrangement

/-!
Values as data. A value that presents itself as data is written as itself: a
structure goes as a record of the reserved name, a map key by key. Read as typed
data it is rebuilt as itself: a structure is read as a map of two entries, told
apart by the reserved signature key. So a value is rebuilt if no map of its own
has that key.
-/

namespace BoltClient

/-- A byte as an integer is the number that it is. -/
theorem Value.toInt_ofInt_byte (byte : UInt8) :
    (Int64.ofInt (byte.toNat : Int)).toInt = byte.toNat := by
  have bounded : byte.toNat < 256 := byte.toNat_lt
  apply Int64.toInt_ofInt_of_le <;> omega

namespace Datum

theorem toValue_integer (number : Int64) :
    (integer number.toInt).toValue = .ok (.integer number) := by
  have fits : Value.fitsInteger number.toInt = true := by
    rw [Value.fitsInteger, Bool.and_eq_true, decide_eq_true_eq, decide_eq_true_eq]
    exact ⟨number.minValue_le_toInt, number.toInt_le⟩
  rw [toValue, if_pos fits, Value.ofInt, Int64.ofInt_toInt]

theorem toValue_byte (byte : UInt8) : (integer byte.toNat).toValue = .ok (.ofInt byte.toNat) := by
  have written := toValue_integer (Int64.ofInt byte.toNat)
  rwa [Value.toInt_ofInt_byte] at written

theorem signatureByte_ofInt (byte : UInt8) : signatureByte (.ofInt byte.toNat) = .ok byte := by
  have bounded : byte.toNat < 256 := byte.toNat_lt
  have number : (Value.ofInt byte.toNat).asInteger = .ok (Int64.ofInt byte.toNat) := rfl
  rw [signatureByte, number]
  change (if _ then _ else _) = _
  rw [Value.toInt_ofInt_byte, if_pos (by omega), Int.toNat_natCast, UInt8.ofNat_toNat]
  rfl

/-- The record of a structure is put together to that structure again. -/
theorem toValue_structure {signature : UInt8} {fields : List Value} {items : List Datum}
    (written : itemsToValues items = .ok fields) :
    (record structureToken [(signatureKey, integer signature.toNat),
      (fieldsKey, sequence items)]).toValue = .ok (.struct signature fields) := by
  have other : fieldsKey ≠ signatureKey := by decide
  rw [toValue, if_pos rfl, partsToStructure, if_pos rfl, toValue_byte]
  change (signatureByte _ >>= _) = _
  rw [signatureByte_ofInt]
  change partsToStructure (some signature) none _ = _
  rw [partsToStructure, if_neg other, if_pos rfl, toValue, written]
  rfl

mutual

theorem toValue_ofValue : (value : Value) → value.DistinctKeys →
    (ofValue value).toValue = .ok value
  | .null, _ | .boolean _, _ | .float _, _ | .bytes _, _ | .string _, _ => rfl
  | .integer number, _ => toValue_integer number
  | .list items, distinct => by
    rw [Value.DistinctKeys] at distinct
    rw [ofValue, toValue, itemsToValues_ofItems items distinct]
    rfl
  | .map entries, distinct => by
    rw [Value.DistinctKeys] at distinct
    rw [ofValue, toValue]
    exact stepsToValue_stepsOfEntries entries distinct.2 [] distinct.1
  | .struct signature fields, distinct => by
    rw [Value.DistinctKeys] at distinct
    rw [ofValue]
    exact toValue_structure (itemsToValues_ofItems fields distinct)
termination_by structural value => value

theorem itemsToValues_ofItems : (items : List Value) → Value.DistinctKeysOfItems items →
    itemsToValues (ofItems items) = .ok items
  | [], _ => rfl
  | item :: rest, distinct => by
    rw [Value.DistinctKeysOfItems] at distinct
    rw [ofItems, itemsToValues, toValue_ofValue item distinct.1,
      itemsToValues_ofItems rest distinct.2]
    rfl
termination_by structural items => items

/-- Whatever keys were written before, as long as none of them comes again. -/
theorem stepsToValue_stepsOfEntries : (entries : List (String × Value)) →
    Value.DistinctKeysOfEntries entries → (written : Entries Value) →
      (written ++ entries).keys.Nodup →
        stepsToValue none written (stepsOfEntries entries) = .ok (.map (written ++ entries))
  | [], _, written, _ => by
    rw [List.append_nil]
    rfl
  | (key, item) :: rest, distinct, written, unique => by
    rw [Value.DistinctKeysOfEntries] at distinct
    have regrouped := Entries.append_cons_of_nodup unique
    rw [regrouped] at unique ⊢
    have later := stepsToValue_stepsOfEntries rest distinct.2 (written.put key item) unique
    rw [stepsOfEntries, stepsToValue]
    change stepsToValue (some key) written _ = _
    rw [stepsToValue, toValue_ofValue item distinct.1]
    exact later
termination_by structural entries => entries

end

end Datum

/-- Items that are read as they were written are read so as a sequence. -/
theorem Decoder.sequence_map {α : Type} {read : Decoder α} {write : α → Value} {items : List α}
    (returns : ∀ item ∈ items, read (write item) = .ok item) :
    sequence read (.list (items.map write)) = .ok items := by
  change (items.map write).mapM read = .ok items
  induction items with
  | nil => rfl
  | cons item rest ih =>
    rw [List.forall_mem_cons] at returns
    rw [List.map_cons, List.mapM_cons, returns.1, ih returns.2]
    rfl

namespace Value

theorem mapless_ofTexts (texts : List String) : (ofTexts texts).EachMap fun _ => False :=
  eachMapOfItems_iff.2 fun item member => by
    obtain ⟨text, -, rfl⟩ := List.mem_map.1 member
    trivial

/-- No map in the value has the key that tells structures apart. -/
def Unreserved (value : Value) : Prop := value.EachMap (signatureKey ∉ ·)

mutual

theorem rebuild_self : (value : Value) → value.DistinctKeys → value.EachMap (signatureKey ∉ ·) →
    value.rebuild = .ok value
  | null, _, _ | boolean _, _, _ | integer _, _, _ | float _, _, _ | bytes _, _, _
  | string _, _, _ => rfl
  | list items, distinct, plain => by
    rw [DistinctKeys] at distinct
    rw [EachMap] at plain
    rw [rebuild, rebuildItems_self items distinct plain]
    rfl
  | map [], _, _ => rfl
  | map ((key, item) :: rest), distinct, plain => by
    rw [DistinctKeys, DistinctKeysOfEntries] at distinct
    rw [EachMap, EachMapOfEntries] at plain
    have ordinary : key ≠ signatureKey := fun same => plain.1 (same ▸ List.mem_cons_self)
    rw [rebuild, rebuildEntries, if_neg ordinary, rebuild_self item distinct.2.1 plain.2.1,
      rebuildOthers_self rest distinct.2.2 plain.2.2]
    exact congrArg (fun entries => Except.ok (map entries)) (Entries.ofPairs_of_nodup distinct.1)
  | struct signature fields, distinct, plain => by
    rw [DistinctKeys] at distinct
    rw [EachMap] at plain
    rw [rebuild, rebuildItems_self fields distinct plain]
    rfl
termination_by structural value => value

theorem rebuildItems_self : (items : List Value) → DistinctKeysOfItems items →
    EachMapOfItems (signatureKey ∉ ·) items → rebuildItems items = .ok items
  | [], _, _ => rfl
  | item :: rest, distinct, plain => by
    rw [DistinctKeysOfItems] at distinct
    rw [EachMapOfItems] at plain
    rw [rebuildItems, rebuild_self item distinct.1 plain.1,
      rebuildItems_self rest distinct.2 plain.2]
    rfl
termination_by structural items => items

theorem rebuildOthers_self : (entries : List (String × Value)) → DistinctKeysOfEntries entries →
    EachMapOfEntries (signatureKey ∉ ·) entries → rebuildOthers entries = .ok entries
  | [], _, _ => rfl
  | (_, item) :: rest, distinct, plain => by
    rw [DistinctKeysOfEntries] at distinct
    rw [EachMapOfEntries] at plain
    rw [rebuildOthers, rebuild_self item distinct.1 plain.1,
      rebuildOthers_self rest distinct.2 plain.2]
    rfl
termination_by structural entries => entries

end

/-- Properties are read as themselves, whatever their own keys are. -/
theorem properties_self {entries : Entries Value} (distinct : DistinctKeysOfEntries entries)
    (plain : EachMapOfEntries (signatureKey ∉ ·) entries) :
    Decoder.properties (map entries) = .ok entries := by
  have inside : rebuildOthers entries = .ok entries := rebuildOthers_self entries distinct plain
  refine Eq.trans ?_ inside
  clear distinct plain inside
  change (entries.mapM fun entry => rebuild entry.2 >>= fun item =>
    Except.ok (entry.1, item)) = _
  induction entries with
  | nil => rfl
  | cons entry rest ih =>
    rw [List.mapM_cons, ih, rebuildOthers]
    cases entry.2.rebuild <;> rfl

/-- In whatever order its maps are walked, a value comes back when it is written as
data, and when it is read as typed data if none of its maps has the reserved key. -/
theorem written_and_rebuilt {value walked : Value} (distinct : value.DistinctKeys)
    (order : value.Reordered walked) :
    (Datum.ofValue walked).toValue = .ok walked ∧
    (value.Unreserved → walked.rebuild = .ok walked) := by
  have proper : walked.DistinctKeys := order.distinctKeys distinct
  constructor
  · exact Datum.toValue_ofValue walked proper
  · intro plain
    apply rebuild_self walked proper
    exact order.eachMap (fun reordered absent found => absent (reordered.mem_iff.2 found)) plain

/-- A structure within a map, and the bits of a NaN, with the two entries swapped. -/
theorem written_and_rebuilt_swapped :
    let point : Value := struct 0x58 [integer 7203, bytes [0, 255], map [("x", null)]]
    let number : Value := float ⟨0x7FF8000000000001⟩
    let value : Value := map [("at", point), ("n", number)]
    let walked : Value := map [("n", number), ("at", point)]
    value.Reordered walked ∧ value.Unreserved ∧
      (Datum.ofValue walked).toValue = .ok walked ∧ walked.rebuild = .ok walked := by
  intro point number value walked
  have order : value.Reordered walked := .permuted (.swap ("n", number) ("at", point) [])
  have distinct : value.DistinctKeys := by
    simp [value, point, number, DistinctKeys, DistinctKeysOfEntries, DistinctKeysOfItems,
      Entries.keys]
  have plain : value.Unreserved := by
    simp [value, point, number, Unreserved, EachMap, EachMapOfEntries, EachMapOfItems,
      Entries.keys, signatureKey]
  have survives := written_and_rebuilt distinct order
  exact ⟨order, plain, survives.1, survives.2 plain⟩

/-- A map that has the reserved key is taken for a structure. -/
example : (map [(signatureKey, .ofInt 78)]).rebuild = .ok (struct 78 []) := by rfl

end Value
end BoltClient
