import BoltClient.Json.Exchange
import BoltClient.Proofs.Value.Arrangement

/-!
JSON documents and values on what they have in common. A document is common if its integers fit in
64 signed bits, its floats are finite and no object has a key twice; a value is, if it has no
bytes, no structure and no float that is not finite. What is common is carried over to something
common and is the same when it comes back, numbers bit by bit.

Objects and maps have no order, and each conversion may walk them in one of its own. So what comes
back is compared up to the order of entries, at any depth.
-/

namespace BoltClient

namespace Json

/-- A document that values can hold as it is. -/
inductive Common : Json → Prop where
  | null : Common null
  | boolean (value : Bool) : Common (boolean value)
  | integer {number : Int}
    (fits : -0x8000000000000000 ≤ number ∧ number ≤ 0x7fffffffffffffff) : Common (integer number)
  | float {number : Double} (finite : number.isFinite = true) : Common (float number)
  | string (text : String) : Common (string text)
  | array {items : List Json} (each : ∀ item ∈ items, Common item) : Common (array items)
  | object {entries : List (String × Json)} (distinct : (Entries.keys entries).Nodup)
    (each : ∀ entry ∈ entries, Common entry.2) : Common (object entries)

/-- The second document is the first with the entries of its objects in other orders. -/
inductive Reordered : Json → Json → Prop where
  | refl (document : Json) : Reordered document document
  | trans {first second third : Json} :
      Reordered first second → Reordered second third → Reordered first third
  | permuted {entries others : List (String × Json)} :
      entries.Perm others → Reordered (object entries) (object others)
  | inArray (before after : List Json) {item other : Json} : Reordered item other →
      Reordered (array (before ++ item :: after)) (array (before ++ other :: after))
  | inObject (before after : List (String × Json)) (key : String) {item other : Json} :
      Reordered item other →
      Reordered (object (before ++ (key, item) :: after)) (object (before ++ (key, other) :: after))

end Json

/-- A value that documents can hold as it is. -/
inductive Value.Common : Value → Prop where
  | null : Common null
  | boolean (value : Bool) : Common (boolean value)
  | integer (number : Int64) : Common (integer number)
  | float {number : Double} (finite : number.isFinite = true) : Common (float number)
  | string (text : String) : Common (string text)
  | list {items : List Value} (each : ∀ item ∈ items, Common item) : Common (list items)
  | map {entries : List (String × Value)} (distinct : (Entries.keys entries).Nodup)
    (each : ∀ entry ∈ entries, Common entry.2) : Common (map entries)

section Return

variable {α β : Type} {carry : α → β} {restore : β → α}

/-- A list comes back if its items do. -/
theorem map_map_of_back {items : List α} (back : ∀ item ∈ items, restore (carry item) = item) :
    (items.map carry).map restore = items := by
  rw [List.map_map]
  exact (List.map_congr_left (g := id) back).trans (List.map_id items)

theorem Entries.keys_map_snd (carry : α → β) (entries : Entries α) :
    keys (entries.map fun entry => (entry.1, carry entry.2)) = keys entries := by
  rw [keys, keys, List.map_map]
  rfl

/-- Entries come back if their values do. -/
theorem Entries.map_map_of_back {entries : Entries α}
    (back : ∀ entry ∈ entries, restore (carry entry.2) = entry.2) :
    (entries.map fun entry => (entry.1, carry entry.2)).map
      (fun entry => (entry.1, restore entry.2)) = entries :=
  BoltClient.map_map_of_back fun entry member => Prod.ext rfl (back entry member)

end Return

namespace Json

/-! The parts of documents and values, one by one. -/

theorem ofItems_eq_map (form : StructureForm) (items : List Value) :
    ofItems form items = items.map (ofValue form) := by
  induction items with
  | nil => rfl
  | cons item rest ih => rw [ofItems, ih, List.map_cons]

theorem ofEntries_eq_map (form : StructureForm) (entries : List (String × Value)) :
    ofEntries form entries = entries.map fun entry => (entry.1, ofValue form entry.2) := by
  induction entries with
  | nil => rfl
  | cons entry rest ih => rw [ofEntries, ih, List.map_cons]

theorem ofJsonItems_eq_map (items : List Json) :
    Value.ofJsonItems items = items.map Value.ofJson := by
  induction items with
  | nil => rfl
  | cons item rest ih => rw [Value.ofJsonItems, ih, List.map_cons]

theorem ofJsonEntries_eq_map (entries : List (String × Json)) :
    Value.ofJsonEntries entries = entries.map fun entry => (entry.1, Value.ofJson entry.2) := by
  induction entries with
  | nil => rfl
  | cons entry rest ih => rw [Value.ofJsonEntries, ih, List.map_cons]

theorem ofJson_object {entries : List (String × Json)} (distinct : (Entries.keys entries).Nodup) :
    Value.ofJson (object entries) =
      .map (entries.map fun entry => (entry.1, Value.ofJson entry.2)) := by
  rw [Value.ofJson, Value.ofPairs, ofJsonEntries_eq_map, Entries.ofPairs_of_nodup]
  rwa [Entries.keys_map_snd]

theorem ofJson_integer {number : Int}
    (fits : -0x8000000000000000 ≤ number ∧ number ≤ 0x7fffffffffffffff) :
    Value.ofJson (integer number) = .integer (Int64.ofInt number) := by
  have held : Value.fitsInteger number = true := by
    rw [Value.fitsInteger, Bool.and_eq_true, decide_eq_true_eq, decide_eq_true_eq]
    exact fits
  rw [Value.ofJson, if_pos held, Value.ofInt]

/-! There and back. -/

section Back

variable (form : StructureForm)

/-- A common document comes back from its value. -/
theorem ofValue_ofJson {document : Json} (common : document.Common) :
    ofValue form (Value.ofJson document) = document := by
  induction common with
  | null | boolean _ | string _ => rfl
  | integer fits =>
    have number := Int64.toInt_ofInt_of_le fits.1 (Int.lt_of_le_of_lt fits.2 (by decide))
    rw [ofJson_integer fits, ofValue, number]
  | float finite =>
    rw [Value.ofJson, ofValue, ofDouble, if_pos finite]
  | array each ih =>
    rw [Value.ofJson, ofValue, ofJsonItems_eq_map, ofItems_eq_map, map_map_of_back ih]
  | object distinct each ih =>
    rw [ofJson_object distinct, ofValue, ofEntries_eq_map, Entries.map_map_of_back ih]

/-- A common value comes back from its document. -/
theorem ofJson_ofValue {value : Value} (common : value.Common) :
    Value.ofJson (ofValue form value) = value := by
  induction common with
  | null | boolean _ | string _ => rfl
  | integer number =>
    have fits := And.intro number.minValue_le_toInt number.toInt_le
    rw [ofValue, ofJson_integer fits, Int64.ofInt_toInt]
  | float finite =>
    rw [ofValue, ofDouble, if_pos finite, Value.ofJson]
  | list each ih =>
    rw [ofValue, Value.ofJson, ofItems_eq_map, ofJsonItems_eq_map, map_map_of_back ih]
  | map distinct each ih =>
    rw [ofValue, ofEntries_eq_map, ofJson_object, Entries.map_map_of_back ih]
    rwa [Entries.keys_map_snd]

/-- The value of a common document is common. -/
theorem common_ofJson {document : Json} (common : document.Common) :
    (Value.ofJson document).Common := by
  induction common with
  | null => exact .null
  | boolean value => exact .boolean value
  | string text => exact .string text
  | integer fits =>
    rw [ofJson_integer fits]
    exact .integer _
  | float finite => exact .float finite
  | array each ih =>
    rw [Value.ofJson, ofJsonItems_eq_map]
    exact .list (List.forall_mem_map.2 ih)
  | object distinct each ih =>
    rw [ofJson_object distinct]
    exact .map (by rwa [Entries.keys_map_snd]) (List.forall_mem_map.2 ih)

/-- The document of a common value is common. -/
theorem common_ofValue {value : Value} (common : value.Common) : (ofValue form value).Common := by
  induction common with
  | null => exact .null
  | boolean value => exact .boolean value
  | string text => exact .string text
  | integer number => exact .integer ⟨number.minValue_le_toInt, number.toInt_le⟩
  | float finite =>
    rw [ofValue, ofDouble, if_pos finite]
    exact .float finite
  | list each ih =>
    rw [ofValue, ofItems_eq_map]
    exact .array (List.forall_mem_map.2 ih)
  | map distinct each ih =>
    rw [ofValue, ofEntries_eq_map]
    exact .object (by rwa [Entries.keys_map_snd]) (List.forall_mem_map.2 ih)

end Back

/-! Other orders of entries. -/

/-- Another order of a common document is one. -/
theorem Reordered.common {document read : Json} (order : document.Reordered read)
    (common : document.Common) : read.Common := by
  induction order with
  | refl => exact common
  | trans _ _ one two => exact two (one common)
  | permuted moved =>
    cases common with
    | object distinct each =>
      exact .object ((moved.map Prod.fst).nodup_iff.1 distinct)
        fun entry member => each entry (moved.mem_iff.2 member)
  | inArray before after _ ih =>
    cases common with
    | array each =>
      rw [List.forall_mem_append, List.forall_mem_cons] at each
      refine .array ?_
      rw [List.forall_mem_append, List.forall_mem_cons]
      exact ⟨each.1, ih each.2.1, each.2.2⟩
  | inObject before after key _ ih =>
    cases common with
    | object distinct each =>
      rw [List.forall_mem_append, List.forall_mem_cons] at each
      refine .object (by simpa [Entries.keys] using distinct) ?_
      rw [List.forall_mem_append, List.forall_mem_cons]
      exact ⟨each.1, ih each.2.1, each.2.2⟩

/-- Documents that differ in the orders of objects have values that differ in those of maps. -/
theorem Reordered.ofJson {document read : Json} (order : document.Reordered read)
    (common : document.Common) : (Value.ofJson document).Reordered (Value.ofJson read) := by
  induction order with
  | refl => exact .refl _
  | trans first _ one two => exact .trans (one common) (two (first.common common))
  | permuted moved =>
    cases common with
    | object distinct _ =>
      rw [ofJson_object distinct, ofJson_object ((moved.map Prod.fst).nodup_iff.1 distinct)]
      exact .permuted (moved.map _)
  | inArray before after _ ih =>
    cases common with
    | array each =>
      rw [List.forall_mem_append, List.forall_mem_cons] at each
      simp only [Value.ofJson, ofJsonItems_eq_map, List.map_append, List.map_cons]
      exact .inList _ _ (ih each.2.1)
  | inObject before after key inner ih =>
    have moved := (Reordered.inObject before after key inner).common common
    cases common with
    | object distinct each =>
      cases moved with
      | object still _ =>
        rw [List.forall_mem_append, List.forall_mem_cons] at each
        rw [ofJson_object distinct, ofJson_object still]
        simp only [List.map_append, List.map_cons]
        exact .inMap _ _ key (ih each.2.1)

/-- Values that differ in the orders of maps have documents that differ in those of objects. -/
theorem Reordered.ofValue {value walked : Value} (order : value.Reordered walked) :
    (ofValue .plain value).Reordered (ofValue .plain walked) := by
  induction order with
  | refl => exact .refl _
  | trans _ _ one two => exact .trans one two
  | permuted moved =>
    simp only [Json.ofValue, ofEntries_eq_map]
    exact .permuted (moved.map _)
  | inList before after _ ih =>
    simp only [Json.ofValue, ofItems_eq_map, List.map_append, List.map_cons]
    exact .inArray _ _ ih
  | inMap before after key _ ih =>
    simp only [Json.ofValue, ofEntries_eq_map, List.map_append, List.map_cons]
    exact .inObject _ _ key ih
  | inStruct signature before after _ ih =>
    simp only [Json.ofValue, ofItems_eq_map, List.map_append, List.map_cons]
    exact .inObject [("signature", ofByte signature)] [] "fields" (.inArray _ _ ih)

/-- A common document comes back from its value, and a common value from its document, numbers
with their type and all their bits, however deep; and so they do, up to the order of entries, when
every object and every map on the way is walked in an order of its own. What is common becomes
something common. -/
theorem exchange_lossless :
    (∀ document : Json, document.Common →
      (Value.ofJson document).Common ∧ ofValue .plain (Value.ofJson document) = document ∧
      ∀ read walked, document.Reordered read → (Value.ofJson read).Reordered walked →
        document.Reordered (ofValue .plain walked)) ∧
    ∀ value : Value, value.Common →
      (ofValue .plain value).Common ∧ Value.ofJson (ofValue .plain value) = value ∧
      ∀ walked document, value.Reordered walked → (ofValue .plain walked).Reordered document →
        value.Reordered (Value.ofJson document) := by
  constructor
  · intro document common
    refine ⟨common_ofJson common, ofValue_ofJson _ common, fun read walked order other => ?_⟩
    have back := Reordered.ofValue other
    rw [ofValue_ofJson _ (order.common common)] at back
    exact .trans order back
  · intro value common
    refine ⟨common_ofValue _ common, ofJson_ofValue _ common, fun walked document order other => ?_⟩
    have back := Reordered.ofJson (.trans (.ofValue order) other) (common_ofValue _ common)
    rwa [ofJson_ofValue _ common] at back

/-- A negative zero beside the least integer and a float that is whole, read and walked in other
orders. -/
theorem exchange_lossless_swapped :
    let zero : Double := ⟨0x8000000000000000⟩
    let one : Double := ⟨0x3FF0000000000000⟩
    let numbers : Json := array [integer (-0x8000000000000000), float one]
    let values : Value := .list [.integer (-0x8000000000000000), .float one]
    let document : Json := object [("zero", float zero), ("numbers", numbers)]
    let value : Value := .map [("zero", .float zero), ("numbers", values)]
    document.Common ∧
    document.Reordered (object [("numbers", numbers), ("zero", float zero)]) ∧
    (Value.ofJson (object [("numbers", numbers), ("zero", float zero)])).Reordered value ∧
    document.Reordered (ofValue .plain value) ∧
    value.Common ∧ Value.ofJson (ofValue .plain value) = value := by
  intro zero one numbers values document value
  have numbersCommon : numbers.Common := by
    refine .array ?_
    rw [List.forall_mem_cons, List.forall_mem_singleton]
    exact ⟨.integer (by decide), .float (by decide)⟩
  have common : document.Common := by
    refine .object (by decide) ?_
    rw [List.forall_mem_cons, List.forall_mem_singleton]
    exact ⟨.float (by decide), numbersCommon⟩
  have order : document.Reordered (object [("numbers", numbers), ("zero", float zero)]) :=
    .permuted (.swap _ _ [])
  have other : (Value.ofJson (object [("numbers", numbers), ("zero", float zero)])).Reordered
      value := .permuted (.swap _ _ [])
  obtain ⟨valueCommon, -, back⟩ := exchange_lossless.1 document common
  exact ⟨common, order, other, back _ _ order other, valueCommon,
    (exchange_lossless.2 value valueCommon).2.1⟩

end Json
end BoltClient
