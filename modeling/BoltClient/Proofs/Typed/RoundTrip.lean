import Mathlib.Data.List.Nodup
import BoltClient.Proofs.Message.Fields
import BoltClient.Proofs.Typed.Bridge
import BoltClient.Proofs.Typed.Typing

/-!
Typed data written to a value and read back along their shape. Each kind of compound is read back
if its parts are: lists item by item, maps and records entry by entry in whatever order their
entries come, variants by their tag. By induction on the shape, all data of a derived shape come
back as they were.
-/

namespace BoltClient

open Value (EntryReordered)

namespace Shape

/-- That a datum is written as a value, from which it is read in whatever order the maps of the
value are walked. -/
def ReturnsFrom (shape : Shape) (datum : Datum) (value : Value) : Prop :=
  datum.toValue = .ok value ∧
    ∀ walked, value.Reordered walked →
      ∃ back, shape.read walked = .ok back ∧ datum.Rearranged back

def Returns (shape : Shape) (datum : Datum) : Prop := ∃ value, shape.ReturnsFrom datum value

section Plain

variable {shape inner : Shape} {datum : Datum}

/-- Without maps there is but one order to read a value in. -/
theorem returns_of_mapless {value : Value} (written : datum.toValue = .ok value)
    (mapless : value.EachMap fun _ => False) (reads : shape.read value = .ok datum) :
    shape.Returns datum := by
  refine ⟨value, written, fun walked order => ⟨datum, ?_, .refl datum⟩⟩
  rw [order.eq_of_mapless mapless]
  exact reads

theorem returns_integer {kind : IntegerKind} {number : Int}
    (wide : IntegerKind.word.low ≤ kind.low) (low : kind.low ≤ number)
    (high : number ≤ kind.high) (fits : number ≤ IntegerKind.word.high) :
    (integer kind).Returns (.integer number) := by
  have least : IntegerKind.word.low = -2 ^ 63 := rfl
  have most : IntegerKind.word.high = 2 ^ 63 - 1 := rfl
  obtain ⟨stored, rfl⟩ : ∃ stored : Int64, stored.toInt = number :=
    ⟨Int64.ofInt number, Int64.toInt_ofInt_of_le (by omega) (by omega)⟩
  refine returns_of_mapless (Datum.toValue_integer stored) trivial ?_
  rw [Shape.read, Decoder.integer, if_pos ⟨low, high⟩]
  rfl

theorem returns_single {number : Single} (proper : number.isNaN = false) :
    single.Returns (.single number) := by
  refine returns_of_mapless rfl trivial ?_
  change Except.ok (Datum.single (Double.ofSingle number).toSingle) = _
  rw [Double.toSingle_ofSingle proper]

theorem read_singleton (c : Char) : char.read (.string (String.singleton c)) = .ok (.char c) := by
  rw [Shape.read, Decoder.char, String.toList_singleton]
  rfl

theorem returns_present (returns : inner.Returns datum) (set : datum.toValue ≠ .ok .null) :
    (option inner).Returns (.present datum) := by
  obtain ⟨value, written, reads⟩ := returns
  refine ⟨value, written, fun walked order => ?_⟩
  obtain ⟨back, read, same⟩ := reads walked order
  refine ⟨.present back, ?_, .present same⟩
  have filled : walked ≠ .null := by
    rintro rfl
    exact set (written.trans (congrArg _ (order.symm.eq_of_mapless trivial)))
  rw [Shape.read, read]
  · rfl
  · exact filled

theorem returns_newtype (returns : inner.Returns datum) :
    (newtype inner).Returns (.newtype datum) := by
  obtain ⟨value, written, reads⟩ := returns
  refine ⟨value, written, fun walked order => ?_⟩
  obtain ⟨back, read, same⟩ := reads walked order
  refine ⟨.newtype back, ?_, .newtype same⟩
  rw [Shape.read, read]
  rfl

end Plain

section Lists

variable {shape inner : Shape} {shapes : List Shape} {items : List Datum}

/-- That values are read as data one by one, each along its own shape. -/
inductive ReadEach : List Shape → List Value → List Datum → Prop
  | nil : ReadEach [] [] []
  | cons {shape : Shape} {shapes : List Shape} {value : Value} {values : List Value}
      {datum : Datum} {data : List Datum} (first : shape.read value = .ok datum)
      (others : ReadEach shapes values data) :
      ReadEach (shape :: shapes) (value :: values) (datum :: data)

/-- Items that come back one by one are written as a list that is read item by item. -/
theorem returns_each (returns : List.Forall₂ Returns shapes items) :
    ∃ values, Datum.itemsToValues items = .ok values ∧
      ∀ walked, List.Forall₂ Value.Reordered values walked →
        ∃ backs, ReadEach shapes walked backs ∧ List.Forall₂ Datum.Rearranged items backs := by
  induction returns with
  | nil =>
    refine ⟨[], rfl, fun walked order => ⟨[], ?_, .nil⟩⟩
    cases order
    exact .nil
  | cons here _ ih =>
    obtain ⟨value, written, reads⟩ := here
    obtain ⟨values, writtenOthers, readsOthers⟩ := ih
    refine ⟨value :: values, ?_, fun walked order => ?_⟩
    · rw [Datum.itemsToValues, written, writtenOthers]
      rfl
    · cases order with
      | cons first later =>
        obtain ⟨back, read, same⟩ := reads _ first
        obtain ⟨backs, readOthers, sameOthers⟩ := readsOthers _ later
        exact ⟨back :: backs, .cons read readOthers, .cons same sameOthers⟩

variable {walked : List Value} {backs : List Datum}

theorem ReadEach.mapM (each : ReadEach shapes walked backs)
    (alike : ∀ shape ∈ shapes, shape = inner) : walked.mapM inner.read = .ok backs := by
  induction each with
  | nil => rfl
  | cons first _ ih =>
    rw [List.forall_mem_cons] at alike
    obtain ⟨rfl, alike⟩ := alike
    rw [List.mapM_cons, first, ih alike]
    rfl

theorem ReadEach.copies (each : ReadEach shapes walked backs)
    (alike : ∀ shape ∈ shapes, shape = inner) (wanted : String) (index : Nat) :
    Decoder.copies inner.read wanted shapes.length index walked = .ok (backs, []) := by
  induction each generalizing index with
  | nil => rfl
  | cons first _ ih =>
    rw [List.forall_mem_cons] at alike
    obtain ⟨rfl, alike⟩ := alike
    rw [List.length_cons, Decoder.copies, Decoder.nextItem, first]
    change (Decoder.copies _ _ _ _ _ >>= _) = _
    rw [ih alike]
    rfl

theorem ReadEach.readItems (each : ReadEach shapes walked backs) (wanted : String)
    (index : Nat) : Shape.readItems shapes wanted index walked = .ok (backs, []) := by
  induction each generalizing index with
  | nil => rfl
  | cons first _ ih =>
    rw [Shape.readItems, Decoder.nextItem, first]
    change (Shape.readItems _ _ _ _ >>= _) = _
    rw [ih]
    rfl

/-- What uses up the items is read exactly. -/
theorem exactly_of_usedUp {read : List Value → Except CodecFault (List Datum × List Value)}
    (reads : read walked = .ok (backs, [])) : Decoder.exactly read walked = .ok backs := by
  rw [Decoder.exactly, reads]
  rfl

theorem ReadEach.exactly (each : ReadEach shapes walked backs) (wanted : String) :
    Decoder.exactly (Shape.readItems shapes wanted 0) walked = .ok backs :=
  exactly_of_usedUp (each.readItems wanted 0)

theorem returns_of_items (returns : List.Forall₂ Returns shapes items)
    (reads : ∀ walked backs, ReadEach shapes walked backs →
      shape.read (.list walked) = .ok (.sequence backs)) : shape.Returns (.sequence items) := by
  obtain ⟨values, written, readsEach⟩ := returns_each returns
  refine ⟨.list values, ?_, fun walked order => ?_⟩
  · rw [Datum.toValue, written]
    rfl
  · obtain ⟨others, rfl, inside⟩ := order.of_list
    obtain ⟨backs, each, same⟩ := readsEach others inside
    exact ⟨.sequence backs, reads others backs each, .sequence same⟩

/-- Items alike, each with the shape of all. -/
theorem forall₂_alike (returns : ∀ item ∈ items, inner.Returns item) :
    List.Forall₂ Returns (items.map fun _ => inner) items :=
  List.forall₂_map_left_iff.2 (List.forall₂_same.2 returns)

theorem eq_of_mem_alike : ∀ shape ∈ items.map fun _ => inner, shape = inner := by
  intro shape member
  obtain ⟨_, -, rfl⟩ := List.mem_map.1 member
  rfl

theorem returns_sequence (returns : ∀ item ∈ items, inner.Returns item) :
    (sequence inner).Returns (.sequence items) := by
  refine returns_of_items (forall₂_alike returns) fun walked backs each => ?_
  have read : Decoder.sequence inner.read (.list walked) = .ok backs :=
    each.mapM eq_of_mem_alike
  rw [Shape.read, read]
  rfl

theorem returns_array (returns : ∀ item ∈ items, inner.Returns item) :
    (array items.length inner).Returns (.sequence items) := by
  refine returns_of_items (forall₂_alike returns) fun walked backs each => ?_
  have taken (wanted : String) :
      Decoder.copies inner.read wanted items.length 0 walked = .ok (backs, []) := by
    have copied := each.copies eq_of_mem_alike wanted 0
    rwa [List.length_map] at copied
  rw [Shape.read]
  exact congrArg (Except.map Datum.sequence) (exactly_of_usedUp (taken _))

theorem returns_tuple (returns : List.Forall₂ Returns shapes items) :
    (tuple shapes).Returns (.sequence items) := by
  refine returns_of_items returns fun walked backs each => ?_
  rw [Shape.read]
  exact congrArg (Except.map Datum.sequence) (each.exactly _)

theorem returns_tupleRecord (name : String) (returns : List.Forall₂ Returns shapes items) :
    (tupleRecord name shapes).Returns (.sequence items) := by
  refine returns_of_items returns fun walked backs each => ?_
  rw [Shape.read]
  exact congrArg (Except.map Datum.sequence) (each.exactly _)

end Lists

section Records

variable {fields : List (String × FieldRule × Shape)} {data : List (String × Datum)}

/-- That the datum of a field comes back. -/
def FieldReturns (field : String × FieldRule × Shape) (entry : String × Datum) : Prop :=
  field.1 = entry.1 ∧ field.2.2.Returns entry.2

/-- That each entry is found under its key, up to the order of maps. -/
def Found (entries walked : Entries Value) : Prop :=
  ∀ entry ∈ entries, Option.Rel Value.Reordered (some entry.2) (walked.get? entry.1)

theorem found_of_reordered {entries walked : Entries Value} (distinct : entries.keys.Nodup)
    (order : (Value.map entries).Reordered (.map walked)) : Found entries walked := by
  rintro ⟨name, value⟩ member
  have here : entries.get? name = some value := (Entries.mem_iff_get? distinct name value).1 member
  rw [← here]
  exact order.agree distinct name

theorem returns_fields (returns : List.Forall₂ FieldReturns fields data) :
    ∃ values, Datum.fieldsToValues data = .ok values ∧ values.map Prod.fst = fields.map Prod.fst ∧
      ∀ walked, Found values walked →
        ∃ backs, (fieldsOf fields).Reads walked backs ∧ Datum.RearrangedUnder data backs := by
  induction returns with
  | nil => exact ⟨[], rfl, rfl, fun walked _ => ⟨[], rfl, .nil⟩⟩
  | @cons field entry fields data here _ ih =>
    obtain ⟨name, rule, shape⟩ := field
    obtain ⟨_, datum⟩ := entry
    obtain ⟨rfl, value, written, reads⟩ := here
    obtain ⟨values, writtenOthers, named, readsOthers⟩ := ih
    refine ⟨(name, value) :: values, ?_, ?_, fun walked found => ?_⟩
    · rw [Datum.fieldsToValues, written, writtenOthers]
      rfl
    · rw [List.map_cons, List.map_cons, named]
    · rw [Found, List.forall_mem_cons] at found
      obtain ⟨first, later⟩ := found
      cases there : walked.get? name with
      | none =>
        rw [there] at first
        cases first
      | some item =>
        rw [there] at first
        cases first with
        | some order =>
          obtain ⟨back, read, same⟩ := reads item order
          obtain ⟨backs, readOthers, sameOthers⟩ := readsOthers walked later
          refine ⟨(name, back) :: backs, ?_, .cons name same sameOthers⟩
          rw [fieldsOf]
          exact ((Record.Reads.pure _).apply (.field_of_found there read)).apply readOthers

/-- Fields under distinct names are written as a map from which they are read. -/
theorem returns_map_of_fields (distinct : (fields.map Prod.fst).Nodup)
    (returns : List.Forall₂ FieldReturns fields data) :
    ∃ values, Datum.fieldsToValues data = .ok values ∧ Value.ofPairs values = .map values ∧
      ∀ walked, (Value.map values).Reordered walked →
        ∃ entries backs, walked = .map entries ∧ (fieldsOf fields).Reads entries backs ∧
          Datum.RearrangedUnder data backs := by
  obtain ⟨values, written, named, reads⟩ := returns_fields returns
  have unique : (Entries.keys values).Nodup := by rwa [Entries.keys, named]
  refine ⟨values, written, congrArg Value.map (Entries.ofPairs_of_nodup unique),
    fun walked order => ?_⟩
  obtain ⟨between, entries, rfl, -, -⟩ := order.of_map
  obtain ⟨backs, read, same⟩ := reads entries (found_of_reordered unique order)
  exact ⟨entries, backs, rfl, read, same⟩

theorem returns_record {name : String} (ordinary : name ≠ structureToken)
    (distinct : (fields.map Prod.fst).Nodup) (returns : List.Forall₂ FieldReturns fields data) :
    (record name fields).Returns (.record name data) := by
  obtain ⟨values, written, proper, reads⟩ := returns_map_of_fields distinct returns
  refine ⟨.map values, ?_, fun walked order => ?_⟩
  · rw [Datum.toValue, if_neg ordinary, written]
    exact congrArg _ proper
  · obtain ⟨entries, backs, rfl, read, same⟩ := reads walked order
    refine ⟨.record name backs, ?_, .record name same⟩
    rw [Shape.read, read.decoder name]
    rfl

end Records

section Maps

variable {key inner : Shape} {entries : List (Datum × Datum)}

/-- That a key is written as a name from which it is read. -/
def KeyNamed (key : Shape) (datum : Datum) (name : String) : Prop :=
  datum.toValue = .ok (.string name) ∧ key.read (.string name) = .ok datum

theorem keyNamed_biUnique (key : Shape) : Relator.BiUnique (KeyNamed key) := by
  constructor
  · intro datum name other ⟨_, read⟩ ⟨_, readOther⟩
    exact Except.ok.inj (read.symm.trans readOther)
  · intro datum name other ⟨written, _⟩ ⟨writtenOther, _⟩
    exact Value.string.inj (Except.ok.inj (written.symm.trans writtenOther))

theorem exists_keyNamed (textual : key = .text ∨ key = .char) {datum : Datum}
    (holds : key.Holds datum) : ∃ name, KeyNamed key datum name := by
  rcases textual with rfl | rfl
  · cases holds with
    | text content => exact ⟨content, rfl, rfl⟩
  · cases holds with
    | char c => exact ⟨String.singleton c, rfl, read_singleton c⟩

/-- That an entry is written under the name of its key, and its item comes back from there. -/
def EntryReturns (key inner : Shape) (entry : Datum × Datum) (written : String × Value) : Prop :=
  KeyNamed key entry.1 written.1 ∧ inner.ReturnsFrom entry.2 written.2

theorem exists_entries_returned
    (named : ∀ entry ∈ entries, ∃ name, KeyNamed key entry.1 name)
    (returns : ∀ entry ∈ entries, inner.Returns entry.2) :
    ∃ values, List.Forall₂ (EntryReturns key inner) entries values := by
  induction entries with
  | nil => exact ⟨[], .nil⟩
  | cons entry rest ih =>
    rw [List.forall_mem_cons] at named returns
    obtain ⟨name, keyed⟩ := named.1
    obtain ⟨value, returned⟩ := returns.1
    obtain ⟨values, others⟩ := ih named.2 returns.2
    exact ⟨(name, value) :: values, .cons ⟨keyed, returned⟩ others⟩

theorem keys_nodup {values : Entries Value} (distinct : (entries.map Prod.fst).Nodup)
    (returns : List.Forall₂ (EntryReturns key inner) entries values) : values.keys.Nodup := by
  have named : List.Forall₂ (KeyNamed key) (entries.map Prod.fst) values.keys := by
    rw [Entries.keys, List.forall₂_map_left_iff, List.forall₂_map_right_iff]
    exact returns.imp fun _ _ entry => entry.1
  exact (List.rel_nodup (keyNamed_biUnique key) named).1 distinct

/-- Whatever was written before, as long as no name comes twice. -/
theorem stepsToValue_of_entries {values : Entries Value}
    (returns : List.Forall₂ (EntryReturns key inner) entries values) (before : Entries Value)
    (unique : (before ++ values).keys.Nodup) :
    Datum.stepsToValue none before
        (entries.flatMap fun (key, item) => [(.key, key), (.item, item)]) =
      .ok (.map (before ++ values)) := by
  induction returns generalizing before with
  | nil =>
    rw [List.append_nil]
    rfl
  | @cons entry written entries values here _ ih =>
    obtain ⟨name, item⟩ := entry
    obtain ⟨text, value⟩ := written
    obtain ⟨⟨named, -⟩, filled, -⟩ := here
    have regrouped := Entries.append_cons_of_nodup unique
    rw [regrouped] at unique ⊢
    have later := ih (before.put text value) unique
    rw [List.flatMap_cons]
    change Datum.stepsToValue none before ((.key, name) :: (.item, item) :: _) = _
    rw [Datum.stepsToValue, named]
    change Datum.stepsToValue (some text) before _ = _
    rw [Datum.stepsToValue, filled]
    exact later

theorem keyed_of_entries {values walked : Entries Value}
    (returns : List.Forall₂ (EntryReturns key inner) entries values)
    (order : List.Forall₂ EntryReordered values walked) :
    ∃ backs, Decoder.keyed key.read inner.read (.map walked) = .ok backs ∧
      Datum.RearrangedUnder entries backs := by
  change ∃ backs, walked.mapM (fun entry => key.read (.string entry.1) >>= fun name =>
    inner.read entry.2 >>= fun back => Except.ok (name, back)) = Except.ok backs ∧ _
  induction returns generalizing walked with
  | nil =>
    cases order
    exact ⟨[], rfl, .nil⟩
  | @cons entry written entries values here _ ih =>
    obtain ⟨name, item⟩ := entry
    obtain ⟨text, value⟩ := written
    obtain ⟨⟨-, readKey⟩, -, reads⟩ := here
    cases order with
    | @cons _ other _ rest first later =>
      obtain ⟨_, changed⟩ := other
      obtain ⟨rfl, inside⟩ := first
      obtain ⟨back, read, same⟩ := reads changed inside
      obtain ⟨backs, readOthers, sameOthers⟩ := ih later
      refine ⟨(name, back) :: backs, ?_, .cons name same sameOthers⟩
      rw [List.mapM_cons, readOthers]
      simp only [readKey, read]
      rfl

/-- The entries come back in the order in which the map is walked. -/
theorem returns_map (distinct : (entries.map Prod.fst).Nodup)
    (named : ∀ entry ∈ entries, ∃ name, KeyNamed key entry.1 name)
    (returns : ∀ entry ∈ entries, inner.Returns entry.2) :
    (map key inner).Returns (.ofEntries entries) := by
  obtain ⟨values, each⟩ := exists_entries_returned named returns
  have unique : (Entries.keys values).Nodup := keys_nodup distinct each
  refine ⟨.map values, ?_, fun walked order => ?_⟩
  · rw [Datum.ofEntries, Datum.toValue]
    exact stepsToValue_of_entries each [] unique
  · obtain ⟨between, others, rfl, moved, inside⟩ := order.of_map
    have commuted : Relation.Comp List.Perm (List.Forall₂ (EntryReturns key inner)) entries
        between := List.forall₂_comp_perm_eq_perm_comp_forall₂ ▸ ⟨values, each, moved⟩
    obtain ⟨carried, order, eachMoved⟩ := commuted
    obtain ⟨backs, read, same⟩ := keyed_of_entries eachMoved inside
    refine ⟨.ofEntries backs, ?_, .map order same⟩
    rw [Shape.read, read]
    rfl

end Maps

section Choices

variable {owner tag : String} {variants : List (String × Variant)} {variant : Variant}

/-- Under distinct tags the variant of a tag is the one that is declared with it. -/
theorem readChoice_of_mem (distinct : (variants.map Prod.fst).Nodup)
    (declared : (tag, variant) ∈ variants) (known : List String) (content : Option Value) :
    readChoice variants owner known tag content = readVariant variant owner tag content := by
  induction variants with
  | nil => cases declared
  | cons first others ih =>
    obtain ⟨name, other⟩ := first
    rw [List.map_cons, List.nodup_cons] at distinct
    rcases List.mem_cons.1 declared with same | later
    · cases same
      rw [readChoice, if_pos rfl]
    · have named : tag ∈ others.map Prod.fst := List.mem_map_of_mem later
      have different : name ≠ tag := fun same => distinct.1 (same ▸ named)
      rw [readChoice, if_neg different]
      exact ih distinct.2 later

/-- The content of a variant stands under its tag alone, and is read as the variant has it. -/
theorem read_choice_of_entry (distinct : (variants.map Prod.fst).Nodup)
    (declared : (tag, variant) ∈ variants) (content : Value) :
    (choice owner variants).read (.map [(tag, content)]) =
      readVariant variant owner tag (some content) := by
  rw [Shape.read]
  exact readChoice_of_mem distinct declared _ _

/-- A datum with content under its tag comes back if the variant reads that content. -/
theorem returns_tagged {datum : Datum} {value : Value} (distinct : (variants.map Prod.fst).Nodup)
    (declared : (tag, variant) ∈ variants) (written : datum.toValue = .ok (.map [(tag, value)]))
    (reads : ∀ content, value.Reordered content →
      ∃ back, readVariant variant owner tag (some content) = .ok back ∧ datum.Rearranged back) :
    (choice owner variants).Returns datum := by
  refine ⟨.map [(tag, value)], written, fun walked order => ?_⟩
  obtain ⟨content, rfl, inside⟩ := order.of_single_entry
  rw [read_choice_of_entry distinct declared]
  exact reads content inside

theorem returns_unitVariant (distinct : (variants.map Prod.fst).Nodup)
    (declared : (tag, .unit) ∈ variants) : (choice owner variants).Returns (.unitVariant tag) := by
  refine returns_of_mapless rfl trivial ?_
  rw [Shape.read]
  exact readChoice_of_mem distinct declared _ none

theorem returns_newtypeVariant {inner : Shape} {datum : Datum}
    (distinct : (variants.map Prod.fst).Nodup) (declared : (tag, .newtype inner) ∈ variants)
    (returns : inner.Returns datum) :
    (choice owner variants).Returns (.newtypeVariant tag datum) := by
  obtain ⟨value, written, reads⟩ := returns
  have tagged : (Datum.newtypeVariant tag datum).toValue = .ok (.map [(tag, value)]) := by
    rw [Datum.toValue, written]
    rfl
  refine returns_tagged distinct declared tagged fun content inside => ?_
  obtain ⟨back, read, same⟩ := reads content inside
  refine ⟨.newtypeVariant tag back, ?_, .newtypeVariant tag same⟩
  rw [readVariant, read]
  rfl

theorem returns_tupleVariant {shapes : List Shape} {items : List Datum}
    (distinct : (variants.map Prod.fst).Nodup) (declared : (tag, .tuple shapes) ∈ variants)
    (returns : List.Forall₂ Returns shapes items) :
    (choice owner variants).Returns (.tupleVariant tag items) := by
  obtain ⟨values, written, reads⟩ := returns_each returns
  have tagged : (Datum.tupleVariant tag items).toValue = .ok (.map [(tag, .list values)]) := by
    rw [Datum.toValue, written]
    rfl
  refine returns_tagged distinct declared tagged fun content inside => ?_
  obtain ⟨others, rfl, order⟩ := inside.of_list
  obtain ⟨backs, each, same⟩ := reads others order
  refine ⟨.tupleVariant tag backs, ?_, .tupleVariant tag same⟩
  rw [readVariant]
  exact congrArg (Except.map (Datum.tupleVariant tag)) (each.exactly _)

theorem returns_recordVariant {fields : List (String × FieldRule × Shape)}
    {data : List (String × Datum)} (distinct : (variants.map Prod.fst).Nodup)
    (declared : (tag, .record fields) ∈ variants) (unique : (fields.map Prod.fst).Nodup)
    (returns : List.Forall₂ FieldReturns fields data) :
    (choice owner variants).Returns (.recordVariant tag data) := by
  obtain ⟨values, written, proper, reads⟩ := returns_map_of_fields unique returns
  have tagged : (Datum.recordVariant tag data).toValue = .ok (.map [(tag, .map values)]) := by
    rw [Datum.toValue, written, ← proper]
    rfl
  refine returns_tagged distinct declared tagged fun content inside => ?_
  obtain ⟨entries, backs, rfl, read, same⟩ := reads content inside
  refine ⟨.recordVariant tag backs, ?_, .recordVariant tag same⟩
  rw [readVariant, Record.readEntries, read]
  rfl

end Choices

/-- That whatever content a variant may have comes back. -/
def ContentReturns : Variant → Prop
  | .unit => True
  | .newtype inner => ∀ datum, inner.Holds datum → inner.Returns datum
  | .tuple shapes => ∀ items, List.Forall₂ Holds shapes items → List.Forall₂ Returns shapes items
  | .record fields => (fields.map Prod.fst).Nodup ∧
    ∀ data, HoldsFields fields data → List.Forall₂ FieldReturns fields data

mutual

/-- Data of a derived shape come back: each part of the shape has parts of the data to itself. -/
theorem returns_of_holds : (shape : Shape) → shape.Derived → (datum : Datum) →
    shape.Holds datum → shape.Returns datum
  | boolean, _, _, .boolean _ => returns_of_mapless rfl trivial rfl
  | integer _, wide, _, .integer low high fits => returns_integer wide low high fits
  | single, _, _, .single proper => returns_single proper
  | double, _, _, .double _ => returns_of_mapless rfl trivial rfl
  | char, _, _, .char c => returns_of_mapless rfl trivial (read_singleton c)
  | text, _, _, .text _ => returns_of_mapless rfl trivial rfl
  | bytes, _, _, .bytes _ => returns_of_mapless rfl trivial rfl
  | unit, _, _, .unit => returns_of_mapless rfl trivial rfl
  | unitRecord _, _, _, .unitRecord _ => returns_of_mapless rfl trivial rfl
  | option _, _, _, .absent _ => returns_of_mapless rfl trivial rfl
  | option inner, derived, _, .present content =>
    returns_present (returns_of_holds inner derived.1 _ content) (derived.2 _ content)
  | newtype inner, derived, _, .newtype content =>
    returns_newtype (returns_of_holds inner derived _ content)
  | sequence inner, derived, _, .sequence content =>
    returns_sequence fun item member => returns_of_holds inner derived item (content item member)
  | array _ inner, derived, _, .array content =>
    returns_array fun item member => returns_of_holds inner derived item (content item member)
  | tuple shapes, derived, _, .tuple content =>
    returns_tuple (items_return shapes derived _ content)
  | tupleRecord name shapes, derived, _, .tupleRecord content =>
    returns_tupleRecord name (items_return shapes derived _ content)
  | map _ inner, derived, _, .map distinct keys content =>
    returns_map distinct (fun entry member => exists_keyNamed derived.1 (keys entry member))
      fun entry member => returns_of_holds inner derived.2 _ (content entry member)
  | record _ fields, derived, _, .record content =>
    returns_record derived.1 derived.2.1 (fields_return fields derived.2.2 _ content)
  | choice _ _, derived, _, .unitVariant variant => returns_unitVariant derived.1 variant
  | choice _ variants, derived, _, .newtypeVariant variant content =>
    returns_newtypeVariant derived.1 variant
      (variants_return variants derived.2 _ variant _ content)
  | choice _ variants, derived, _, .tupleVariant variant content =>
    returns_tupleVariant derived.1 variant
      (variants_return variants derived.2 _ variant _ content)
  | choice _ variants, derived, _, .recordVariant variant content =>
    have each := variants_return variants derived.2 _ variant
    returns_recordVariant derived.1 variant each.1 (each.2 _ content)
  | value, derived, _, _ | ignored, derived, _, _ | foreign _, derived, _, _ => derived.elim
termination_by structural shape => shape

theorem items_return : (shapes : List Shape) → DerivedItems shapes → (items : List Datum) →
    List.Forall₂ Holds shapes items → List.Forall₂ Returns shapes items
  | [], _, _, .nil => .nil
  | shape :: others, derived, _, .cons first later =>
    .cons (returns_of_holds shape derived.1 _ first) (items_return others derived.2 _ later)
termination_by structural shapes => shapes

theorem fields_return : (fields : List (String × FieldRule × Shape)) → DerivedFields fields →
    (data : List (String × Datum)) → HoldsFields fields data →
      List.Forall₂ FieldReturns fields data
  | [], _, _, .nil => .nil
  | (_, _, shape) :: others, derived, _, .cons first later =>
    .cons ⟨rfl, returns_of_holds shape derived.1 _ first⟩
      (fields_return others derived.2 _ later)
termination_by structural fields => fields

theorem variants_return : (variants : List (String × Variant)) → DerivedVariants variants →
    ∀ named : String × Variant, named ∈ variants → ContentReturns named.2
  | [], _, _, member => nomatch member
  | (_, variant) :: others, derived, named, member => by
    rcases List.mem_cons.1 member with rfl | later
    · exact content_returns variant derived.1
    · exact variants_return others derived.2 named later
termination_by structural variants => variants

theorem content_returns : (variant : Variant) → DerivedVariant variant → ContentReturns variant
  | .unit, _ => trivial
  | .newtype inner, derived => returns_of_holds inner derived
  | .tuple shapes, derived => items_return shapes derived
  | .record fields, derived => ⟨derived.1, fields_return fields derived.2⟩
termination_by structural variant => variant

end

/-- All data of a derived shape, however nested, are written to a value; and in whatever order its
maps are walked, the same data are read from it along the shape. -/
theorem typed_data_survive {shape : Shape} {datum : Datum} (derived : shape.Derived)
    (holds : shape.Holds datum) :
    ∃ value, datum.toValue = .ok value ∧
      ∀ walked, value.Reordered walked →
        ∃ back, shape.read walked = .ok back ∧ datum.Rearranged back :=
  returns_of_holds shape derived datum holds

/-- A record with an option that is unset and one that is set, a map with two entries, variants
of each kind, and a single that is no short fraction of two. -/
theorem trip_survives :
    let leg : Shape := choice "Leg" [("Rest", .unit), ("Walk", .newtype (integer (.signed 32))),
      ("Ride", .record [("line", .required, char), ("fare", .required, double)]),
      ("Fly", .tuple [single, bytes])]
    let trip : Shape := record "Trip" [("number", .required, integer (.unsigned 64)),
      ("from", .required, option text), ("to", .required, option text),
      ("legs", .required, map text (sequence leg))]
    let ride : Datum := .recordVariant "Ride" [("line", .char 'Ü'), ("fare", .double ⟨0x3FF8⟩)]
    let fly : Datum := .tupleVariant "Fly" [.single ⟨0x3DCCCCCD⟩, .bytes [0, 255]]
    let legs : List (Datum × Datum) :=
      [(.text "there", .sequence [.unitVariant "Rest", ride, fly]),
        (.text "back", .sequence [.newtypeVariant "Walk" (.integer (-3))])]
    let datum : Datum := .record "Trip" [("number", .integer 7), ("from", .absent),
      ("to", .present (.text "")), ("legs", .ofEntries legs)]
    trip.Derived ∧ trip.Holds datum ∧
      ∃ value, datum.toValue = .ok value ∧
        ∀ walked, value.Reordered walked →
          ∃ back, trip.read walked = .ok back ∧ datum.Rearranged back := by
  intro leg trip ride fly legs datum
  have set : ∀ datum, text.Holds datum → datum.toValue ≠ .ok .null := by
    rintro _ ⟨⟩
    simp [Datum.toValue]
  have wide : IntegerKind.word.low ≤ (IntegerKind.unsigned 64).low ∧
      IntegerKind.word.low ≤ (IntegerKind.signed 32).low := by decide
  have variants : leg.Derived :=
    ⟨by decide, trivial, wide.2, ⟨by decide, trivial, trivial, trivial⟩,
      ⟨trivial, trivial, trivial⟩, trivial⟩
  have derived : trip.Derived :=
    ⟨by decide, by decide, wide.1, ⟨trivial, set⟩, ⟨trivial, set⟩, ⟨.inl rfl, variants⟩, trivial⟩
  have rests : leg.Holds (.unitVariant "Rest") := .unitVariant (.head _)
  have walks : leg.Holds (.newtypeVariant "Walk" (.integer (-3))) :=
    .newtypeVariant (.tail _ (.head _)) (.integer (by decide) (by decide) (by decide))
  have rides : leg.Holds ride :=
    .recordVariant (.tail _ (.tail _ (.head _))) (.cons (.char _) (.cons (.double _) .nil))
  have flies : leg.Holds fly :=
    .tupleVariant (.tail _ (.tail _ (.tail _ (.head _))))
      (.cons (.single (by decide)) (.cons (.bytes _) .nil))
  have travels : (map text (sequence leg)).Holds (.ofEntries legs) := by
    refine .map (by simp [legs]) ?_ ?_
    · simp only [legs, List.forall_mem_cons]
      exact ⟨.text _, .text _, nofun⟩
    · simp only [legs, List.forall_mem_cons]
      refine ⟨.sequence ?_, .sequence ?_, nofun⟩
      · simp only [List.forall_mem_cons]
        exact ⟨rests, rides, flies, nofun⟩
      · simp only [List.forall_mem_cons]
        exact ⟨walks, nofun⟩
  have holds : trip.Holds datum :=
    .record (.cons (.integer (by decide) (by decide) (by decide)) (.cons (.absent _)
      (.cons (.present (.text _)) (.cons travels .nil))))
  exact ⟨derived, holds, typed_data_survive derived holds⟩

end Shape
end BoltClient
