import BoltClient.Entity.Graph
import BoltClient.Entity.Point
import BoltClient.Entity.Temporal
import BoltClient.Proofs.Codec.RoundTrip
import BoltClient.Proofs.Typed.Bridge

/-!
Nodes, relationships, paths, points and temporal data come back from wherever they are
taken to: from their structure, from a value, from a list of values, and from bytes. Each type
contributes two facts about its form: its fields are read as they are written, and in another
order of its maps they are still the fields of an instance. The rest holds of any such form.
-/

namespace BoltClient

section Order

open Value

variable {α : Type}

/-- A list of data, in another order of the maps in it, is a list of such data. -/
theorem arranged_items {write : α → Value} (arranged : ∀ data walked,
      (write data).Reordered walked → ∃ other, walked = write other) {items : List α}
    {walked : List Value} (order : List.Forall₂ Reordered (items.map write) walked) :
    ∃ others : List α, walked = others.map write := by
  induction items generalizing walked with
  | nil =>
    cases order
    exact ⟨[], rfl⟩
  | cons data rest ih =>
    cases order with
    | cons here later =>
      obtain ⟨other, rfl⟩ := arranged data _ here
      obtain ⟨others, rfl⟩ := ih later
      exact ⟨other :: others, rfl⟩

theorem eq_of_mapless_items {items walked : List Value}
    (order : List.Forall₂ Reordered items walked)
    (mapless : EachMapOfItems (fun _ => False) items) : walked = items := by
  induction order with
  | nil => rfl
  | cons here _ ih => rw [here.eq_of_mapless mapless.1, ih mapless.2]

/-- Fields of which only one has a map in it, in another order. -/
theorem arranged_properties (before after : List Value) {walked : List Value}
    {properties : Entries Value}
    (order : List.Forall₂ Reordered (before ++ .map properties :: after) walked)
    (first : EachMapOfItems (fun _ => False) before)
    (last : EachMapOfItems (fun _ => False) after) :
    ∃ others, walked = before ++ .map others :: after := by
  induction before generalizing walked with
  | nil =>
    cases order with
    | cons here later =>
      obtain ⟨_, others, rfl, -⟩ := here.of_map
      obtain rfl := eq_of_mapless_items later last
      exact ⟨others, rfl⟩
  | cons field rest ih =>
    cases order with
    | cons here later =>
      obtain rfl := here.eq_of_mapless first.1
      obtain ⟨others, rfl⟩ := ih later first.2
      exact ⟨others, rfl⟩

end Order

namespace StructureForm

variable {α : Type} {form : StructureForm α} {data : α}

/-- What there is to know of a form: its fields are read as they are written, and in another
order of the maps in them they are the fields of other data of the type. -/
structure Faithful (form : StructureForm α) : Prop where
  reads : ∀ data, (form.toValue data).DistinctKeys → (form.toValue data).Unreserved →
    form.ofFields? (form.fields data) = some (.ok data)
  arranged : ∀ data walked, List.Forall₂ Value.Reordered (form.fields data) walked →
    ∃ other, walked = form.fields other

/-- Fields without maps have no other order. -/
theorem faithful_of_mapless (reads : ∀ data, form.ofFields? (form.fields data) = some (.ok data))
    (mapless : ∀ data, Value.EachMapOfItems (fun _ => False) (form.fields data)) :
    form.Faithful where
  reads data _ _ := reads data
  arranged data _ order := ⟨data, eq_of_mapless_items order (mapless data)⟩

namespace Faithful

variable {walked : Value}

theorem arranged_value (faithful : form.Faithful) (order : (form.toValue data).Reordered walked) :
    ∃ other, walked = form.toValue other := by
  obtain ⟨fields, rfl, inside⟩ := order.of_struct
  obtain ⟨other, rfl⟩ := faithful.arranged data fields inside
  exact ⟨other, rfl⟩

theorem ofStructure_toStructure (faithful : form.Faithful)
    (distinct : (form.toValue data).DistinctKeys) (plain : (form.toValue data).Unreserved) :
    form.ofStructure (form.toStructure data) = .ok data := by
  have signed : ¬ (form.toStructure data).signature ≠ form.signature := fun other => other rfl
  have read : form.ofFields? (form.toStructure data).fields = some (.ok data) :=
    faithful.reads data distinct plain
  rw [ofStructure, if_neg signed, read]

theorem decoder_toValue (faithful : form.Faithful)
    (distinct : (form.toValue data).DistinctKeys) (plain : (form.toValue data).Unreserved) :
    form.decoder (form.toValue data) = .ok data := by
  have read : form.ofValue (form.toValue data) = .ok data :=
    faithful.ofStructure_toStructure distinct plain
  rw [decoder, Value.rebuild_self _ distinct plain]
  change (form.ofValue (form.toValue data)).mapError _ = _
  rw [read]
  rfl

end Faithful

end StructureForm

/-! The forms of the types, one by one. -/

open StructureForm (field)

theorem sequence_ofTexts (texts : List String) :
    Decoder.sequence Decoder.text (.ofTexts texts) = .ok texts :=
  Decoder.sequence_map fun _ _ => rfl

theorem Node.faithful : form.Faithful where
  reads node distinct plain := by
    have properties := Value.properties_self distinct.2.2.1.2 plain.2.2.1.2
    simp only [form, field, sequence_ofTexts, properties]
    rfl
  arranged node fields order := by
    have others := arranged_properties [.integer node.id, .ofTexts node.labels]
      [.string node.elementId] order ⟨trivial, Value.mapless_ofTexts _, trivial⟩
      ⟨trivial, trivial⟩
    obtain ⟨properties, rfl⟩ := others
    exact ⟨{ node with properties }, rfl⟩

theorem Relationship.faithful : form.Faithful where
  reads relationship distinct plain := by
    have properties := Value.properties_self distinct.2.2.2.2.1.2 plain.2.2.2.2.1.2
    simp only [form, field, properties]
    rfl
  arranged relationship fields order := by
    have others := arranged_properties
      [.integer relationship.id, .integer relationship.startNodeId,
        .integer relationship.endNodeId, .string relationship.typeName]
      [.string relationship.elementId, .string relationship.startNodeElementId,
        .string relationship.endNodeElementId] order
      ⟨trivial, trivial, trivial, trivial, trivial⟩ ⟨trivial, trivial, trivial, trivial⟩
    obtain ⟨properties, rfl⟩ := others
    exact ⟨{ relationship with properties }, rfl⟩

theorem UnboundRelationship.faithful : form.Faithful where
  reads relationship distinct plain := by
    have properties := Value.properties_self distinct.2.2.1.2 plain.2.2.1.2
    simp only [form, field, properties]
    rfl
  arranged relationship fields order := by
    have others := arranged_properties
      [.integer relationship.id, .string relationship.typeName]
      [.string relationship.elementId] order ⟨trivial, trivial, trivial⟩
      ⟨trivial, trivial⟩
    obtain ⟨properties, rfl⟩ := others
    exact ⟨{ relationship with properties }, rfl⟩

/-- Parts that are data of a form are read as these data. -/
theorem StructureForm.Faithful.sequence_toValue {α : Type} {form : StructureForm α}
    (faithful : form.Faithful) {items : List α}
    (distinct : Value.DistinctKeysOfItems (items.map form.toValue))
    (plain : Value.EachMapOfItems (signatureKey ∉ ·) (items.map form.toValue)) :
    Decoder.sequence form.decoder (.list (items.map form.toValue)) = .ok items := by
  rw [Value.distinctKeysOfItems_iff, Value.eachMapOfItems_iff, List.forall_mem_map] at distinct
  rw [Value.eachMapOfItems_iff, List.forall_mem_map] at plain
  exact Decoder.sequence_map fun data member =>
    faithful.decoder_toValue ((Value.distinctKeys_iff _).2 (distinct data member))
      (plain data member)

theorem Path.faithful : form.Faithful where
  reads path distinct plain := by
    have nodes := Node.faithful.sequence_toValue distinct.1 plain.1
    have relationships := UnboundRelationship.faithful.sequence_toValue distinct.2.1 plain.2.1
    have indices : Decoder.sequence Decoder.int64 (.list (path.indices.map .integer)) =
        .ok path.indices := Decoder.sequence_map fun _ _ => rfl
    simp only [form, field, nodes, relationships, indices]
    rfl
  arranged path fields order := by
    rcases order with _ | ⟨nodes, _ | ⟨relationships, _ | ⟨indices, ⟨⟩⟩⟩⟩
    obtain ⟨_, rfl, eachNode⟩ := nodes.of_list
    obtain ⟨_, rfl, eachRelationship⟩ := relationships.of_list
    obtain ⟨otherNodes, rfl⟩ := arranged_items (fun _ _ => Node.faithful.arranged_value) eachNode
    obtain ⟨otherRelationships, rfl⟩ :=
      arranged_items (fun _ _ => UnboundRelationship.faithful.arranged_value) eachRelationship
    have mapless : (Value.list (path.indices.map .integer)).EachMap fun _ => False :=
      Value.eachMapOfItems_iff.2 fun item member => by
        obtain ⟨index, -, rfl⟩ := List.mem_map.1 member
        trivial
    obtain rfl := indices.eq_of_mapless mapless
    exact ⟨⟨otherNodes, otherRelationships, path.indices⟩, rfl⟩

/-- The types that travel as structures. -/
inductive Entity where
  | node
  | relationship
  | unboundRelationship
  | path
  | point2D
  | point3D
  | date
  | time
  | localTime
  | dateTime
  | dateTimeZoneId
  | localDateTime
  | duration

namespace Entity

def Instance : Entity → Type
  | node => Node
  | relationship => Relationship
  | unboundRelationship => UnboundRelationship
  | path => Path
  | point2D => Point2D
  | point3D => Point3D
  | date => Date
  | time => Time
  | localTime => LocalTime
  | dateTime => DateTime
  | dateTimeZoneId => DateTimeZoneId
  | localDateTime => LocalDateTime
  | duration => Duration

def form : (entity : Entity) → StructureForm entity.Instance
  | node => Node.form
  | relationship => Relationship.form
  | unboundRelationship => UnboundRelationship.form
  | path => Path.form
  | point2D => Point2D.form
  | point3D => Point3D.form
  | date => Date.form
  | time => Time.form
  | localTime => LocalTime.form
  | dateTime => DateTime.form
  | dateTimeZoneId => DateTimeZoneId.form
  | localDateTime => LocalDateTime.form
  | duration => Duration.form

open StructureForm in
theorem faithful : (entity : Entity) → entity.form.Faithful
  | node => Node.faithful
  | relationship => Relationship.faithful
  | unboundRelationship => UnboundRelationship.faithful
  | path => Path.faithful
  | point2D | time | localDateTime | dateTime | dateTimeZoneId | point3D | date | localTime
  | duration => faithful_of_mapless (fun _ => rfl) fun _ => by
      simp [form, Point2D.form, Point3D.form, Date.form, Time.form, LocalTime.form, DateTime.form,
        DateTimeZoneId.form, LocalDateTime.form, Duration.form, Value.EachMapOfItems,
        Value.EachMap]

end Entity

namespace StructureForm

variable {α : Type} {form : StructureForm α} {data : α}

/-- That data come back from wherever they are taken to. -/
structure Returns (form : StructureForm α) (data : α) : Prop where
  /-- from the structure, whose fields are written as data -/
  fields : (Datum.itemsToValues (Datum.ofItems (form.fields data)) >>= fun fields =>
    form.ofStructure ⟨form.signature, fields⟩) = .ok data
  /-- from the value that they are written as -/
  value : ((Datum.ofValue (form.toValue data)).toValue >>= form.decoder) = .ok data
  bytes : ∀ bytes, (form.toValue data).encode = .ok bytes → (form.toValue data).depth ≤ 512 →
    (Value.decodeExact bytes >>= form.ofValue) = .ok data

theorem Faithful.returns (faithful : form.Faithful) (distinct : (form.toValue data).DistinctKeys)
    (plain : (form.toValue data).Unreserved) : form.Returns data where
  fields := by
    have written : Datum.itemsToValues (Datum.ofItems (form.fields data)) =
        .ok (form.fields data) := Datum.itemsToValues_ofItems _ distinct
    rw [written]
    exact faithful.ofStructure_toStructure distinct plain
  value := by
    rw [Datum.toValue_ofValue _ distinct]
    exact faithful.decoder_toValue distinct plain
  bytes bytes packed shallow := by
    rw [Value.decodeExact_encode distinct packed shallow]
    exact faithful.ofStructure_toStructure distinct plain

/-- The same of a list of data, which is written as a list and read item by item. -/
theorem Faithful.list_returns (faithful : form.Faithful) {items : List α}
    (distinct : (Value.list (items.map form.toValue)).DistinctKeys)
    (plain : (Value.list (items.map form.toValue)).Unreserved) :
    (∀ data ∈ items, form.Returns data) ∧
      ((Datum.ofValue (.list (items.map form.toValue))).toValue >>=
        Decoder.sequence form.decoder) = .ok items := by
  constructor
  · intro data member
    have among : form.toValue data ∈ items.map form.toValue := List.mem_map_of_mem member
    rw [Value.distinctKeys_iff] at distinct
    exact faithful.returns
      ((Value.distinctKeys_iff _).2 (Value.eachMapOfItems_iff.1 distinct _ among))
      (Value.eachMapOfItems_iff.1 plain _ among)
  · rw [Datum.toValue_ofValue _ distinct]
    exact faithful.sequence_toValue distinct plain

end StructureForm

/-- Instances of each type come back from their structures, from values, from bytes, and as
lists; also when the maps in them are walked in other orders on the way. -/
theorem entities_return (entity : Entity) {items : List entity.Instance}
    (distinct : ∀ data ∈ items, (entity.form.toValue data).DistinctKeys)
    (plain : ∀ data ∈ items, (entity.form.toValue data).Unreserved) :
    (∀ data ∈ items, entity.form.Returns data) ∧
    ((Datum.ofValue (.list (items.map entity.form.toValue))).toValue >>=
      Decoder.sequence entity.form.decoder) = .ok items ∧
    ∀ walked, (Value.list (items.map entity.form.toValue)).Reordered walked →
      ∃ others, walked = .list (others.map entity.form.toValue) ∧
        (∀ other ∈ others, entity.form.Returns other) ∧
        ((Datum.ofValue walked).toValue >>= Decoder.sequence entity.form.decoder) =
          .ok others := by
  have allDistinct : (Value.list (items.map entity.form.toValue)).DistinctKeys := by
    rw [Value.distinctKeys_iff, Value.EachMap, Value.eachMapOfItems_iff, List.forall_mem_map]
    exact fun data member => (Value.distinctKeys_iff _).1 (distinct data member)
  have allPlain : (Value.list (items.map entity.form.toValue)).Unreserved := by
    rw [Value.Unreserved, Value.EachMap, Value.eachMapOfItems_iff, List.forall_mem_map]
    exact plain
  obtain ⟨each, whole⟩ := entity.faithful.list_returns allDistinct allPlain
  refine ⟨each, whole, fun walked order => ?_⟩
  have stillDistinct := order.distinctKeys allDistinct
  have stillPlain : walked.Unreserved :=
    order.eachMap (fun moved absent found => absent (moved.mem_iff.2 found)) allPlain
  obtain ⟨_, rfl, inside⟩ := order.of_list
  obtain ⟨others, rfl⟩ :=
    arranged_items (fun _ _ => entity.faithful.arranged_value) inside
  exact ⟨others, rfl, entity.faithful.list_returns stillDistinct stillPlain⟩

/-- A path over a node with properties that are nested. -/
theorem path_returns :
    let point : Value := .struct 0x58 [.integer 7203, .float ⟨0x7FF8000000000001⟩, .float ⟨0⟩]
    let node : Node := ⟨1, ["A"], [("at", .list [point, .null]), ("m", .map [("k", point)])], "n"⟩
    let path : Path := ⟨[node, node], [⟨2, "R", [], "r"⟩], [1, 1]⟩
    (Path.form.toValue path).DistinctKeys ∧ (Path.form.toValue path).Unreserved ∧
      Path.form.Returns path := by
  intro point node path
  have distinct : (Path.form.toValue path).DistinctKeys := by
    simp [path, node, point, Path.form, Node.form, UnboundRelationship.form, Value.ofTexts,
      StructureForm.toValue, StructureForm.toStructure, Structure.toValue, Value.DistinctKeys,
      Value.DistinctKeysOfItems, Value.DistinctKeysOfEntries, Entries.keys]
  have plain : (Path.form.toValue path).Unreserved := by
    simp [path, node, point, Path.form, Node.form, UnboundRelationship.form, Value.ofTexts,
      StructureForm.toValue, StructureForm.toStructure, Structure.toValue, Value.Unreserved,
      Value.EachMap, Value.EachMapOfItems, Value.EachMapOfEntries, Entries.keys, signatureKey]
  have eachDistinct : ∀ data ∈ [path], (Path.form.toValue data).DistinctKeys :=
    List.forall_mem_singleton.2 distinct
  have eachPlain : ∀ data ∈ [path], (Path.form.toValue data).Unreserved :=
    List.forall_mem_singleton.2 plain
  have returns := (entities_return .path eachDistinct eachPlain).1
  exact ⟨distinct, plain, returns path List.mem_cons_self⟩

end BoltClient
