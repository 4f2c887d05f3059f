import BoltClient.Entity.Form

/-!
Nodes, relationships and paths. A path lists its nodes and relationships once
and refers to them by position: pairs of a relationship's position counted from
one, negative when it is traversed against its direction, and the position of
the node it leads to.
-/

namespace BoltClient

structure Node where
  id : Int64
  labels : List String
  properties : Entries Value
  elementId : String

structure Relationship where
  id : Int64
  startNodeId : Int64
  endNodeId : Int64
  typeName : String
  properties : Entries Value
  elementId : String
  startNodeElementId : String
  endNodeElementId : String

/-- A relationship inside a path; its endpoints come from the path. -/
structure UnboundRelationship where
  id : Int64
  typeName : String
  properties : Entries Value
  elementId : String

structure Path where
  nodes : List Node
  relationships : List UnboundRelationship
  indices : List Int64

/-- One hop of a path. -/
structure Path.Segment where
  start : Node
  relationship : UnboundRelationship
  finish : Node
  forward : Bool

open StructureForm (field)

namespace Node

def form : StructureForm Node where
  signature := 0x4E
  arity := 4
  fields node :=
    [.integer node.id, .ofTexts node.labels, .map node.properties, .string node.elementId]
  ofFields?
    | [id, labels, properties, elementId] => some do
      return {
        id := ← field 0 Decoder.int64 id
        labels := ← field 1 (Decoder.sequence Decoder.text) labels
        properties := ← field 2 Decoder.properties properties
        elementId := ← field 3 Decoder.text elementId }
    | _ => none

def hasLabel (node : Node) (label : String) : Bool := node.labels.contains label

def property? (node : Node) (key : String) : Option Value := node.properties.get? key

/-- Reads the properties as typed data. -/
def propertiesAs {α : Type} (decode : Decoder α) (node : Node) : Except CodecFault α :=
  decode (.map node.properties)

end Node

def Relationship.form : StructureForm Relationship where
  signature := 0x52
  arity := 8
  fields relationship :=
    [.integer relationship.id, .integer relationship.startNodeId, .integer relationship.endNodeId,
      .string relationship.typeName, .map relationship.properties,
      .string relationship.elementId, .string relationship.startNodeElementId,
      .string relationship.endNodeElementId]
  ofFields?
    | [id, start, finish, typeName, properties, elementId, startElement, endElement] => some do
      return {
        id := ← field 0 Decoder.int64 id
        startNodeId := ← field 1 Decoder.int64 start
        endNodeId := ← field 2 Decoder.int64 finish
        typeName := ← field 3 Decoder.text typeName
        properties := ← field 4 Decoder.properties properties
        elementId := ← field 5 Decoder.text elementId
        startNodeElementId := ← field 6 Decoder.text startElement
        endNodeElementId := ← field 7 Decoder.text endElement }
    | _ => none

def UnboundRelationship.form : StructureForm UnboundRelationship where
  signature := 0x72
  arity := 4
  fields relationship :=
    [.integer relationship.id, .string relationship.typeName, .map relationship.properties,
      .string relationship.elementId]
  ofFields?
    | [id, typeName, properties, elementId] => some do
      return {
        id := ← field 0 Decoder.int64 id
        typeName := ← field 1 Decoder.text typeName
        properties := ← field 2 Decoder.properties properties
        elementId := ← field 3 Decoder.text elementId }
    | _ => none

namespace Path

def form : StructureForm Path where
  signature := 0x50
  arity := 3
  fields path :=
    [.list (path.nodes.map Node.form.toValue),
      .list (path.relationships.map UnboundRelationship.form.toValue),
      .list (path.indices.map .integer)]
  ofFields?
    | [nodes, relationships, indices] => some do
      return {
        nodes := ← field 0 (Decoder.sequence Node.form.decoder) nodes
        relationships :=
          ← field 1 (Decoder.sequence UnboundRelationship.form.decoder) relationships
        indices := ← field 2 (Decoder.sequence Decoder.int64) indices }
    | _ => none

def start? (path : Path) : Option Node := path.nodes.head?

/-- The number of hops; an index without its partner is no hop. -/
def length (path : Path) : Nat := path.indices.length / 2

def isEmpty (path : Path) : Bool := path.indices.isEmpty

/-- The relationship at a position counted from one, the sign aside. -/
def relationshipAt? (path : Path) (index : Int64) : Option UnboundRelationship :=
  match index.toInt.natAbs with
  | 0 => none
  | position + 1 => path.relationships[position]?

/-- The node at a position counted from zero. -/
def nodeAt? (path : Path) (index : Int64) : Option Node :=
  if index.toInt < 0 then none else path.nodes[index.toInt.toNat]?

/-- Follows pairs of indices from `current`. -/
def hops? (path : Path) (current : Node) : List Int64 → Option (List Segment)
  | along :: target :: rest => do
    let relationship ← path.relationshipAt? along
    let finish ← path.nodeAt? target
    let others ← hops? path finish rest
    return ⟨current, relationship, finish, 0 < along.toInt⟩ :: others
  | _ => some []

/-- The hops from the first node on, or `none` when an index is out of range. -/
def segments? (path : Path) : Option (List Segment) := do
  path.hops? (← path.start?) path.indices

end Path
end BoltClient
