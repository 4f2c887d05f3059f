import BoltClient.Codec.Fault
import BoltClient.Value.Entries

/-!
The values that travel between client and server. A map is a list of entries
with distinct keys, so a value fixes the order in which its maps are walked;
`sorted` forgets that order and `same` compares values without it.
-/

namespace BoltClient

inductive Value where
  | null
  | boolean (value : Bool)
  | integer (value : Int64)
  | float (number : Double)
  | bytes (content : Bytes)
  | string (text : String)
  | list (items : List Value)
  | map (entries : List (String × Value))
  | struct (signature : UInt8) (fields : List Value)
  deriving Inhabited

/-- A signature byte and the fields that it announces. -/
structure Structure where
  signature : UInt8
  fields : List Value
  deriving Inhabited

def Structure.toValue (tagged : Structure) : Value := .struct tagged.signature tagged.fields

namespace Value

/-- The word for the value's kind in the detail of a fault. -/
def kindName : Value → String
  | null => "null"
  | boolean _ => "boolean"
  | integer _ => "integer"
  | float _ => "float"
  | bytes _ => "bytes"
  | string _ => "string"
  | list _ => "list"
  | map _ => "map"
  | struct .. => "structure"

def isNull : Value → Bool
  | null => true
  | _ => false

def boolean? : Value → Option Bool
  | boolean value => some value
  | _ => none

def integer? : Value → Option Int64
  | integer value => some value
  | _ => none

def float? : Value → Option Double
  | float number => some number
  | _ => none

def bytes? : Value → Option Bytes
  | bytes content => some content
  | _ => none

def string? : Value → Option String
  | string text => some text
  | _ => none

def list? : Value → Option (List Value)
  | list items => some items
  | _ => none

def map? : Value → Option (Entries Value)
  | map entries => some entries
  | _ => none

def structure? : Value → Option Structure
  | struct signature fields => some ⟨signature, fields⟩
  | _ => none

/-- The fault of a value that is not of the kind that was wanted. -/
def mismatch (value : Value) (wanted : String) : CodecFault := .wrongKind wanted value.kindName

def demand {α : Type} (wanted : String) (view : Value → Option α) (value : Value) :
    Except CodecFault α :=
  match view value with
  | some content => .ok content
  | none => .error (value.mismatch wanted)

def asBoolean : Value → Except CodecFault Bool := demand "boolean" boolean?
def asInteger : Value → Except CodecFault Int64 := demand "integer" integer?
def asFloat : Value → Except CodecFault Double := demand "float" float?
def asBytes : Value → Except CodecFault Bytes := demand "bytes" bytes?
def asString : Value → Except CodecFault String := demand "string" string?
def asList : Value → Except CodecFault (List Value) := demand "list" list?
def asMap : Value → Except CodecFault (Entries Value) := demand "map" map?
def asStructure : Value → Except CodecFault Structure := demand "structure" structure?

/-- A map from pairs; a later pair with the same key wins. -/
def ofPairs (pairs : List (String × Value)) : Value := map (Entries.ofPairs pairs)

def ofInt (number : Int) : Value := integer (Int64.ofInt number)

def ofOption {α : Type} (toValue : α → Value) : Option α → Value
  | some content => toValue content
  | none => null

mutual

/-- How many containers enclose the deepest part: 0 for a scalar or an empty container. -/
def depth : Value → Nat
  | list items => depthOfItems items
  | map entries => depthOfEntries entries
  | struct _ fields => depthOfItems fields
  | _ => 0
termination_by structural value => value

/-- One more than the deepest item, or 0 without items. -/
def depthOfItems : List Value → Nat
  | [] => 0
  | item :: rest => max (item.depth + 1) (depthOfItems rest)
termination_by structural items => items

def depthOfEntries : List (String × Value) → Nat
  | [] => 0
  | (_, item) :: rest => max (item.depth + 1) (depthOfEntries rest)
termination_by structural entries => entries

end

mutual

/-- The number of values in the tree, the value itself included. -/
def nodes : Value → Nat
  | list items => nodesOfItems items + 1
  | map entries => nodesOfEntries entries + 1
  | struct _ fields => nodesOfItems fields + 1
  | _ => 1
termination_by structural value => value

def nodesOfItems : List Value → Nat
  | [] => 0
  | item :: rest => item.nodes + nodesOfItems rest
termination_by structural items => items

def nodesOfEntries : List (String × Value) → Nat
  | [] => 0
  | (_, item) :: rest => item.nodes + nodesOfEntries rest
termination_by structural entries => entries

end

mutual

/-- The length in bytes of the longest text or byte string in the tree, keys aside. -/
def longest : Value → Nat
  | string text => text.utf8ByteSize
  | bytes content => content.length
  | list items => longestOfItems items
  | map entries => longestOfEntries entries
  | struct _ fields => longestOfItems fields
  | _ => 0
termination_by structural value => value

def longestOfItems : List Value → Nat
  | [] => 0
  | item :: rest => max item.longest (longestOfItems rest)
termination_by structural items => items

def longestOfEntries : List (String × Value) → Nat
  | [] => 0
  | (_, item) :: rest => max item.longest (longestOfEntries rest)
termination_by structural entries => entries

end

mutual

/-- The same value with the entries of every map in ascending order of their keys. -/
def sorted : Value → Value
  | list items => list (sortedItems items)
  | map entries => map (Entries.sorted (sortedEntries entries))
  | struct signature fields => struct signature (sortedItems fields)
  | value => value
termination_by structural value => value

def sortedItems : List Value → List Value
  | [] => []
  | item :: rest => item.sorted :: sortedItems rest
termination_by structural items => items

def sortedEntries : List (String × Value) → List (String × Value)
  | [] => []
  | (key, item) :: rest => (key, item.sorted) :: sortedEntries rest
termination_by structural entries => entries

end

mutual

/-- Equality of values: floats are compared as numbers and maps without their order. -/
def same : Value → Value → Bool
  | null, null => true
  | boolean left, boolean right => left == right
  | integer left, integer right => left == right
  | float left, float right => left.same right
  | bytes left, bytes right => left == right
  | string left, string right => left == right
  | list left, list right => sameItems left right
  | map left, map right => left.length == right.length && sameEntries left right
  | struct leftSignature left, struct rightSignature right =>
    leftSignature == rightSignature && sameItems left right
  | _, _ => false
termination_by structural value => value

def sameItems : List Value → List Value → Bool
  | [], [] => true
  | left :: leftRest, right :: rightRest => left.same right && sameItems leftRest rightRest
  | _, _ => false
termination_by structural items => items

/-- Every entry on the left has an equal one on the right. -/
def sameEntries : List (String × Value) → List (String × Value) → Bool
  | [], _ => true
  | (key, left) :: rest, entries =>
    (match Entries.get? key entries with
      | some right => left.same right
      | none => false) && sameEntries rest entries
termination_by structural items => items

end

end Value
end BoltClient
