import BoltClient.Json.Parser
import BoltClient.Value.Basic

/-!
Values as JSON documents and back. There are two forms. The plain form is for
readers: a structure becomes an object with its signature and fields. The
tagged form marks structures by two reserved keys, so that reading it back
tells them from maps.
-/

namespace BoltClient

/-- The reserved keys under which a structure's parts travel through keyed data. -/
def signatureKey : String := "$__packstream_private_signature"
def fieldsKey : String := "$__packstream_private_fields"

namespace Json

def ofDouble (number : Double) : Json :=
  if number.isFinite then .float number else .null

def ofByte (byte : UInt8) : Json := .integer byte.toNat

/-- How a structure's signature and fields are put into one object. -/
abbrev StructureForm := UInt8 → List Json → Json

def StructureForm.plain : StructureForm := fun signature fields =>
  .object [("signature", ofByte signature), ("fields", .array fields)]

def StructureForm.tagged : StructureForm := fun signature fields =>
  .object [(signatureKey, ofByte signature), (fieldsKey, .array fields)]

mutual

def ofValue (form : StructureForm) : Value → Json
  | .null => null
  | .boolean value => boolean value
  | .integer value => integer value.toInt
  | .float number => ofDouble number
  | .bytes content => array (content.map ofByte)
  | .string content => string content
  | .list items => array (ofItems form items)
  | .map entries => object (ofEntries form entries)
  | .struct signature fields => form signature (ofItems form fields)
termination_by structural value => value

def ofItems (form : StructureForm) : List Value → List Json
  | [] => []
  | item :: rest => ofValue form item :: ofItems form rest
termination_by structural items => items

def ofEntries (form : StructureForm) : List (String × Value) → List (String × Json)
  | [] => []
  | (key, item) :: rest => (key, ofValue form item) :: ofEntries form rest
termination_by structural entries => entries

end

end Json

namespace Value

def fitsInteger (number : Int) : Bool :=
  Int64.minValue.toInt ≤ number && number ≤ Int64.maxValue.toInt

mutual

/-- The value of a document: integers outside the signed 64-bit range become
floats, and of equal keys the last one counts. -/
def ofJson : Json → Value
  | .null => null
  | .boolean value => boolean value
  | .integer number =>
    if fitsInteger number then .ofInt number else float (Double.ofInt number)
  | .float number => float number
  | .string text => string text
  | .array items => list (ofJsonItems items)
  | .object entries => .ofPairs (ofJsonEntries entries)
termination_by structural json => json

def ofJsonItems : List Json → List Value
  | [] => []
  | item :: rest => ofJson item :: ofJsonItems rest
termination_by structural items => items

def ofJsonEntries : List (String × Json) → List (String × Value)
  | [] => []
  | (key, item) :: rest => (key, ofJson item) :: ofJsonEntries rest
termination_by structural entries => entries

end

mutual

/-- The value of a document in tagged form. An object whose first key is the
reserved signature key is a structure: a byte, then at most the fields. Other
integers have to fit in 64 signed bits. -/
def ofTaggedJson? : Json → Option Value
  | .null => some null
  | .boolean value => some (boolean value)
  | .integer number => if fitsInteger number then some (.ofInt number) else none
  | .float number => some (float number)
  | .string text => some (string text)
  | .array items => (ofTaggedItems? items).map list
  | .object [] => some (map [])
  | .object ((key, item) :: rest) =>
    if key = signatureKey then
      match item with
      | .integer number =>
        if 0 ≤ number ∧ number < 256 then taggedFields? (UInt8.ofNat number.toNat) rest else none
      | _ => none
    else do
      let first ← ofTaggedJson? item
      let others ← ofTaggedEntries? rest
      return .ofPairs ((key, first) :: others)
termination_by structural json => json

def ofTaggedItems? : List Json → Option (List Value)
  | [] => some []
  | item :: rest => do
    let first ← ofTaggedJson? item
    let others ← ofTaggedItems? rest
    return first :: others
termination_by structural items => items

def ofTaggedEntries? : List (String × Json) → Option (List (String × Value))
  | [] => some []
  | (key, item) :: rest => do
    let first ← ofTaggedJson? item
    let others ← ofTaggedEntries? rest
    return (key, first) :: others
termination_by structural entries => entries

/-- What may follow a signature: nothing, or the fields and nothing else. -/
def taggedFields? (signature : UInt8) : List (String × Json) → Option Value
  | [] => some (struct signature [])
  | [(key, item)] =>
    if key = fieldsKey then
      match item with
      | .array items => (ofTaggedItems? items).map (struct signature)
      | _ => none
    else none
  | _ => none
termination_by structural entries => entries

end

end Value
end BoltClient
