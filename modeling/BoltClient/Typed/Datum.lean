import BoltClient.Json.Exchange

/-!
Data as a program holds it, and its value. Keyed data become maps with text
keys, unkeyed data become lists, and a variant with content becomes a map with
its name as the only key. A record of the reserved name becomes a structure,
which is how values present themselves: `ofValue` and `toValue` undo each other.
-/

namespace BoltClient

/-- The name of the record under which a structure presents itself. -/
def structureToken : String := "$__packstream_private_Structure"

/-- Whether a step of writing a map gives a key or a value. -/
inductive MapStep where
  | key
  | item
  deriving DecidableEq, Repr

inductive Datum where
  | boolean (value : Bool)
  | integer (value : Int)
  /-- An integer of a width that values do not have. -/
  | wideInteger (typeName : String)
  | single (number : Single)
  | double (number : Double)
  | char (c : Char)
  | text (content : String)
  | bytes (content : Bytes)
  | absent
  | present (inner : Datum)
  | unit
  | newtype (inner : Datum)
  | sequence (items : List Datum)
  | map (steps : List (MapStep × Datum))
  | record (name : String) (fields : List (String × Datum))
  | unitVariant (name : String)
  | newtypeVariant (name : String) (inner : Datum)
  | tupleVariant (name : String) (items : List Datum)
  | recordVariant (name : String) (fields : List (String × Datum))
  deriving Inhabited

namespace Datum

/-- A map written entry by entry. -/
def ofEntries (entries : List (Datum × Datum)) : Datum :=
  map (entries.flatMap fun (key, item) => [(.key, key), (.item, item)])

/-- Keys are text; integers are written out in decimal. -/
def keyText (key : Value) : Except CodecFault String :=
  match key with
  | .string name => .ok name
  | .integer number => .ok (toString number.toInt)
  | other => .error (other.mismatch "string map key")

def signatureByte (value : Value) : Except CodecFault UInt8 := do
  let number := (← value.asInteger).toInt
  if 0 ≤ number ∧ number < 256 then return UInt8.ofNat number.toNat
  else throw (.signatureTooLarge number)

mutual

def toValue : Datum → Except CodecFault Value
  | boolean value => .ok (.boolean value)
  | integer value =>
    if Value.fitsInteger value then .ok (.ofInt value) else .error (.integerTooLarge value)
  | wideInteger typeName => .error (.unsupportedInteger typeName)
  | single number => .ok (.float (Double.ofSingle number))
  | double number => .ok (.float number)
  | char c => .ok (.string (String.singleton c))
  | text content => .ok (.string content)
  | bytes content => .ok (.bytes content)
  | absent => .ok .null
  | present inner => inner.toValue
  | unit => .ok .null
  | newtype inner => inner.toValue
  | sequence items => (itemsToValues items).map .list
  | map steps => stepsToValue none [] steps
  | record name fields =>
    if name = structureToken then partsToStructure none none fields
    else (fieldsToValues fields).map .ofPairs
  | unitVariant name => .ok (.string name)
  | newtypeVariant name inner => inner.toValue.map fun value => .map [(name, value)]
  | tupleVariant name items => (itemsToValues items).map fun values => .map [(name, .list values)]
  | recordVariant name fields =>
    (fieldsToValues fields).map fun values => .map [(name, .ofPairs values)]
termination_by structural datum => datum

def itemsToValues : List Datum → Except CodecFault (List Value)
  | [] => .ok []
  | item :: rest => do
    let first ← item.toValue
    let others ← itemsToValues rest
    return first :: others
termination_by structural items => items

def fieldsToValues : List (String × Datum) → Except CodecFault (List (String × Value))
  | [] => .ok []
  | (name, field) :: rest => do
    let first ← field.toValue
    let others ← fieldsToValues rest
    return (name, first) :: others
termination_by structural fields => fields

/-- Writes a map step by step. A value goes to the key given last; a key that
gets no value is dropped. -/
def stepsToValue (pending : Option String) (written : Entries Value) :
    List (MapStep × Datum) → Except CodecFault Value
  | [] => .ok (.map written)
  | (.key, key) :: rest => do
    let name ← keyText (← key.toValue)
    stepsToValue (some name) written rest
  | (.item, item) :: rest =>
    match pending with
    | none => .error .valueBeforeKey
    | some name => do
      let value ← item.toValue
      stepsToValue none (written.put name value) rest
termination_by structural steps => steps

/-- Gathers the signature and the fields of a structure; the fields may be left out. -/
def partsToStructure (signature : Option UInt8) (fields : Option (List Value)) :
    List (String × Datum) → Except CodecFault Value
  | [] => match signature with
    | some signature => .ok (.struct signature (fields.getD []))
    | none => .error .signatureMissing
  | (name, part) :: rest =>
    if name = signatureKey then do
      let byte ← signatureByte (← part.toValue)
      partsToStructure (some byte) fields rest
    else if name = fieldsKey then do
      let values ← (← part.toValue).asList
      partsToStructure signature (some values) rest
    else .error (.unexpectedEntry name)
termination_by structural parts => parts

end

mutual

/-- How a value presents itself as data. -/
def ofValue : Value → Datum
  | .null => unit
  | .boolean value => boolean value
  | .integer value => integer value.toInt
  | .float number => double number
  | .bytes content => bytes content
  | .string content => text content
  | .list items => sequence (ofItems items)
  | .map entries => map (stepsOfEntries entries)
  | .struct signature fields =>
    record structureToken
      [(signatureKey, integer signature.toNat), (fieldsKey, sequence (ofItems fields))]
termination_by structural value => value

def ofItems : List Value → List Datum
  | [] => []
  | item :: rest => ofValue item :: ofItems rest
termination_by structural items => items

def stepsOfEntries : List (String × Value) → List (MapStep × Datum)
  | [] => []
  | (name, item) :: rest => (.key, text name) :: (.item, ofValue item) :: stepsOfEntries rest
termination_by structural entries => entries

end

end Datum
end BoltClient
