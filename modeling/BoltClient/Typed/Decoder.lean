import BoltClient.Typed.Datum

/-!
Readers of typed data. A reader takes a value and answers the data or a fault
that says what it met and what it wanted. Lists are read item by item and must
be used up; records are read by name from maps and by position from lists.
-/

namespace BoltClient

/-- What a value is to a reader that did not want it. -/
def Value.unexpected : Value → Unexpected
  | .null => .unit
  | .boolean value => .boolean value
  | .integer value => .integer value.toInt
  | .float number => .float number
  | .bytes _ => .bytes
  | .string text => .text text
  | .list _ => .sequence
  | .map _ | .struct .. => .map

/-- A range of integers and its name. -/
structure IntegerKind where
  name : String
  low : Int
  high : Int
  deriving DecidableEq, Repr

namespace IntegerKind

def signed (bits : Nat) : IntegerKind :=
  let bound : Int := (1 <<< (bits - 1) : Nat)
  ⟨s!"i{bits}", -bound, bound - 1⟩

def unsigned (bits : Nat) : IntegerKind := ⟨s!"u{bits}", 0, (1 <<< bits : Nat) - 1⟩

def byte : IntegerKind := unsigned 8
def word : IntegerKind := signed 64

end IntegerKind

abbrev Decoder (α : Type) := Value → Except CodecFault α

namespace Decoder

variable {α β : Type}

def refuse (wanted : String) (value : Value) : Except CodecFault α :=
  .error (.invalidType value.unexpected wanted)

def boolean : Decoder Bool
  | .boolean value => .ok value
  | other => refuse "a boolean" other

/-- Integers alone are integers, and only those in range. -/
def integer (kind : IntegerKind) : Decoder Int
  | .integer value =>
    let number := value.toInt
    if kind.low ≤ number ∧ number ≤ kind.high then .ok number
    else .error (.invalidValue (.integer number) kind.name)
  | other => refuse kind.name other

def int64 : Decoder Int64
  | .integer value => .ok value
  | other => refuse IntegerKind.word.name other

/-- A float of full width; integers are rounded to one. -/
def double : Decoder Double
  | .float number => .ok number
  | .integer value => .ok (Double.ofInt value.toInt)
  | other => refuse "f64" other

/-- A float of half width; wider numbers are rounded. -/
def single : Decoder Single
  | .float number => .ok number.toSingle
  | .integer value => .ok (Single.ofInt value.toInt)
  | other => refuse "f32" other

def char : Decoder Char
  | .string text => match text.toList with
    | [c] => .ok c
    | _ => .error (.invalidValue (.text text) "a character")
  | other => refuse "a character" other

/-- Text, or bytes that are UTF-8. -/
def text : Decoder String
  | .string text => .ok text
  | .bytes content => match Utf8.decode content with
    | .ok text => .ok text
    | .error _ => .error (.invalidValue .bytes "a string")
  | other => refuse "a string" other

def unit : Decoder Unit
  | .null => .ok ()
  | other => .error (other.mismatch "null")

/-- A record without content is written as null. -/
def unitRecord (name : String) : Decoder Unit
  | .null => .ok ()
  | other => refuse s!"unit struct {name}" other

def option (read : Decoder α) : Decoder (Option α)
  | .null => .ok none
  | value => (read value).map some

/-- The items of anything that can be read as a sequence. -/
def elements : Decoder (List Value)
  | .list items => .ok items
  | .bytes content => .ok (content.map fun byte => .ofInt byte.toNat)
  | .struct _ fields => .ok fields
  | other => .error (other.mismatch "list")

def sequence (read : Decoder α) : Decoder (List α) := fun value => do
  (← elements value).mapM read

/-- A byte string, the bytes of a text, or a list of bytes. -/
def bytes : Decoder Bytes
  | .bytes content => .ok content
  | .string text => .ok (Utf8.encode text)
  | .list items => do
    let numbers ← items.mapM (integer .byte)
    return numbers.map fun number => UInt8.ofNat number.toNat
  | other => .error (other.mismatch "bytes")

/-- The entries of anything that can be read as a map. -/
def entries : Decoder (Entries Value)
  | .map entries => .ok entries
  | .struct signature fields =>
    .ok [(signatureKey, .ofInt signature.toNat), (fieldsKey, .list fields)]
  | other => refuse "a map" other

def keyed (readKey : Decoder α) (read : Decoder β) : Decoder (List (α × β)) := fun value => do
  (← entries value).mapM fun (key, item) => do
    let name ← readKey (.string key)
    let content ← read item
    return (name, content)

/-- A map with text keys. -/
def dictionary (read : Decoder α) : Decoder (Entries α) := fun value => do
  (← entries value).mapM fun (key, item) => do
    let content ← read item
    return (key, content)

/-- The variant that a value names, with its content unless it is named alone. -/
def variant : Decoder (String × Option Value)
  | .string name => .ok (name, none)
  | .map [(name, content)] => .ok (name, some content)
  | other => .error (other.mismatch "string or single-entry map for enum")

/-- A variant without content has none, or null. -/
def bare : Option Value → Except CodecFault Unit
  | none | some .null => .ok ()
  | some other => .error (other.mismatch "unit variant")

/-- One of several names, each standing for some data. -/
def oneOf (names : List (String × α)) : Decoder α := fun value => do
  let (name, content) ← variant value
  match names.lookup name with
  | none => throw (.unknownVariant name (names.map Prod.fst))
  | some data => do
    bare content
    return data

/-- Nothing of a sequence may be left unread. -/
def usedUp (count : Nat) (result : α × List Value) : Except CodecFault α :=
  match result with
  | (data, []) => .ok data
  | (_, rest) => .error (.elementsLeft count rest.length)

/-- Reads the next item; without one, the fault counts those before it. -/
def nextItem (read : Decoder α) (wanted : String) (index : Nat) :
    List Value → Except CodecFault (α × List Value)
  | [] => .error (.invalidLength index wanted)
  | item :: rest => do
    let data ← read item
    return (data, rest)

/-- Reads the next `count` items alike. -/
def copies (read : Decoder α) (wanted : String) :
    (count index : Nat) → List Value → Except CodecFault (List α × List Value)
  | 0, _, items => .ok ([], items)
  | count + 1, index, items => do
    let (data, rest) ← nextItem read wanted index items
    let (others, rest) ← copies read wanted count (index + 1) rest
    return (data :: others, rest)

/-- Takes items off a list by `read`, which must leave none. -/
def exactly (read : List Value → Except CodecFault (α × List Value)) (items : List Value) :
    Except CodecFault α := do
  usedUp items.length (← read items)

end Decoder

/-- The fields of a record, readable by name and by position. From entries, a
fault in a present field comes before any missing field. -/
structure Record (α : Type) where
  arity : Nat
  ofEntries : Entries Value → Except CodecFault (Except CodecFault α)
  ofItems : (wanted : String) → (index : Nat) → List Value → Except CodecFault (α × List Value)

/-- What stands in for a field that is not there: among entries, and behind the
last item of a list. -/
structure Record.Missing (α : Type) where
  amongEntries : Except CodecFault α
  behindItems : Option α

namespace Record

variable {α β : Type}

/-- `"struct T"` with the number of its parts, as a wrong length reports it. -/
def sized (name : String) (count : Nat) : String :=
  s!"{name} with {count} element" ++ if count = 1 then "" else "s"

def pure (data : α) : Record α :=
  ⟨0, fun _ => .ok (.ok data), fun _ _ items => .ok (data, items)⟩

def field (name : String) (read : Decoder α) (missing : Missing α) : Record α where
  arity := 1
  ofEntries entries :=
    match entries.get? name with
    | some item => (read item).map .ok
    | none => .ok missing.amongEntries
  ofItems wanted index items :=
    match items, missing.behindItems with
    | [], some data => .ok (data, [])
    | _, _ => Decoder.nextItem read wanted index items

def apply (function : Record (α → β)) (argument : Record α) : Record β where
  arity := function.arity + argument.arity
  ofEntries entries := do
    let laterFunction ← function.ofEntries entries
    let laterArgument ← argument.ofEntries entries
    return do
      let f ← laterFunction
      let data ← laterArgument
      return f data
  ofItems wanted index items := do
    let (f, rest) ← function.ofItems wanted index items
    let (data, rest) ← argument.ofItems wanted (index + function.arity) rest
    return (f data, rest)

/-- Adds a field that has to be there. -/
def required (function : Record (α → β)) (name : String) (read : Decoder α) : Record β :=
  function.apply (field name read ⟨.error (.missingField name), none⟩)

/-- Adds a field that takes a default when it is not there. -/
def defaulted (function : Record (α → β)) (name : String) (read : Decoder α) (default : α) :
    Record β :=
  function.apply (field name read ⟨.ok default, some default⟩)

/-- Adds a field that is unset when it is not there or null. -/
def optional (function : Record (Option α → β)) (name : String) (read : Decoder α) : Record β :=
  function.defaulted name (Decoder.option read) none

def readEntries (record : Record α) (entries : Entries Value) : Except CodecFault α := do
  ← record.ofEntries entries

def readItems (record : Record α) (name : String) (items : List Value) : Except CodecFault α :=
  Decoder.exactly (record.ofItems (sized name record.arity) 0) items

/-- Reads a record from a map by names or from a list by position. -/
def decoder (name : String) (record : Record α) : Decoder α
  | .list items => record.readItems s!"struct {name}" items
  | .map entries => record.readEntries entries
  | .struct signature fields =>
    record.readEntries [(signatureKey, .ofInt signature.toNat), (fieldsKey, .list fields)]
  | other => .error (.invalidType other.unexpected s!"struct {name}")

end Record
end BoltClient
