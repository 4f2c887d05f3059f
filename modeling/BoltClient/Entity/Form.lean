import BoltClient.Typed.Rebuild

/-!
Types that travel as tagged structures. A form gives a type its signature and
its fields in order. Reading checks the signature first, then the number of
fields, then each field; a fault in a field names the field's position.
-/

namespace BoltClient

/-- Takes fields off the front one after the other. -/
structure FieldReader where
  remaining : List Value
  index : Nat

namespace FieldReader

def ofFields (fields : List Value) : FieldReader := ⟨fields, 0⟩

/-- The next field and the reader behind it, whatever becomes of the field. -/
def next (reader : FieldReader) : Except CodecFault Value × FieldReader :=
  match reader.remaining with
  | [] => (.error (.missingFieldAt reader.index), reader)
  | field :: rest => (.ok field, ⟨rest, reader.index + 1⟩)

/-- The next field as typed data. A field that cannot be read is consumed too. -/
def read {α : Type} (decode : Decoder α) (reader : FieldReader) :
    Except CodecFault α × FieldReader :=
  match reader.next with
  | (.error fault, reader) => (.error fault, reader)
  | (.ok field, rest) => ((decode field).mapError (.inField reader.index), rest)

end FieldReader

/-- How a type travels: its signature, the number of its fields, and its fields
taken from it and put together again. -/
structure StructureForm (α : Type) where
  signature : UInt8
  arity : Nat
  fields : α → List Value
  ofFields? : List Value → Option (Except CodecFault α)

namespace StructureForm

variable {α : Type}

/-- Reads the field at `index`; a fault names the position. -/
def field {β : Type} (index : Nat) (decode : Decoder β) (value : Value) : Except CodecFault β :=
  (decode value).mapError (.inField index)

def toStructure (form : StructureForm α) (data : α) : Structure :=
  ⟨form.signature, form.fields data⟩

def toValue (form : StructureForm α) (data : α) : Value := (form.toStructure data).toValue

def ofStructure (form : StructureForm α) (tagged : Structure) : Except CodecFault α :=
  if tagged.signature ≠ form.signature then
    .error (.wrongSignature form.signature tagged.signature)
  else match form.ofFields? tagged.fields with
    | some result => result
    | none => .error (.wrongFieldCount form.arity tagged.fields.length)

def ofValue (form : StructureForm α) (value : Value) : Except CodecFault α := do
  form.ofStructure (← value.asStructure)

/-- Reads the type inside other typed data. A fault keeps the text of its cause only. -/
def decoder (form : StructureForm α) : Decoder α := fun value => do
  let rebuilt ← Value.rebuild value
  (form.ofValue rebuilt).mapError .whileReading

end StructureForm

/-- Properties and parameters: a map with values of any kind. -/
def Decoder.properties : Decoder (Entries Value) := Decoder.dictionary Value.rebuild

def Value.ofTexts (texts : List String) : Value := .list (texts.map .string)

end BoltClient
