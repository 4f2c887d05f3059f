import BoltClient.Typed.Rebuild

/-!
Shapes of typed data. A shape says how data of a type are built, and `read`
takes a value apart along it. What `read` returns is data of the shape again,
so writing data to a value and reading it back can be compared.
-/

namespace BoltClient

/-- Whether a field of a record may be left out, and what it is then. -/
inductive FieldRule where
  | required
  | defaulted (data : Datum)

mutual

inductive Shape where
  | boolean
  | integer (kind : IntegerKind)
  | single
  | double
  | char
  | text
  | bytes
  | unit
  | unitRecord (name : String)
  | option (inner : Shape)
  | newtype (inner : Shape)
  | sequence (inner : Shape)
  | array (count : Nat) (inner : Shape)
  | tuple (items : List Shape)
  | tupleRecord (name : String) (items : List Shape)
  | map (key inner : Shape)
  | record (name : String) (fields : List (String × FieldRule × Shape))
  | choice (name : String) (variants : List (String × Variant))
  | value
  | ignored
  /-- Data with a reader of their own. -/
  | foreign (read : Decoder Datum)

inductive Variant where
  | unit
  | newtype (inner : Shape)
  | tuple (items : List Shape)
  | record (fields : List (String × FieldRule × Shape))

end

namespace Shape

/-- What stands in for a missing field: an option is unset among entries, though
not behind the last item of a list. -/
def missing (name : String) (rule : FieldRule) (shape : Shape) : Record.Missing Datum :=
  match rule, shape with
  | .defaulted data, _ => ⟨.ok data, some data⟩
  | .required, .option _ => ⟨.ok .absent, none⟩
  | .required, _ => ⟨.error (.missingField name), none⟩

def unnamed (wanted : String) : CodecFault := .wrongKind wanted "unit variant"

mutual

def read (shape : Shape) (value : Value) : Except CodecFault Datum :=
  match shape with
  | boolean => (Decoder.boolean value).map .boolean
  | integer kind => (Decoder.integer kind value).map .integer
  | single => (Decoder.single value).map .single
  | double => (Decoder.double value).map .double
  | char => (Decoder.char value).map .char
  | text => (Decoder.text value).map .text
  | bytes => (Decoder.bytes value).map .bytes
  | unit => (Decoder.unit value).map fun _ => .unit
  | unitRecord name => (Decoder.unitRecord name value).map fun _ => .unit
  | option inner =>
    match value with
    | .null => .ok .absent
    | content => (inner.read content).map .present
  | newtype inner => (inner.read value).map .newtype
  | sequence inner => (Decoder.sequence inner.read value).map .sequence
  | array count inner => do
    let items ← Decoder.elements value
    let wanted := s!"an array of length {count}"
    (Decoder.exactly (Decoder.copies inner.read wanted count 0) items).map .sequence
  | tuple shapes => do
    let items ← Decoder.elements value
    let wanted := s!"a tuple of size {shapes.length}"
    (Decoder.exactly (readItems shapes wanted 0) items).map .sequence
  | tupleRecord name shapes => do
    let items ← Decoder.elements value
    let wanted := Record.sized s!"tuple struct {name}" shapes.length
    (Decoder.exactly (readItems shapes wanted 0) items).map .sequence
  | map key inner => (Decoder.keyed key.read inner.read value).map .ofEntries
  | record name fields => ((fieldsOf fields).decoder name value).map (.record name)
  | choice name variants => do
    let (chosen, content) ← Decoder.variant value
    readChoice variants name (variants.map Prod.fst) chosen content
  | .value => (Value.rebuild value).map .ofValue
  | ignored => .ok .unit
  | foreign read => read value
termination_by structural shape

/-- Takes the next items off a list, each by its own shape. -/
def readItems (shapes : List Shape) (wanted : String) (index : Nat) (items : List Value) :
    Except CodecFault (List Datum × List Value) :=
  match shapes with
  | [] => .ok ([], items)
  | shape :: others => do
    let (first, rest) ← Decoder.nextItem shape.read wanted index items
    let (data, rest) ← readItems others wanted (index + 1) rest
    return (first :: data, rest)
termination_by structural shapes

def fieldsOf (fields : List (String × FieldRule × Shape)) : Record (List (String × Datum)) :=
  match fields with
  | [] => .pure []
  | (name, rule, shape) :: others =>
    ((Record.pure fun datum data => (name, datum) :: data).apply
      (.field name shape.read (missing name rule shape))).apply (fieldsOf others)
termination_by structural fields

/-- Reads the content of the chosen variant. -/
def readChoice (variants : List (String × Variant)) (owner : String) (known : List String)
    (chosen : String) (content : Option Value) : Except CodecFault Datum :=
  match variants with
  | [] => .error (.unknownVariant chosen known)
  | (name, variant) :: others =>
    if name = chosen then readVariant variant owner name content
    else readChoice others owner known chosen content
termination_by structural variants

def readVariant (variant : Variant) (owner name : String) (content : Option Value) :
    Except CodecFault Datum :=
  match variant with
  | .unit => (Decoder.bare content).map fun _ => .unitVariant name
  | .newtype inner => match content with
    | some item => (inner.read item).map (.newtypeVariant name)
    | none => .error (unnamed "newtype variant")
  | .tuple shapes => match content with
    | some (.list items) =>
      let wanted := Record.sized s!"tuple variant {owner}::{name}" shapes.length
      (Decoder.exactly (readItems shapes wanted 0) items).map (.tupleVariant name)
    | some other => .error (other.mismatch "list for tuple variant")
    | none => .error (unnamed "tuple variant")
  | .record fields => match content with
    | some (.map entries) => ((fieldsOf fields).readEntries entries).map (.recordVariant name)
    | some other => .error (other.mismatch "map for struct variant")
    | none => .error (unnamed "struct variant")
termination_by structural variant

end

end Shape
end BoltClient
