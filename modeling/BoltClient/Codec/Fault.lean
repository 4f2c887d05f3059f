import BoltClient.Text.Utf8
import BoltClient.Text.Quoted
import BoltClient.Number.Layout

/-!
What can go wrong while values are packed, unpacked or turned into typed data.
Each constructor is a cause. A fault has a category, which callers may branch
on, and a detail for readers; `message` joins the two.
-/

namespace BoltClient

/-- Stable categories of codec faults. -/
inductive CodecFault.Kind where
  | generic
  | notPackable
  | notEnoughBytes
  | incorrectValue
  | unexpectedByteMarker
  | incorrectNumberOfFields
  | typeMismatch
  | signatureMismatch
  | outOfBoundary
  | unsupportedType
  | connectionClosed
  | outside
  deriving DecidableEq, Repr

namespace CodecFault.Kind

def all : List Kind :=
  [generic, notPackable, notEnoughBytes, incorrectValue, unexpectedByteMarker,
    incorrectNumberOfFields, typeMismatch, signatureMismatch, outOfBoundary, unsupportedType,
    connectionClosed, outside]

def name : Kind → String
  | generic => "Generic"
  | notPackable => "NotPackable"
  | notEnoughBytes => "NotEnoughBytes"
  | incorrectValue => "IncorrectValue"
  | unexpectedByteMarker => "UnexpectedByteMarker"
  | incorrectNumberOfFields => "IncorrectNumberOfFields"
  | typeMismatch => "TypeMismatch"
  | signatureMismatch => "SignatureMismatch"
  | outOfBoundary => "OutOfBoundary"
  | unsupportedType => "UnsupportedType"
  | connectionClosed => "ConnectionClosed"
  | outside => "External"

def text : Kind → String
  | generic => "Generic error."
  | notPackable => "The value cannot be packed."
  | notEnoughBytes => "Not enough bytes to proceed."
  | incorrectValue => "The value is incorrect."
  | unexpectedByteMarker => "The byte marker is unrecognized."
  | incorrectNumberOfFields => "The number of fields is incorrect."
  | typeMismatch => "Incorrect type."
  | signatureMismatch => "The structure signature has the wrong tag byte."
  | outOfBoundary => "Out of boundary."
  | unsupportedType => "The type is unsupported."
  | connectionClosed => "The connection has been closed."
  | outside => "An error occurred outside the codec."

end CodecFault.Kind

/-- What a reader of typed data met in place of what it wanted. -/
inductive Unexpected where
  | unit
  | boolean (value : Bool)
  | integer (value : Int)
  | float (value : Double)
  | text (value : String)
  | bytes
  | sequence
  | map
  deriving DecidableEq, Repr

def Unexpected.describe : Unexpected → String
  | .unit => "unit value"
  | .boolean value => s!"boolean `{value}`"
  | .integer value => s!"integer `{value}`"
  | .float value =>
    let layout := if value.isFinite then DecimalLayout.pointed else DecimalLayout.plain
    s!"floating point `{layout.text value}`"
  | .text value => "string " ++ Quoted.quote value
  | .bytes => "byte array"
  | .sequence => "sequence"
  | .map => "map"

/-- A cause for which a value cannot be packed, unpacked or read as typed data. -/
inductive CodecFault where
  | reported (kind : CodecFault.Kind) (detail : Option String)
  | notEnoughBytes (wanted available : Nat)
  | trailingBytes (count : Nat)
  | nestedTooDeep (limit : Nat)
  | unknownMarker (marker : UInt8)
  | brokenText (fault : Utf8.Fault)
  | lengthTooLarge (length : Nat)
  | tooManyElements (count : Nat)
  | tooManyFields (signature : UInt8) (count : Nat)
  | wrongKind (wanted found : String)
  | wrongSignature (wanted found : UInt8)
  | wrongFieldCount (wanted found : Nat)
  | missingFieldAt (index : Nat)
  | inField (index : Nat) (inner : CodecFault)
  | whileReading (inner : CodecFault)
  | elementsLeft (count unread : Nat)
  | integerTooLarge (value : Int)
  | unsupportedInteger (typeName : String)
  | valueBeforeKey
  | signatureTooLarge (value : Int)
  | unexpectedEntry (key : String)
  | signatureMissing
  | invalidType (found : Unexpected) (wanted : String)
  | invalidValue (found : Unexpected) (wanted : String)
  | invalidLength (length : Nat) (wanted : String)
  | missingField (name : String)
  | unknownVariant (name : String) (known : List String)
  | outOfRange (what : String)
  | unknownZone (name : String)
  deriving DecidableEq, Repr

namespace CodecFault

/-- Two upper-case hexadecimal digits after `0x`. -/
def hexByte (byte : UInt8) : String :=
  let digit (value : Nat) : Char := (Nat.digitChar value).toUpper
  "0x" ++ String.ofList [digit (byte.toNat / 16), digit (byte.toNat % 16)]

def kind : CodecFault → Kind
  | reported kind _ => kind
  | notEnoughBytes .. => .notEnoughBytes
  | unknownMarker _ => .unexpectedByteMarker
  | trailingBytes _ | nestedTooDeep _ | brokenText _ | unexpectedEntry _ | signatureMissing
  | unknownZone _ => .incorrectValue
  | lengthTooLarge _ | missingFieldAt _ | signatureTooLarge _ | outOfRange _ => .outOfBoundary
  | tooManyElements _ | tooManyFields .. | integerTooLarge _ | unsupportedInteger _ => .notPackable
  | wrongKind .. | whileReading _ | invalidType .. | invalidValue .. | invalidLength ..
  | missingField _ | unknownVariant .. => .typeMismatch
  | wrongSignature .. => .signatureMismatch
  | wrongFieldCount .. | elementsLeft .. => .incorrectNumberOfFields
  | valueBeforeKey => .generic
  | inField _ inner => inner.kind

/-- What was wanted and what was met, in a sentence. -/
def expectation (wanted found : String) : String := s!"Expected {wanted}, found {found}."

/-- Several alternatives in a sentence, each between backquotes. -/
def alternatives : List String → String
  | [] => "there are no variants"
  | [only] => s!"expected `{only}`"
  | [first, second] => s!"expected `{first}` or `{second}`"
  | many => "expected one of " ++ ", ".intercalate (many.map fun name => s!"`{name}`")

private def tooBig (count : Nat) : String := s!"Too big to be packed: {count} elements."

/-- The text of a category, then the detail when there is one. -/
def joined (kind : Kind) (detail : Option String) : String :=
  match detail with
  | some detail => kind.text ++ " " ++ detail
  | none => kind.text

def detail : CodecFault → Option String
  | reported _ detail => detail
  | notEnoughBytes wanted available =>
    some (expectation s!"{wanted} bytes" s!"{available} bytes")
  | trailingBytes count => some s!"{count} trailing bytes after value"
  | nestedTooDeep limit => some s!"Nesting deeper than {limit} levels"
  | unknownMarker marker => some s!"Unknown marker {hexByte marker}"
  | brokenText fault => some fault.message
  | lengthTooLarge length => some s!"Length {length} exceeds the signed 32-bit maximum."
  | tooManyElements count => some (tooBig count)
  | tooManyFields signature count =>
    some s!"Structure {hexByte signature} has too many fields: {tooBig count}"
  | wrongKind wanted found => some (expectation wanted found)
  | wrongSignature wanted found => some (expectation (hexByte wanted) (hexByte found))
  | wrongFieldCount wanted found => some (expectation s!"{wanted} fields" s!"{found} fields")
  | missingFieldAt index => some s!"no field at index {index}"
  | inField index inner => some (s!"field {index}: " ++ inner.detail.getD "")
  | whileReading inner => some (joined inner.kind inner.detail)
  | elementsLeft count unread => some s!"{count} elements, {unread} left unread"
  | integerTooLarge value => some s!"{value} does not fit in a signed 64-bit integer"
  | unsupportedInteger typeName => some s!"{typeName} is not supported"
  | valueBeforeKey => some "serialize_value called before serialize_key"
  | signatureTooLarge value => some s!"Structure signature {value} does not fit in a byte"
  | unexpectedEntry key => some ("Unexpected structure entry \x27" ++ key ++ "\x27")
  | signatureMissing => some "Structure serialized without a signature"
  | invalidType found wanted => some s!"invalid type: {found.describe}, expected {wanted}"
  | invalidValue found wanted => some s!"invalid value: {found.describe}, expected {wanted}"
  | invalidLength length wanted => some s!"invalid length {length}, expected {wanted}"
  | missingField name => some s!"missing field `{name}`"
  | unknownVariant name known => some s!"unknown variant `{name}`, {alternatives known}"
  | outOfRange what => some s!"{what} is outside the representable range"
  | unknownZone name => some s!"unknown timezone id: {name}"

/-- What a reader sees: the category and the detail. -/
def message (fault : CodecFault) : String := joined fault.kind fault.detail

end CodecFault
end BoltClient
