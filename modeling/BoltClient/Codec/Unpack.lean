import BoltClient.Codec.Header

/-!
Unpacking values from bytes. Reading a value takes it off the front and leaves
the rest. The number of levels still allowed shrinks at every container, so
reading ends, and a value too deep is refused before its marker is looked at.
-/

namespace BoltClient.Value

/-- The deepest part of a value that is accepted, counted in enclosing containers. -/
def maxDepth : Nat := 512

/-- Takes something off the front of the input and leaves the rest. -/
abbrev Reader (α : Type) := Bytes → Except CodecFault (α × Bytes)

namespace Reader

/-- Reads a two's complement number of `width` bytes. -/
def signed (width : Nat) : Reader Int := fun input => do
  let (raw, rest) ← HeaderScheme.take width input
  return (Int.bmod (Bytes.toNat raw) (Bytes.limit width), rest)

def integer (width : Nat) : Reader Value := fun input => do
  let (number, rest) ← signed width input
  return (.ofInt number, rest)

def float : Reader Value := fun input => do
  let (raw, rest) ← HeaderScheme.take 8 input
  return (.float (Double.ofWord (Bytes.toNat raw)), rest)

def byteString (count : Nat) : Reader Value := fun input => do
  let (content, rest) ← HeaderScheme.take count input
  return (.bytes content, rest)

def text (count : Nat) : Reader Value := fun input => do
  let (content, rest) ← HeaderScheme.take count input
  match Utf8.decode content with
  | .ok text => return (.string text, rest)
  | .error fault => throw (.brokenText fault)

/-- Reads `count` values one after the other. -/
def items (read : Reader Value) : (count : Nat) → Reader (List Value)
  | 0, input => .ok ([], input)
  | count + 1, input => do
    let (item, rest) ← read input
    let (others, rest) ← items read count rest
    return (item :: others, rest)

def key (read : Reader Value) : Reader String := fun input => do
  match ← read input with
  | (.string text, rest) => return (text, rest)
  | (other, _) => throw (other.mismatch "string map key")

/-- Reads `count` entries into those already read; a later duplicate key wins. -/
def entries (read : Reader Value) : (count : Nat) → Entries Value → Reader (Entries Value)
  | 0, collected, input => .ok (collected, input)
  | count + 1, collected, input => do
    let (name, rest) ← key read input
    let (item, rest) ← read rest
    entries read count (collected.put name item) rest

/-- Reads what a header has announced, its parts by `read`. -/
def content (read : Reader Value) (kind : Composite) (count : Nat) : Reader Value := fun input =>
  match kind with
  | .bytes => byteString count input
  | .string => text count input
  | .list => do
    let (parts, rest) ← items read count input
    return (.list parts, rest)
  | .map => do
    let (parts, rest) ← entries read count [] input
    return (.map parts, rest)
  | .struct => do
    let (raw, rest) ← HeaderScheme.take 1 input
    let (parts, rest) ← items read count rest
    return (.struct (raw.headD 0) parts, rest)

/-- Reads the rest of the value that begins with `marker`, its parts by `read`. -/
def afterMarker (read : Reader Value) (marker : UInt8) : Reader Value := fun input =>
  if marker = 0xC0 then .ok (.null, input)
  else if marker = 0xC1 then float input
  else if marker = 0xC2 then .ok (.boolean false, input)
  else if marker = 0xC3 then .ok (.boolean true, input)
  else if marker = 0xC8 then integer 1 input
  else if marker = 0xC9 then integer 2 input
  else if marker = 0xCA then integer 4 input
  else if marker = 0xCB then integer 8 input
  else if marker ≤ 0x7F ∨ 0xF0 ≤ marker then
    .ok (.ofInt (Int.bmod marker.toNat 256), input)
  else do
    match ← Composite.announced? marker input Composite.all with
    | some (kind, count, rest) => content read kind count rest
    | none => throw (.unknownMarker marker)

/-- Reads one value with at most `levels` levels, its own included. -/
def value : (levels : Nat) → Reader Value
  | 0, _ => .error (.nestedTooDeep maxDepth)
  | levels + 1, input => do
    let (raw, rest) ← HeaderScheme.take 1 input
    afterMarker (value levels) (raw.headD 0) rest

end Reader

/-- Reads one value off the front of the input and leaves the rest. -/
def read : Reader Value := Reader.value (maxDepth + 1)

/-- Decodes one value from the front and tells how many bytes it occupied. -/
def decode (input : Bytes) : Except CodecFault (Value × Nat) := do
  let (value, rest) ← read input
  return (value, input.length - rest.length)

/-- Decodes a value that must occupy all of the input. -/
def decodeExact (input : Bytes) : Except CodecFault Value := do
  let (value, rest) ← read input
  match rest with
  | [] => return value
  | _ => throw (.trailingBytes rest.length)

/-- Decodes one value after the other until the input ends or one is broken;
at most `fuel` values are read. -/
def decodeUpTo : (fuel : Nat) → Bytes → List Value × Bytes × Option CodecFault
  | 0, input => ([], input, none)
  | fuel + 1, input =>
    match input with
    | [] => ([], [], none)
    | _ => match read input with
      | .error fault => ([], input, some fault)
      | .ok (value, rest) =>
        let (values, remaining, fault) := decodeUpTo fuel rest
        (value :: values, remaining, fault)

/-- Every value takes at least one byte, so the input's length bounds their number. -/
def decodeAll (input : Bytes) : List Value × Bytes × Option CodecFault :=
  decodeUpTo input.length input

end BoltClient.Value
