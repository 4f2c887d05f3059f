import BoltClient.Codec.Header

/-!
Packing values into bytes. A writer puts out bytes until it is done or a count
does not fit its header; what it has put out by then stays, after whatever the
destination held before.
-/

namespace BoltClient

/-- What a writer has put out when it stops, and the fault that stopped it. -/
structure Emission where
  bytes : Bytes
  fault : Option CodecFault

namespace Emission

def of (bytes : Bytes) : Emission := ⟨bytes, none⟩

def ofHeader : Except CodecFault Bytes → Emission
  | .ok header => of header
  | .error fault => ⟨[], some fault⟩

/-- Goes on with the second writer when the first one was not stopped. -/
def andThen (first : Emission) (second : Unit → Emission) : Emission :=
  match first.fault with
  | some _ => first
  | none =>
    let next := second ()
    ⟨first.bytes ++ next.bytes, next.fault⟩

def result (emission : Emission) : Except CodecFault Bytes :=
  match emission.fault with
  | some fault => .error fault
  | none => .ok emission.bytes

end Emission

namespace Value

/-- The two's complement of an integer in `width` bytes. -/
def signedBytes (width : Nat) (number : Int) : Bytes :=
  Bytes.ofNat width (number % (Bytes.limit width : Nat)).toNat

/-- The shortest form of an integer: one byte from -16 to 127, else a marker and
the fewest of one, two, four or eight bytes that hold it. -/
def packInteger (number : Int) : Bytes :=
  if -16 ≤ number ∧ number ≤ 127 then signedBytes 1 number
  else if -128 ≤ number ∧ number ≤ 127 then 0xC8 :: signedBytes 1 number
  else if -0x8000 ≤ number ∧ number < 0x8000 then 0xC9 :: signedBytes 2 number
  else if -0x80000000 ≤ number ∧ number < 0x80000000 then 0xCA :: signedBytes 4 number
  else 0xCB :: signedBytes 8 number

/-- A header for `count` in the scheme of `kind`, then the content. -/
def emitSized (kind : Composite) (count : Nat) (content : Unit → Emission) : Emission :=
  (Emission.ofHeader (kind.scheme.write count)).andThen content

def emitText (text : String) : Emission :=
  let content := Utf8.encode text
  emitSized .string content.length fun _ => .of content

/-- The header of a structure; its fault also names the signature. -/
def structHeader (signature : UInt8) (count : Nat) : Except CodecFault Bytes :=
  match Composite.struct.scheme.write count with
  | .ok header => .ok (header ++ [signature])
  | .error _ => .error (.tooManyFields signature count)

mutual

def emit : Value → Emission
  | null => .of [0xC0]
  | boolean false => .of [0xC2]
  | boolean true => .of [0xC3]
  | integer value => .of (packInteger value.toInt)
  | float number => .of (0xC1 :: Bytes.ofNat 8 number.bits.toNat)
  | bytes content => emitSized .bytes content.length fun _ => .of content
  | string text => emitText text
  | list items => emitSized .list items.length fun _ => emitItems items
  | map entries => emitSized .map entries.length fun _ => emitEntries entries
  | struct signature fields =>
    (Emission.ofHeader (structHeader signature fields.length)).andThen fun _ => emitItems fields
termination_by structural value => value

def emitItems : List Value → Emission
  | [] => .of []
  | item :: rest => item.emit.andThen fun _ => emitItems rest
termination_by structural items => items

def emitEntries : List (String × Value) → Emission
  | [] => .of []
  | (key, item) :: rest =>
    (emitText key).andThen fun _ => item.emit.andThen fun _ => emitEntries rest
termination_by structural entries => entries

end

/-- Packs a value into fresh bytes. -/
def encode (value : Value) : Except CodecFault Bytes := value.emit.result

end Value

/-! Packing into a buffer that is there already. -/

/-- A writer that puts bytes behind those of a buffer. What it has put there when a
fault stops it stays. -/
abbrev Packer := ExceptT CodecFault (StateM (Array UInt8)) Unit

namespace Packer

def put (bytes : Bytes) : Packer := modify fun buffer : Array UInt8 => buffer ++ bytes

/-- Puts a header, or stops where a count has none. -/
def putHeader (header : Except CodecFault Bytes) : Packer := do
  put (← header)

def putSized (kind : Composite) (count : Nat) (content : Packer) : Packer := do
  putHeader (kind.scheme.write count)
  content

def putText (text : String) : Packer :=
  let content := Utf8.encode text
  putSized .string content.length (put content)

end Packer

namespace Value

open Packer

mutual

def pack : Value → Packer
  | null => put [0xC0]
  | boolean false => put [0xC2]
  | boolean true => put [0xC3]
  | integer value => put (packInteger value.toInt)
  | float number => do
    put [0xC1]
    put (Bytes.ofNat 8 number.bits.toNat)
  | bytes content => putSized .bytes content.length (put content)
  | string text => putText text
  | list items => putSized .list items.length (packItems items)
  | map entries => putSized .map entries.length (packEntries entries)
  | struct signature fields => do
    putHeader (structHeader signature fields.length)
    packItems fields
termination_by structural value => value

def packItems : List Value → Packer
  | [] => pure ()
  | item :: rest => do
    item.pack
    packItems rest
termination_by structural items => items

def packEntries : List (String × Value) → Packer
  | [] => pure ()
  | (key, item) :: rest => do
    putText key
    item.pack
    packEntries rest
termination_by structural entries => entries

end

/-- Packs a value behind what `destination` already holds. After a fault the
destination keeps what had been written. -/
def encodeInto (value : Value) (destination : Bytes) : Bytes × Except CodecFault Unit :=
  let (result, buffer) := value.pack.run.run destination.toArray
  (buffer.toList, result)

end Value
end BoltClient
