import BoltClient.Value.Basic

/-!
The headers of sized values. Each composite kind has a marker range whose low
four bits hold a small count (byte strings have none), and long markers that
are followed by the count in one, two or four bytes (structures have no
four-byte form). Writing picks the shortest header that can hold the count.
-/

namespace BoltClient

/-- The markers of one composite kind: the first of its sixteen compact markers
and its long markers, each with the width of the count that follows it. -/
structure HeaderScheme where
  compact : Option UInt8
  long : List (UInt8 × Nat)

/-- The largest count that any header may carry. -/
def maxCount : Nat := 0x7FFFFFFF

namespace HeaderScheme

/-- The largest count that fits a header with `width` bytes. -/
def capacity (width : Nat) : Nat := min (Bytes.limit width - 1) maxCount

def compactCount? (scheme : HeaderScheme) (marker : UInt8) : Option Nat :=
  match scheme.compact with
  | some base =>
    if base ≤ marker ∧ marker ≤ base + 15 then some (marker.toNat - base.toNat) else none
  | none => none

def longWidth? (scheme : HeaderScheme) (marker : UInt8) : Option Nat :=
  scheme.long.lookup marker

/-- The shortest header for `count`. -/
def write (scheme : HeaderScheme) (count : Nat) : Except CodecFault Bytes :=
  let long := match scheme.long.find? fun (_, width) => count ≤ capacity width with
    | some (marker, width) => .ok (marker :: Bytes.ofNat width count)
    | none => .error (.tooManyElements count)
  match scheme.compact with
  | some base => if count ≤ 15 then .ok [base + UInt8.ofNat count] else long
  | none => long

/-- Splits `count` bytes off the front. -/
def take (count : Nat) (input : Bytes) : Except CodecFault (Bytes × Bytes) :=
  match Bytes.split? count input with
  | some parts => .ok parts
  | none => .error (.notEnoughBytes count input.length)

/-- The count that `marker` announces and the bytes behind its header, or `none`
when the marker is not one of this kind. -/
def read? (scheme : HeaderScheme) (marker : UInt8) (input : Bytes) :
    Except CodecFault (Option (Nat × Bytes)) :=
  match scheme.compactCount? marker with
  | some count => .ok (some (count, input))
  | none => match scheme.longWidth? marker with
    | none => .ok none
    | some width =>
      match take width input with
      | .error fault => .error fault
      | .ok (raw, rest) =>
        if maxCount < Bytes.toNat raw then .error (.lengthTooLarge (Bytes.toNat raw))
        else .ok (some (Bytes.toNat raw, rest))

/-- A reader that takes bytes off the front of its source. What it has taken when a fault
stops it is not put back. -/
abbrev Taker (α : Type) := ExceptT CodecFault (StateM Bytes) α

/-- Takes `count` bytes off the source, or none of them when there are fewer. -/
def takeOff (count : Nat) : Taker Bytes := do
  let (front, rest) ← take count (← get)
  set rest
  return front

/-- Reads the count that `marker` announces where it stands at the front of a source. -/
def readSize (scheme : HeaderScheme) (marker : UInt8) : Taker (Option Nat) :=
  match scheme.compactCount? marker with
  | some count => return some count
  | none => match scheme.longWidth? marker with
    | none => return none
    | some width => do
      let raw ← takeOff width
      if maxCount < Bytes.toNat raw then throw (.lengthTooLarge (Bytes.toNat raw))
      return some (Bytes.toNat raw)

end HeaderScheme

/-- The kinds of values that begin with a header. -/
inductive Composite where
  | bytes
  | string
  | list
  | map
  | struct
  deriving DecidableEq, Repr

namespace Composite

def all : List Composite := [bytes, string, list, map, struct]

def scheme : Composite → HeaderScheme
  | bytes => ⟨none, [(0xCC, 1), (0xCD, 2), (0xCE, 4)]⟩
  | string => ⟨some 0x80, [(0xD0, 1), (0xD1, 2), (0xD2, 4)]⟩
  | list => ⟨some 0x90, [(0xD4, 1), (0xD5, 2), (0xD6, 4)]⟩
  | map => ⟨some 0xA0, [(0xD8, 1), (0xD9, 2), (0xDA, 4)]⟩
  | struct => ⟨some 0xB0, [(0xDC, 1), (0xDD, 2)]⟩

/-- The first kind that recognises the marker, with what its header announces. -/
def announced? (marker : UInt8) (input : Bytes) :
    List Composite → Except CodecFault (Option (Composite × Nat × Bytes))
  | [] => .ok none
  | kind :: rest =>
    match kind.scheme.read? marker input with
    | .error fault => .error fault
    | .ok (some (count, remaining)) => .ok (some (kind, count, remaining))
    | .ok none => announced? marker input rest

end Composite
end BoltClient
