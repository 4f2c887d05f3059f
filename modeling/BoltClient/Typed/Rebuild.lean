import BoltClient.Typed.Decoder

/-!
Values read as typed data. A map whose first key is the reserved signature key
is read as a structure: its signature must be a byte, and when the next key is
the reserved fields key its items are the fields. All else comes back as it is.
-/

namespace BoltClient.Value

mutual

def rebuild : Decoder Value
  | list items => (rebuildItems items).map list
  | map entries => rebuildEntries entries
  | struct signature fields => (rebuildItems fields).map (struct signature)
  | value => .ok value
termination_by structural value => value

def rebuildItems : List Value → Except CodecFault (List Value)
  | [] => .ok []
  | item :: rest => do
    let first ← rebuild item
    let others ← rebuildItems rest
    return first :: others
termination_by structural items => items

def rebuildEntries : List (String × Value) → Except CodecFault Value
  | [] => .ok (map [])
  | (key, item) :: rest =>
    if key = signatureKey then do
      let signature ← Decoder.integer .byte item
      let fields ← rebuildFields rest
      return struct (UInt8.ofNat signature.toNat) fields
    else do
      let first ← rebuild item
      let others ← rebuildOthers rest
      return .ofPairs ((key, first) :: others)
termination_by structural entries => entries

def rebuildOthers : List (String × Value) → Except CodecFault (List (String × Value))
  | [] => .ok []
  | (key, item) :: rest => do
    let first ← rebuild item
    let others ← rebuildOthers rest
    return (key, first) :: others
termination_by structural entries => entries

/-- The fields of a structure told by keys; whatever else follows is passed over. -/
def rebuildFields : List (String × Value) → Except CodecFault (List Value)
  | [] => .ok []
  | (key, item) :: _ => if key = fieldsKey then rebuildElements item else .ok []
termination_by structural entries => entries

def rebuildElements : Value → Except CodecFault (List Value)
  | list items => rebuildItems items
  | struct _ fields => rebuildItems fields
  | other => Decoder.elements other
termination_by structural value => value

end

end BoltClient.Value
