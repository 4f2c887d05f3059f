import BoltClient.Protocol.Fault
import BoltClient.Wire.Framing

/-!
Reading messages off a stream whose bytes arrive in pieces. A reader asks for a
header and for the body that it announces, and waits until it has exactly that
many bytes, however they are cut. It keeps nothing from one message to the next:
what it has of a message that does not end is gone.
-/

namespace BoltClient

/-- What a stream still has for its reader: its bytes in the pieces in which they
arrive, and the fault of asking for more than there is. An empty piece is a look at
the stream that finds nothing yet. -/
structure Reader where
  pieces : List Bytes
  ending : TransportFault

namespace Reader

/-- A stream that is closed behind its last piece. -/
def closedBehind (pieces : List Bytes) : Reader := ⟨pieces, .earlyEnd⟩

/-- The bytes that have not been read. -/
def unread (reader : Reader) : Bytes := reader.pieces.flatten

/-- Takes bytes from one piece after the other. What is left of the last one stays. -/
def fill : (count : Nat) → List Bytes → Option (Bytes × List Bytes)
  | 0, pieces => some ([], pieces)
  | _ + 1, [] => none
  | count + 1, piece :: later =>
    if count < piece.length then
      some (piece.take (count + 1), piece.drop (count + 1) :: later)
    else (fill (count + 1 - piece.length) later).map fun (more, left) => (piece ++ more, left)

/-- Reads exactly so many bytes. -/
def readExact (count : Nat) (reader : Reader) : Except TransportFault (Bytes × Reader) :=
  match fill count reader.pieces with
  | some (bytes, pieces) => .ok (bytes, { reader with pieces })
  | none => .error reader.ending

theorem eq_append_of_fill {count : Nat} {pieces left : List Bytes} {bytes : Bytes}
    (filled : fill count pieces = some (bytes, left)) :
    pieces.flatten = bytes ++ left.flatten ∧ bytes.length = count := by
  fun_induction fill count pieces generalizing bytes with
  | case1 pieces =>
    cases filled
    exact ⟨rfl, rfl⟩
  | case2 => cases filled
  | case3 count piece later enough =>
    cases filled
    refine ⟨?_, List.length_take_of_le enough⟩
    rw [List.flatten_cons, List.flatten_cons, ← List.append_assoc, List.take_append_drop]
  | case4 count piece later short ih =>
    obtain ⟨⟨more, rest⟩, found, same⟩ := Option.map_eq_some_iff.1 filled
    cases same
    obtain ⟨shape, width⟩ := ih found
    refine ⟨?_, ?_⟩
    · rw [List.flatten_cons, shape, List.append_assoc]
    · rw [List.length_append, width]
      omega

theorem eq_append_of_readExact {count : Nat} {reader behind : Reader} {bytes : Bytes}
    (taken : reader.readExact count = .ok (bytes, behind)) :
    reader.unread = bytes ++ behind.unread ∧ bytes.length = count := by
  unfold readExact at taken
  split at taken
  · next filled =>
    cases taken
    exact eq_append_of_fill filled
  · cases taken

/-- Reads one chunk: a header and the body that it announces. -/
def readChunk (reader : Reader) : Except TransportFault (Bytes × Reader) := do
  let (header, reader) ← reader.readExact 2
  reader.readExact (Bytes.toNat header)

theorem length_of_readChunk {reader behind : Reader} {body : Bytes}
    (taken : reader.readChunk = .ok (body, behind)) :
    reader.unread.length = 2 + body.length + behind.unread.length := by
  unfold readChunk at taken
  cases front : reader.readExact 2 with
  | error fault =>
    rw [front] at taken
    cases taken
  | ok halves =>
    obtain ⟨header, middle⟩ := halves
    rw [front] at taken
    obtain ⟨shape, width⟩ := eq_append_of_readExact front
    obtain ⟨rest, -⟩ := eq_append_of_readExact (show middle.readExact _ = _ from taken)
    rw [shape, rest, List.length_append, List.length_append, width]
    omega

/-- Reads chunks into a dechunker until a message is whole. -/
def readInto (dechunker : Dechunker) (reader : Reader) :
    Except ProtocolFault (Bytes × Reader) :=
  match _ : reader.readChunk with
  | .error fault => .error (.transport fault)
  | .ok (body, behind) =>
    match dechunker.push body with
    | (some message, _) => .ok (message, behind)
    | (none, dechunker) => readInto dechunker behind
termination_by reader.unread.length
decreasing_by
  have := length_of_readChunk ‹_›
  omega

/-- Reads one message, skipping keep-alives. -/
def readMessage (reader : Reader) : Except ProtocolFault (Bytes × Reader) :=
  reader.readInto .empty

theorem length_of_readInto {dechunker : Dechunker} {reader behind : Reader} {message : Bytes}
    (found : reader.readInto dechunker = .ok (message, behind)) :
    behind.unread.length < reader.unread.length := by
  fun_induction readInto dechunker reader with
  | case1 => cases found
  | case2 dechunker reader body rest taken whole =>
    have := length_of_readChunk taken
    cases found
    omega
  | case3 dechunker reader body rest taken next _ ih =>
    have := length_of_readChunk taken
    have := ih found
    omega

/-- Reads messages until there is no more of them. Answers each with the reader right
behind it, and the fault of the last attempt. -/
def readAll (reader : Reader) : List (Bytes × Reader) × ProtocolFault :=
  match _ : reader.readMessage with
  | .error fault => ([], fault)
  | .ok (message, behind) =>
    let (others, fault) := readAll behind
    ((message, behind) :: others, fault)
termination_by reader.unread.length
decreasing_by exact length_of_readInto ‹_›

end Reader
end BoltClient
