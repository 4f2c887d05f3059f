import BoltClient.Bytes

/-!
Message framing. A message travels as chunks, each behind its length in two
bytes, and ends with a chunk of length zero. A zero chunk with nothing before it
keeps the line alive and is no message. A `Dechunker` puts messages together
from bytes that may arrive cut anywhere.
-/

namespace BoltClient

namespace Framing

/-- The longest chunk that a two-byte length can announce. -/
def chunkLimit : Nat := 65535

def terminator : Bytes := [0, 0]

/-- The payload in pieces of `chunkLimit` bytes, the last one holding what is left. -/
def pieces (payload : Bytes) : List Bytes :=
  if payload.isEmpty then []
  else payload.take chunkLimit :: pieces (payload.drop chunkLimit)
termination_by payload.length
decreasing_by
  have filled : payload.length ≠ 0 := by simp_all
  simp only [List.length_drop, chunkLimit]
  omega

/-- A piece behind its length. -/
def chunk (piece : Bytes) : Bytes := Bytes.ofNat 2 piece.length ++ piece

/-- The framed form of a payload. An empty payload looks like a keep-alive. -/
def frame (payload : Bytes) : Bytes := (pieces payload).flatMap chunk ++ terminator

/-- The body of the chunk at the front and the bytes behind it, once all of it is there. -/
def nextChunk? (input : Bytes) : Option (Bytes × Bytes) :=
  match Bytes.split? 2 input with
  | none => none
  | some (header, rest) => Bytes.split? (Bytes.toNat header) rest

theorem length_of_nextChunk? {input body rest : Bytes} (found : nextChunk? input = some (body, rest)) :
    input.length = 2 + body.length + rest.length := by
  unfold nextChunk? at found
  split at found
  · simp at found
  · next header behind taken =>
    obtain ⟨rfl, width⟩ := Bytes.eq_append_of_split? taken
    obtain ⟨rfl, -⟩ := Bytes.eq_append_of_split? found
    simp only [List.length_append]
    omega

/-- Adds one chunk to the message so far: an empty chunk ends it. -/
def accept (partial? : Option Bytes) (body : Bytes) : Option Bytes × Option Bytes :=
  if body.isEmpty then (partial?, none) else (none, some (partial?.getD [] ++ body))

/-- Reads one whole message off the front, skipping keep-alives; `none` when the
input ends first. -/
def readFrom (partial? : Option Bytes) (input : Bytes) : Option (Bytes × Bytes) :=
  match _ : nextChunk? input with
  | none => none
  | some (body, rest) =>
    match accept partial? body with
    | (some message, _) => some (message, rest)
    | (none, partial?) => readFrom partial? rest
termination_by input.length
decreasing_by
  have := length_of_nextChunk? ‹_›
  omega

def readMessage (input : Bytes) : Option (Bytes × Bytes) := readFrom none input

theorem length_of_readFrom {partial? : Option Bytes} {input message rest : Bytes}
    (found : readFrom partial? input = some (message, rest)) : rest.length < input.length := by
  fun_induction readFrom partial? input with
  | case1 => simp at found
  | case2 partial? input body behind taken whole =>
    have := length_of_nextChunk? taken
    cases found
    omega
  | case3 partial? input body behind taken next _ ih =>
    have := length_of_nextChunk? taken
    have := ih found
    omega

/-- Every message of a finished input, in order. -/
def readAll (input : Bytes) : List Bytes :=
  match _ : readMessage input with
  | none => []
  | some (message, rest) => message :: readAll rest
termination_by input.length
decreasing_by exact length_of_readFrom ‹_›

end Framing

/-- What has arrived of a message: its finished chunks, and the bytes of a chunk
that is not complete. -/
structure Dechunker where
  cumulation : Option Bytes
  pending : Bytes
  deriving DecidableEq, Repr

namespace Dechunker

open Framing

def empty : Dechunker := ⟨none, []⟩

/-- Takes the body of one chunk; answers the message that it completes. -/
def push (dechunker : Dechunker) (body : Bytes) : Option Bytes × Dechunker :=
  let (message?, cumulation) := accept dechunker.cumulation body
  (message?, { dechunker with cumulation })

/-- Takes all complete chunks off `input`; what is left stays pending. -/
def consume (cumulation : Option Bytes) (input : Bytes) : List Bytes × Dechunker :=
  match _ : nextChunk? input with
  | none => ([], ⟨cumulation, input⟩)
  | some (body, rest) =>
    let (message?, cumulation) := accept cumulation body
    let (messages, dechunker) := consume cumulation rest
    (message?.toList ++ messages, dechunker)
termination_by input.length
decreasing_by
  have := length_of_nextChunk? ‹_›
  omega

/-- Takes bytes as they arrive; answers every message that they complete. -/
def feed (dechunker : Dechunker) (bytes : Bytes) : List Bytes × Dechunker :=
  consume dechunker.cumulation (dechunker.pending ++ bytes)

/-- Whether nothing of a message or chunk is buffered. -/
def isIdle (dechunker : Dechunker) : Bool :=
  dechunker.cumulation.isNone && dechunker.pending.isEmpty

end Dechunker
end BoltClient
