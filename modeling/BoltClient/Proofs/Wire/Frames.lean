import BoltClient.Proofs.Wire.Dechunking

/-!
Framed messages and the way back. A payload is cut into pieces that are never
empty and never longer than two bytes can announce, so the only chunk of length
zero in a frame is the one at its end, whatever the payload's own bytes look like.
A dechunker at rest takes a line of frames and keep-alives apart again and comes
to rest.
-/

namespace BoltClient

namespace Framing

theorem flatten_pieces (payload : Bytes) : (pieces payload).flatten = payload := by
  fun_induction pieces payload with
  | case1 payload empty => rw [List.isEmpty_iff.1 empty, List.flatten_nil]
  | case2 payload filled ih => rw [List.flatten_cons, ih, List.take_append_drop]

/-- No piece is empty, and each fits the length in front of it. -/
theorem piece_size {payload piece : Bytes} (member : piece ∈ pieces payload) :
    piece ≠ [] ∧ piece.length ≤ chunkLimit := by
  fun_induction pieces payload with
  | case1 => cases member
  | case2 payload filled ih =>
    rcases List.mem_cons.1 member with rfl | later
    · constructor
      · intro nothing
        rcases List.take_eq_nil_iff.1 nothing with none | empty
        · cases none
        · exact filled (List.isEmpty_iff.2 empty)
      · exact List.length_take_le chunkLimit payload
    · exact ih later

theorem pieces_ne_nil {payload : Bytes} (filled : payload ≠ []) : pieces payload ≠ [] := by
  intro none
  have whole := flatten_pieces payload
  rw [none, List.flatten_nil] at whole
  exact filled whole.symm

/-- There are as many pieces as it takes, and none for nothing. -/
theorem length_pieces (payload : Bytes) :
    (pieces payload).length = (payload.length + (chunkLimit - 1)) / chunkLimit := by
  fun_induction pieces payload with
  | case1 payload empty => rw [List.isEmpty_iff.1 empty]; rfl
  | case2 payload filled ih =>
    have bytes : payload.length ≠ 0 := by simpa using filled
    rw [List.length_cons, ih, List.length_drop]
    unfold chunkLimit
    by_cases last : payload.length ≤ 65535
    · omega
    · omega

theorem length_chunk (piece : Bytes) : (chunk piece).length = 2 + piece.length := by
  rw [chunk, List.length_append, Bytes.length_ofNat]

theorem length_chunks (cuts : List Bytes) :
    (cuts.flatMap chunk).length = cuts.flatten.length + 2 * cuts.length := by
  induction cuts with
  | nil => rfl
  | cons cut cuts ih =>
    simp only [List.flatMap_cons, List.flatten_cons, List.length_append, List.length_cons,
      length_chunk, ih]
    omega

theorem chunks_cons (cut : Bytes) (cuts : List Bytes) (rest : Bytes) :
    (cut :: cuts).flatMap chunk ++ terminator ++ rest =
      chunk cut ++ (cuts.flatMap chunk ++ terminator ++ rest) := by
  simp only [List.flatMap_cons, List.append_assoc]

theorem length_frame (payload : Bytes) :
    (frame payload).length =
      payload.length + 2 * ((payload.length + (chunkLimit - 1)) / chunkLimit) + 2 := by
  rw [frame, List.length_append, length_chunks, flatten_pieces, length_pieces]
  rfl

/-- The length in front of a piece is read back as it was. -/
theorem announced_piece {payload piece : Bytes} (member : piece ∈ pieces payload) :
    Bytes.toNat (Bytes.ofNat 2 piece.length) = piece.length := by
  have fits := (piece_size member).2
  refine Bytes.toNat_ofNat ?_
  simp only [Bytes.limit]
  unfold chunkLimit at fits
  omega

/-- Payloads on the line, each in its frame and behind its keep-alives, and the keep-alives
behind the last. -/
def transmission (messages : List (Nat × Bytes)) (after : Nat) : Bytes :=
  messages.flatMap (fun (before, payload) => keepAlives before ++ frame payload) ++ keepAlives after

namespace Carries

variable {payloads : List Bytes} {stream : Bytes}

theorem keepAlives (count : Nat) (behind : Carries payloads stream) :
    Carries payloads (keepAlives count ++ stream) := by
  induction count with
  | zero => exact behind
  | succ count ih =>
    have longer : Framing.keepAlives (count + 1) = terminator ++ Framing.keepAlives count := rfl
    rw [longer, List.append_assoc]
    exact .keepAlive ih

theorem frame {payload : Bytes} (filled : payload ≠ []) (behind : Carries payloads stream) :
    Carries (payload :: payloads) (frame payload ++ stream) := by
  have carries := Carries.message (pieces_ne_nil filled) (fun _ => piece_size) behind
  rwa [flatten_pieces] at carries

theorem transmission {messages : List (Nat × Bytes)} (filled : ∀ message ∈ messages, message.2 ≠ [])
    (after : Nat) : Carries (messages.map Prod.snd) (transmission messages after) := by
  induction messages with
  | nil =>
    have quiet := Carries.keepAlives after .nil
    rwa [List.append_nil] at quiet
  | cons message messages ih =>
    have first := filled message (List.mem_cons_self ..)
    have later := ih fun other member => filled other (List.mem_cons_of_mem message member)
    have line : Framing.transmission (message :: messages) after =
        Framing.keepAlives message.1 ++ (Framing.frame message.2 ++
          Framing.transmission messages after) := by
      simp only [Framing.transmission, List.flatMap_cons, List.append_assoc]
    rw [line, List.map_cons]
    exact .keepAlives message.1 (.frame first later)

end Carries
end Framing

namespace Dechunker

open Framing

variable {payloads : List Bytes} {stream : Bytes}

theorem isIdle_iff {dechunker : Dechunker} : dechunker.isIdle = true ↔ dechunker = empty := by
  obtain ⟨cumulation, pending⟩ := dechunker
  cases cumulation <;> cases pending <;> simp [isIdle, empty]

theorem consume_keepAlive (rest : Bytes) :
    consume none (terminator ++ rest) = consume none rest := by
  rw [consume_found (nextChunk?_terminator rest)]
  rfl

theorem consume_chunk {piece : Bytes} (filled : piece ≠ []) (fits : piece.length ≤ chunkLimit)
    (partial? : Option Bytes) (rest : Bytes) :
    consume partial? (chunk piece ++ rest) = consume (some (partial?.getD [] ++ piece)) rest := by
  have grows : accept partial? piece = (none, some (partial?.getD [] ++ piece)) :=
    if_neg (by simpa using filled)
  rw [consume_found (nextChunk?_chunk fits rest), grows]
  rfl

/-- The chunks of a message are put behind what has been put together, and its end gives
all of it. -/
theorem consume_cuts {cuts : List Bytes} (sizes : ∀ cut ∈ cuts, cut ≠ [] ∧ cut.length ≤ chunkLimit)
    (front rest : Bytes) :
    consume (some front) (cuts.flatMap chunk ++ terminator ++ rest) =
      ((front ++ cuts.flatten) :: (consume none rest).1, (consume none rest).2) := by
  induction cuts generalizing front with
  | nil =>
    rw [List.flatMap_nil, List.nil_append, consume_found (nextChunk?_terminator rest),
      List.flatten_nil, List.append_nil]
    rfl
  | cons cut cuts ih =>
    obtain ⟨filled, fits⟩ := sizes cut (List.mem_cons_self ..)
    have others := fun other member => sizes other (List.mem_cons_of_mem cut member)
    have later := ih others (front ++ cut)
    rw [chunks_cons, consume_chunk filled fits, List.flatten_cons, ← List.append_assoc]
    exact later

theorem consume_message {cuts : List Bytes} (some : cuts ≠ [])
    (sizes : ∀ cut ∈ cuts, cut ≠ [] ∧ cut.length ≤ chunkLimit) (rest : Bytes) :
    consume none (cuts.flatMap chunk ++ terminator ++ rest) =
      (cuts.flatten :: (consume none rest).1, (consume none rest).2) := by
  cases cuts with
  | nil => exact absurd rfl some
  | cons cut cuts =>
    obtain ⟨filled, fits⟩ := sizes cut (List.mem_cons_self ..)
    have others := fun other member => sizes other (List.mem_cons_of_mem cut member)
    rw [chunks_cons, consume_chunk filled fits]
    exact consume_cuts others cut rest

/-- At rest, what a stream carries is what it gives, and nothing of it stays behind. -/
theorem feed_carried (carries : Carries payloads stream) :
    empty.feed stream = (payloads, empty) := by
  show consume none stream = _
  induction carries with
  | nil => exact consume_missing rfl none
  | keepAlive behind ih => rw [consume_keepAlive, ih]
  | message some sizes behind ih => rw [consume_message some sizes, ih]

/-- Frames and keep-alives give their payloads back, in order, and leave a dechunker at rest as
it was. A frame is its payload in chunks of one to 65535 bytes, each behind its length, and two
zero bytes. -/
theorem feed_transmission {dechunker : Dechunker} {messages : List (Nat × Bytes)}
    (idle : dechunker.isIdle = true) (filled : ∀ message ∈ messages, message.2 ≠ []) (after : Nat) :
    (dechunker.feed (transmission messages after)).1 = messages.map Prod.snd ∧
    (dechunker.feed (transmission messages after)).2.isIdle = true ∧
    ∀ payload, ∃ cuts : List Bytes,
      cuts.flatten = payload ∧
      frame payload = cuts.flatMap (fun cut => Bytes.ofNat 2 cut.length ++ cut) ++ [0, 0] ∧
      (∀ cut ∈ cuts, 1 ≤ cut.length ∧ cut.length ≤ 65535 ∧
        Bytes.toNat (Bytes.ofNat 2 cut.length) = cut.length) ∧
      (frame payload).length = payload.length + 2 * ((payload.length + 65534) / 65535) + 2 := by
  have fed : dechunker.feed (transmission messages after) = (messages.map Prod.snd, empty) := by
    rw [isIdle_iff.1 idle]
    exact feed_carried (.transmission filled after)
  refine ⟨congrArg Prod.fst fed, isIdle_iff.2 (congrArg Prod.snd fed), fun payload => ?_⟩
  refine ⟨pieces payload, flatten_pieces payload, rfl, fun cut member => ?_, length_frame payload⟩
  obtain ⟨some, fits⟩ := piece_size member
  exact ⟨List.length_pos_iff.2 some, fits, announced_piece member⟩

/-- Two keep-alives, three bytes that look like chunks themselves, one byte, and a keep-alive. -/
theorem feed_transmission_lookalike :
    (empty.feed [0, 0, 0, 0, 0, 3, 0, 1, 0, 0, 0, 0, 1, 4, 0, 0, 0, 0]).1 = [[0, 1, 0], [4]] := by
  have filled : ∀ message ∈ [(2, [0, 1, 0]), (0, ([4] : Bytes))], message.2 ≠ [] := by decide
  have line : transmission [(2, [0, 1, 0]), (0, [4])] 1 =
      [0, 0, 0, 0, 0, 3, 0, 1, 0, 0, 0, 0, 1, 4, 0, 0, 0, 0] := by decide +kernel
  rw [← line]
  exact (feed_transmission (rfl : empty.isIdle = true) filled 1).1

end Dechunker
end BoltClient
