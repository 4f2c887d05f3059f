import BoltClient.Wire.Framing
import BoltClient.Wire.Handshake

/-!
Streams of messages. A stream carries payloads when each of them travels in
chunks, cut anywhere, and keep-alives stand before, between or behind them.
However it is cut, its messages are read off one after the other, and bytes that
arrive later do not change what has been read.
-/

namespace BoltClient

namespace Framing

/-- The payloads that a stream carries. The sender chooses the cuts and the keep-alives. -/
inductive Carries : List Bytes → Bytes → Prop where
  | nil : Carries [] []
  | keepAlive {payloads : List Bytes} {stream : Bytes} (behind : Carries payloads stream) :
    Carries payloads (terminator ++ stream)
  | message {cuts payloads : List Bytes} {stream : Bytes} (some : cuts ≠ [])
    (sizes : ∀ cut ∈ cuts, cut ≠ [] ∧ cut.length ≤ chunkLimit) (behind : Carries payloads stream) :
    Carries (cuts.flatten :: payloads) (cuts.flatMap chunk ++ terminator ++ stream)

/-- What is left of a stream when messages have been read off it. -/
inductive Reads : Bytes → List Bytes → Bytes → Prop where
  | nil (stream : Bytes) : Reads stream [] stream
  | cons {stream payload behind rest : Bytes} {payloads : List Bytes}
    (found : readMessage stream = some (payload, behind)) (later : Reads behind payloads rest) :
    Reads stream (payload :: payloads) rest

theorem nextChunk?_append {input body rest : Bytes} (found : nextChunk? input = some (body, rest))
    (more : Bytes) : nextChunk? (input ++ more) = some (body, rest ++ more) := by
  unfold nextChunk? at found
  split at found
  · cases found
  · next header behind taken =>
    obtain ⟨rfl, width⟩ := Bytes.eq_append_of_split? taken
    obtain ⟨rfl, size⟩ := Bytes.eq_append_of_split? found
    have front : Bytes.split? 2 (header ++ (body ++ rest) ++ more) =
        some (header, body ++ (rest ++ more)) := by
      rw [← width, List.append_assoc, List.append_assoc, Bytes.split?_append]
    unfold nextChunk?
    rw [front]
    show Bytes.split? (Bytes.toNat header) _ = _
    rw [← size, Bytes.split?_append]

/-- One chunk either ends the message or adds to it. -/
theorem readFrom_of_nextChunk? {input body rest : Bytes}
    (found : nextChunk? input = some (body, rest)) (partial? : Option Bytes) :
    readFrom partial? input =
      match accept partial? body with
      | (some message, _) => some (message, rest)
      | (none, partial?) => readFrom partial? rest := by
  rw [readFrom]
  split
  · next missing => rw [missing] at found; cases found
  · next taken =>
    obtain ⟨rfl, rfl⟩ := Prod.mk.inj (Option.some.inj (taken.symm.trans found))
    rfl

theorem readFrom_append {partial? : Option Bytes} {input message rest : Bytes}
    (found : readFrom partial? input = some (message, rest)) (more : Bytes) :
    readFrom partial? (input ++ more) = some (message, rest ++ more) := by
  fun_induction readFrom partial? input with
  | case1 => cases found
  | case2 partial? input body behind taken whole _ ends =>
    cases found
    rw [readFrom_of_nextChunk? (nextChunk?_append taken more), ends]
  | case3 partial? input body behind taken next goesOn ih =>
    rw [readFrom_of_nextChunk? (nextChunk?_append taken more), goesOn]
    exact ih found

theorem readMessage_append {input message rest : Bytes}
    (found : readMessage input = some (message, rest)) (more : Bytes) :
    readMessage (input ++ more) = some (message, rest ++ more) :=
  readFrom_append found more

/-! One chunk of a message, its end, and a keep-alive. -/

theorem nextChunk?_chunk {piece : Bytes} (fits : piece.length ≤ chunkLimit) (rest : Bytes) :
    nextChunk? (chunk piece ++ rest) = some (piece, rest) := by
  have header : Bytes.toNat (Bytes.ofNat 2 piece.length) = piece.length := by
    refine Bytes.toNat_ofNat ?_
    simp only [Bytes.limit]
    unfold chunkLimit at fits
    omega
  have front : Bytes.split? 2 (chunk piece ++ rest) =
      some (Bytes.ofNat 2 piece.length, piece ++ rest) := by
    have split := Bytes.split?_append (Bytes.ofNat 2 piece.length) (piece ++ rest)
    rwa [Bytes.length_ofNat, ← List.append_assoc] at split
  unfold nextChunk?
  rw [front]
  show Bytes.split? (Bytes.toNat _) _ = _
  rw [header, Bytes.split?_append]

theorem readFrom_chunk {piece : Bytes} (filled : piece ≠ []) (fits : piece.length ≤ chunkLimit)
    (partial? : Option Bytes) (rest : Bytes) :
    readFrom partial? (chunk piece ++ rest) = readFrom (some (partial?.getD [] ++ piece)) rest := by
  have grows : accept partial? piece = (none, some (partial?.getD [] ++ piece)) :=
    if_neg (by simpa using filled)
  rw [readFrom_of_nextChunk? (nextChunk?_chunk fits rest), grows]

theorem nextChunk?_terminator (rest : Bytes) :
    nextChunk? (terminator ++ rest) = some ([], rest) := rfl

theorem readMessage_keepAlive (rest : Bytes) :
    readMessage (terminator ++ rest) = readMessage rest :=
  readFrom_of_nextChunk? (nextChunk?_terminator rest) none

theorem readFrom_cuts {cuts : List Bytes}
    (sizes : ∀ cut ∈ cuts, cut ≠ [] ∧ cut.length ≤ chunkLimit) (front rest : Bytes) :
    readFrom (some front) (cuts.flatMap chunk ++ terminator ++ rest) =
      some (front ++ cuts.flatten, rest) := by
  induction cuts generalizing front with
  | nil =>
    have ends := readFrom_of_nextChunk? (nextChunk?_terminator rest) (some front)
    simpa [accept] using ends
  | cons cut cuts ih =>
    obtain ⟨filled, fits⟩ := sizes cut (List.mem_cons_self ..)
    have others := fun other member => sizes other (List.mem_cons_of_mem cut member)
    have later := ih others (front ++ cut)
    have first := readFrom_chunk filled fits (some front) (cuts.flatMap chunk ++ terminator ++ rest)
    simp only [List.flatMap_cons, List.flatten_cons, List.append_assoc] at first later ⊢
    rw [first]
    exact later

/-- A message is read whole, wherever it is cut. -/
theorem readMessage_message {cuts : List Bytes} (some : cuts ≠ [])
    (sizes : ∀ cut ∈ cuts, cut ≠ [] ∧ cut.length ≤ chunkLimit) (rest : Bytes) :
    readMessage (cuts.flatMap chunk ++ terminator ++ rest) = .some (cuts.flatten, rest) := by
  cases cuts with
  | nil => exact absurd rfl some
  | cons cut cuts =>
    obtain ⟨filled, fits⟩ := sizes cut (List.mem_cons_self ..)
    have first := readFrom_chunk filled fits none (cuts.flatMap chunk ++ terminator ++ rest)
    have others := fun other member => sizes other (List.mem_cons_of_mem cut member)
    have later := readFrom_cuts others cut rest
    simp only [List.flatMap_cons, List.flatten_cons, List.append_assoc, readMessage]
      at first later ⊢
    rw [first]
    exact later

theorem readAll_found {input message rest : Bytes}
    (found : readMessage input = some (message, rest)) :
    readAll input = message :: readAll rest := by
  rw [readAll]
  split
  · next missing => rw [missing] at found; cases found
  · next taken =>
    obtain ⟨rfl, rfl⟩ := Prod.mk.inj (Option.some.inj (taken.symm.trans found))
    rfl

theorem readAll_missing {input : Bytes} (missing : readMessage input = none) :
    readAll input = [] := by
  rw [readAll]
  split
  · rfl
  · next taken => rw [missing] at taken; cases taken

/-- Whatever the cuts and the keep-alives, what a stream carries is what is read off it. -/
theorem Carries.readAll_eq {payloads : List Bytes} {stream : Bytes}
    (carries : Carries payloads stream) : readAll stream = payloads := by
  induction carries with
  | nil => exact readAll_missing (by simp [readMessage, readFrom, nextChunk?, Bytes.split?])
  | @keepAlive payloads stream _ ih =>
    rw [← ih]
    cases found : readMessage stream with
    | none => rw [readAll_missing found, readAll_missing (readMessage_keepAlive stream ▸ found)]
    | some taken =>
      rw [readAll_found found, readAll_found (readMessage_keepAlive stream ▸ found)]
  | message some sizes _ ih => rw [readAll_found (readMessage_message some sizes _), ih]

theorem Reads.readAll_eq {stream rest : Bytes} {payloads : List Bytes}
    (reads : Reads stream payloads rest) : readAll stream = payloads ++ readAll rest := by
  induction reads with
  | nil => rfl
  | cons found _ ih => rw [readAll_found found, ih, List.cons_append]

theorem Reads.append {stream rest : Bytes} {payloads : List Bytes}
    (reads : Reads stream payloads rest) (more : Bytes) :
    Reads (stream ++ more) payloads (rest ++ more) := by
  induction reads with
  | nil => exact .nil _
  | cons found _ ih => exact .cons (readMessage_append found more) ih

theorem Reads.concat {stream behind payload rest : Bytes} {payloads : List Bytes}
    (reads : Reads stream payloads behind) (found : readMessage behind = some (payload, rest)) :
    Reads stream (payloads ++ [payload]) rest := by
  induction reads with
  | nil => exact .cons found (.nil rest)
  | cons first _ ih => exact .cons first (ih found)

/-! What is left of a stream carries the messages that have not been read. -/

theorem Carries.of_readMessage {stream payload rest : Bytes} {payloads : List Bytes}
    (carries : Carries payloads stream) (found : readMessage stream = some (payload, rest)) :
    ∃ others, payloads = payload :: others ∧ Carries others rest := by
  induction carries with
  | nil => simp [readMessage, readFrom, nextChunk?, Bytes.split?] at found
  | keepAlive _ ih => exact ih (readMessage_keepAlive _ ▸ found)
  | @message cuts payloads stream some sizes behind =>
    have first := readMessage_message some sizes stream
    obtain ⟨rfl, rfl⟩ := Prod.mk.inj (Option.some.inj (first.symm.trans found))
    exact ⟨payloads, rfl, behind⟩

theorem Carries.of_reads {stream rest : Bytes} {payloads taken : List Bytes}
    (carries : Carries payloads stream) (reads : Reads stream taken rest) :
    ∃ others, payloads = taken ++ others ∧ Carries others rest := by
  induction reads generalizing payloads with
  | nil => exact ⟨payloads, rfl, carries⟩
  | cons found _ ih =>
    obtain ⟨others, rfl, behind⟩ := carries.of_readMessage found
    obtain ⟨left, rfl, later⟩ := ih behind
    exact ⟨left, rfl, later⟩

/-- Keep-alives, one behind the other. -/
def keepAlives (count : Nat) : Bytes := (List.replicate count terminator).flatten

/-- A stream without messages is a stream of keep-alives. -/
theorem Carries.eq_keepAlives {stream : Bytes} (carries : Carries [] stream) :
    ∃ count, stream = keepAlives count := by
  generalize none : [] = payloads at carries
  induction carries with
  | nil => exact ⟨0, rfl⟩
  | keepAlive _ ih =>
    obtain ⟨count, rfl⟩ := ih none
    exact ⟨count + 1, rfl⟩
  | message => cases none

end Framing

namespace Handshake

theorem eq_append_of_readAnswer? {input rest : Bytes} {version : Version}
    (found : readAnswer? input = some (.ok (version, rest))) :
    ∃ answer, answer.length = 4 ∧ input = answer ++ rest := by
  obtain ⟨⟨answer, behind⟩, taken, accepted⟩ := Option.map_eq_some_iff.1 found
  obtain ⟨shape, width⟩ := Bytes.eq_append_of_split? taken
  change (ofAnswer answer).map (·, behind) = .ok (version, rest) at accepted
  cases read : ofAnswer answer with
  | error fault => rw [read] at accepted; cases accepted
  | ok version' =>
    rw [read] at accepted
    cases accepted
    exact ⟨answer, width, shape⟩

end Handshake
end BoltClient
