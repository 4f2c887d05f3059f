import BoltClient.Wire.Reader
import BoltClient.Proofs.Wire.Dechunking

/-!
A reader and a dechunker give the same messages. The reader starts afresh behind each
message and gives up where the stream ends; the dechunker keeps what it has and waits. A
message that is read off the front is what the dechunker has put together when nothing but
the two zero bytes at the end of it is missing, so both stand at the same place behind it, and
at the end neither has a whole message left.
-/

namespace BoltClient

namespace Framing

variable {partial? : Option Bytes} {input body message rest : Bytes}

/-- A chunk is taken whatever stands behind it. -/
theorem exists_chunk_of_nextChunk? (found : nextChunk? input = some (body, rest)) :
    ∃ taken, input = taken ++ rest ∧ ∀ more, nextChunk? (taken ++ more) = some (body, more) := by
  unfold nextChunk? at found
  split at found
  · cases found
  · next header behind split =>
    obtain ⟨rfl, -⟩ := Bytes.eq_append_of_split? split
    obtain ⟨rfl, announced⟩ := Bytes.eq_append_of_split? found
    refine ⟨header ++ body, (List.append_assoc ..).symm, fun more => ?_⟩
    have alone : nextChunk? (header ++ body) = some (body, []) := by
      have width := (Bytes.eq_append_of_split? split).2
      have front := Bytes.split?_append header body
      have back := Bytes.split?_append body []
      rw [width] at front
      rw [announced, List.append_nil] at back
      unfold nextChunk?
      rw [front]
      exact back
    exact nextChunk?_append alone more

/-- Only a chunk without bytes ends a message, and it is the two zero bytes. -/
theorem eq_terminator_of_nextChunk? (found : nextChunk? input = some ([], rest)) :
    input = terminator ++ rest := by
  unfold nextChunk? at found
  split at found
  · cases found
  · next header behind split =>
    obtain ⟨rfl, width⟩ := Bytes.eq_append_of_split? split
    obtain ⟨rfl, announced⟩ := Bytes.eq_append_of_split? found
    have zero := Bytes.ofNat_toNat header
    rw [width, ← announced] at zero
    rw [← zero]
    rfl

theorem accept_eq_some {next : Option Bytes}
    (accepted : accept partial? body = (some message, next)) :
    body = [] ∧ partial? = some message ∧ next = none := by
  unfold accept at accepted
  split at accepted
  · next empty =>
    cases accepted
    exact ⟨List.isEmpty_iff.1 empty, rfl, rfl⟩
  · cases accepted

end Framing

namespace Dechunker

open Framing

variable {cumulation : Option Bytes} {input message rest : Bytes}

/-- Where no message ends, none is given. -/
theorem consume_of_readFrom_none (missing : readFrom cumulation input = none) :
    (consume cumulation input).1 = [] := by
  fun_induction readFrom cumulation input with
  | case1 cumulation input nothing => rw [consume_missing nothing]
  | case2 => cases missing
  | case3 cumulation input body behind taken next goesOn ih =>
    rw [consume_found taken, goesOn]
    exact ih missing

/-- Before the two bytes that end it, a message has been put together and nothing is pending. -/
theorem front_of_readFrom (found : readFrom cumulation input = some (message, rest)) :
    ∃ front, input = front ++ terminator ++ rest ∧
      consume cumulation front = ([], ⟨some message, []⟩) := by
  fun_induction readFrom cumulation input with
  | case1 => cases found
  | case2 cumulation input body behind taken whole next ends =>
    cases found
    obtain ⟨rfl, rfl, -⟩ := accept_eq_some ends
    exact ⟨[], eq_terminator_of_nextChunk? taken, consume_missing rfl _⟩
  | case3 cumulation input body behind taken next goesOn ih =>
    obtain ⟨front, rfl, before⟩ := ih found
    obtain ⟨chunk, rfl, again⟩ := exists_chunk_of_nextChunk? taken
    refine ⟨chunk ++ front, by simp only [List.append_assoc], ?_⟩
    rw [consume_found (again front), goesOn, before]
    rfl

/-- The two bytes give the message, and what stands behind them is taken afresh. -/
theorem consume_behind {front : Bytes}
    (before : consume cumulation front = ([], ⟨some message, []⟩)) (more : Bytes) :
    consume cumulation (front ++ terminator ++ more) =
      (message :: (consume none more).1, (consume none more).2) := by
  rw [List.append_assoc, consume_append, before]
  exact consume_found (nextChunk?_terminator more) (some message)

end Dechunker

namespace Reader

open Framing

variable {reader : Reader} {dechunker : Dechunker} {bytes body message rest : Bytes} {count : Nat}

/-- Exactly so many bytes are there if the stream has as many at all. -/
theorem fill_eq_none_iff {pieces : List Bytes} :
    fill count pieces = none ↔ pieces.flatten.length < count := by
  fun_induction fill count pieces with
  | case1 => simp
  | case2 => simp
  | case3 count piece later enough =>
    simp only [List.flatten_cons, List.length_append, reduceCtorEq, false_iff]
    omega
  | case4 count piece later short ih =>
    simp only [Option.map_eq_none_iff, ih, List.flatten_cons, List.length_append]
    omega

theorem readExact_found (split : Bytes.split? count reader.unread = some (bytes, rest)) :
    ∃ behind, reader.readExact count = .ok (bytes, behind) ∧
      behind.unread = rest ∧ behind.ending = reader.ending := by
  obtain ⟨shape, width⟩ := Bytes.eq_append_of_split? split
  have long := congrArg List.length shape
  rw [List.length_append, width] at long
  cases filled : fill count reader.pieces with
  | none =>
    have short := fill_eq_none_iff.1 filled
    change reader.unread.length < count at short
    omega
  | some taken =>
    obtain ⟨front, left⟩ := taken
    obtain ⟨cut, length⟩ := eq_append_of_fill filled
    obtain ⟨rfl, rfl⟩ := List.append_inj (shape.symm.trans cut) (width.trans length.symm)
    exact ⟨{ reader with pieces := left }, by rw [readExact, filled], rfl, rfl⟩

theorem readExact_missing (short : Bytes.split? count reader.unread = none) :
    reader.readExact count = .error reader.ending := by
  have missing : fill count reader.pieces = none :=
    fill_eq_none_iff.2 (Bytes.split?_eq_none_iff.1 short)
  rw [readExact, missing]

/-- The chunk that is read is the one at the front of what is unread. -/
theorem readChunk_found (found : nextChunk? reader.unread = some (body, rest)) :
    ∃ behind, reader.readChunk = .ok (body, behind) ∧
      behind.unread = rest ∧ behind.ending = reader.ending := by
  unfold nextChunk? at found
  split at found
  · cases found
  · next header remaining front =>
    obtain ⟨middle, first, rfl, same⟩ := readExact_found front
    obtain ⟨behind, second, left, kept⟩ := readExact_found found
    refine ⟨behind, ?_, left, kept.trans same⟩
    rw [readChunk, first]
    exact second

theorem readChunk_missing (missing : nextChunk? reader.unread = none) :
    reader.readChunk = .error reader.ending := by
  unfold nextChunk? at missing
  split at missing
  · next short =>
    rw [readChunk, readExact_missing short]
    rfl
  · next header remaining front =>
    obtain ⟨middle, first, rfl, same⟩ := readExact_found front
    rw [readChunk, first, ← same]
    exact readExact_missing missing

theorem readInto_of_readChunk {behind : Reader} (taken : reader.readChunk = .ok (body, behind))
    (dechunker : Dechunker) :
    reader.readInto dechunker =
      match dechunker.push body with
      | (some message, _) => .ok (message, behind)
      | (none, dechunker) => behind.readInto dechunker := by
  rw [readInto]
  split
  · next broken => rw [broken] at taken; cases taken
  · next again =>
    obtain ⟨rfl, rfl⟩ := Prod.mk.inj (Except.ok.inj (again.symm.trans taken))
    rfl

theorem readInto_of_missing (missing : nextChunk? reader.unread = none) (dechunker : Dechunker) :
    reader.readInto dechunker = .error (.transport reader.ending) := by
  have broken := readChunk_missing missing
  rw [readInto]
  split
  · next again => rw [Except.error.inj (again.symm.trans broken)]
  · next taken => rw [taken] at broken; cases broken

/-- What is read into a dechunker is what is read off the front of the bytes, however they
are cut. -/
theorem readInto_found
    (found : readFrom dechunker.cumulation reader.unread = some (message, rest)) :
    ∃ behind, reader.readInto dechunker = .ok (message, behind) ∧
      behind.unread = rest ∧ behind.ending = reader.ending := by
  generalize front : reader.unread = input at found
  generalize sofar : dechunker.cumulation = partial? at found
  fun_induction readFrom partial? input generalizing reader dechunker with
  | case1 => cases found
  | case2 partial? input body left taken whole next ends =>
    subst front sofar
    cases found
    obtain ⟨behind, chunk, unread, kept⟩ := readChunk_found taken
    refine ⟨behind, ?_, unread, kept⟩
    rw [readInto_of_readChunk chunk, Dechunker.push, ends]
  | case3 partial? input body left taken next goesOn ih =>
    subst front sofar
    obtain ⟨behind, chunk, rfl, kept⟩ := readChunk_found taken
    obtain ⟨last, read, unread, same⟩ :=
      @ih behind { dechunker with cumulation := next } rfl rfl found
    refine ⟨last, ?_, unread, same.trans kept⟩
    rw [readInto_of_readChunk chunk, Dechunker.push, goesOn]
    exact read

theorem readInto_missing (missing : readFrom dechunker.cumulation reader.unread = none) :
    reader.readInto dechunker = .error (.transport reader.ending) := by
  generalize front : reader.unread = input at missing
  generalize sofar : dechunker.cumulation = partial? at missing
  fun_induction readFrom partial? input generalizing reader dechunker with
  | case1 partial? input nothing =>
    subst front
    exact readInto_of_missing nothing dechunker
  | case2 => cases missing
  | case3 partial? input body left taken next goesOn ih =>
    subst front sofar
    obtain ⟨behind, chunk, rfl, kept⟩ := readChunk_found taken
    rw [readInto_of_readChunk chunk, Dechunker.push, goesOn, ← kept]
    exact @ih behind { dechunker with cumulation := next } rfl rfl missing

/-- A message is read where the bytes begin with one, and nothing else is told from the cuts. -/
theorem readMessage_ok {behind : Reader} (found : reader.readMessage = .ok (message, behind)) :
    Framing.readMessage reader.unread = some (message, behind.unread) ∧
      behind.ending = reader.ending := by
  cases read : Framing.readMessage reader.unread with
  | none =>
    have nothing : reader.readInto .empty = _ := readInto_missing read
    rw [readMessage, nothing] at found
    cases found
  | some taken =>
    obtain ⟨first, rest⟩ := taken
    obtain ⟨last, same, rfl, kept⟩ := @readInto_found reader .empty _ _ read
    rw [readMessage, same] at found
    cases found
    exact ⟨rfl, kept⟩

theorem readMessage_error {fault : ProtocolFault} (broken : reader.readMessage = .error fault) :
    Framing.readMessage reader.unread = none ∧ fault = .transport reader.ending := by
  cases read : Framing.readMessage reader.unread with
  | none =>
    have nothing : reader.readInto .empty = _ := readInto_missing read
    rw [readMessage, nothing] at broken
    exact ⟨rfl, (Except.error.inj broken).symm⟩
  | some taken =>
    obtain ⟨first, rest⟩ := taken
    obtain ⟨last, same, -, -⟩ := @readInto_found reader .empty _ _ read
    rw [readMessage, same] at broken
    cases broken

/-- That a reader stands right behind a message: what it has read gives the messages before
that one, then holds it whole with nothing pending, and ends with its two zero bytes. -/
def StandsBehind (reader : Reader) (stream : Bytes) (earlier : List Bytes) (message : Bytes) :
    Prop :=
  ∃ front, stream = front ++ [0, 0] ++ reader.unread ∧
    Dechunker.empty.feed front = (earlier, ⟨some message, []⟩)

theorem StandsBehind.later {front stream : Bytes} {first : Bytes} {earlier : List Bytes}
    (before : Dechunker.empty.feed front = ([], ⟨some first, []⟩))
    (stands : reader.StandsBehind stream earlier message) :
    reader.StandsBehind (front ++ [0, 0] ++ stream) (first :: earlier) message := by
  obtain ⟨read, rfl, fed⟩ := stands
  refine ⟨front ++ [0, 0] ++ read, by simp only [List.append_assoc], ?_⟩
  have whole := Dechunker.consume_behind before read
  change Dechunker.consume none read = _ at fed
  rw [fed] at whole
  exact whole

/-- From any place between two messages on, a reader finds what a dechunker at rest is given,
stands behind each of the messages in turn, and stops at the end of the stream. -/
theorem readAll_eq_feed (reader : Reader) :
    reader.readAll.1.map Prod.fst = (Dechunker.empty.feed reader.unread).1 ∧
    reader.readAll.2 = .transport reader.ending ∧
    ∀ before message behind after, reader.readAll.1 = before ++ (message, behind) :: after →
      behind.StandsBehind reader.unread (before.map Prod.fst) message := by
  fun_induction readAll reader with
  | case1 reader fault broken =>
    obtain ⟨missing, rfl⟩ := readMessage_error broken
    have nothing := Dechunker.consume_of_readFrom_none missing
    refine ⟨nothing.symm, rfl, ?_⟩
    intro before message behind after none
    simp at none
  | case2 reader first next found others fault rest ih =>
    obtain ⟨read, kept⟩ := readMessage_ok found
    obtain ⟨front, shape, before⟩ := Dechunker.front_of_readFrom read
    obtain ⟨messages, stopped, places⟩ := ih
    rw [rest] at messages stopped places
    have given : (Dechunker.empty.feed reader.unread).1 =
        first :: (Dechunker.empty.feed next.unread).1 := by
      rw [shape]
      exact congrArg Prod.fst (Dechunker.consume_behind before next.unread)
    refine ⟨?_, stopped.trans (congrArg _ kept), ?_⟩
    · rw [given, List.map_cons, messages]
    · intro earlier message behind after split
      cases earlier with
      | nil =>
        cases split
        exact ⟨front, shape, before⟩
      | cons one earlier =>
        obtain ⟨rfl, later⟩ := List.cons.inj split
        have stands := places earlier message behind after later
        rw [shape]
        exact stands.later before

/-- However the bytes of a stream are cut, and wherever it ends, the messages that are read off
it one by one are those that a dechunker gives for all of them at once. After each message the
reader stands right behind the two zero bytes that end it, and the attempt behind the last one
finds the connection closed. -/
theorem reads_what_is_fed (pieces : List Bytes) :
    let (found, fault) := (Reader.closedBehind pieces).readAll
    found.map Prod.fst = (Dechunker.empty.feed pieces.flatten).1 ∧
    fault = .transport .earlyEnd ∧ fault.kind = .connectionClosed ∧
    ∀ before message behind after, found = before ++ (message, behind) :: after →
      behind.StandsBehind pieces.flatten (before.map Prod.fst) message := by
  obtain ⟨messages, stopped, places⟩ := readAll_eq_feed (Reader.closedBehind pieces)
  refine ⟨messages, stopped, ?_, places⟩
  rw [stopped]
  rfl

/-- Three bytes in three pieces behind a keep-alive, and a chunk that is cut off. -/
example : ((closedBehind [[0, 0, 0], [3, 1], [], [2, 3, 0, 0, 0, 2, 9]]).readAll.1.map Prod.fst) =
    [[1, 2, 3]] := by decide +kernel

end Reader
end BoltClient
