import BoltClient.Proofs.Wire.Stream

/-!
Messages put together from bytes in pieces. A dechunker takes complete chunks off
what is pending and keeps the rest, so feeding it two pieces is feeding it both at
once, and no cut can be told from what it answers. The program walks a buffer by
position; `scan?` does so with each difference of lengths and each cut checked, and
finds what `consume` takes off the front.
-/

namespace BoltClient

namespace Framing

/-- Whether bytes begin with a header and all the bytes that it announces. -/
def BeginsWithChunk (input : Bytes) : Prop :=
  ∃ header body rest, header.length = 2 ∧ Bytes.toNat header = body.length ∧
    input = header ++ (body ++ rest)

/-- A chunk is found exactly where bytes begin with one. -/
theorem nextChunk?_eq_none_iff {input : Bytes} :
    nextChunk? input = none ↔ ¬ BeginsWithChunk input := by
  constructor
  · rintro missing ⟨header, body, rest, width, announced, rfl⟩
    have front := Bytes.split?_append header (body ++ rest)
    have behind := Bytes.split?_append body rest
    rw [width] at front
    rw [← announced] at behind
    simp [nextChunk?, front, behind] at missing
  · intro incomplete
    cases found : nextChunk? input with
    | none => rfl
    | some chunk =>
      obtain ⟨body, rest⟩ := chunk
      refine absurd ?_ incomplete
      unfold nextChunk? at found
      split at found
      · cases found
      · next header behind taken =>
        obtain ⟨whole, width⟩ := Bytes.eq_append_of_split? taken
        obtain ⟨rfl, announced⟩ := Bytes.eq_append_of_split? found
        exact ⟨header, body, rest, width, announced.symm, whole⟩

/-- A message is never ended before something has been put together. -/
theorem accept_filled {partial? : Option Bytes} (filled : partial? ≠ some []) (body : Bytes) :
    (accept partial? body).1 ≠ some [] ∧ (accept partial? body).2 ≠ some [] := by
  by_cases empty : body.isEmpty = true
  · rw [accept, if_pos empty]
    exact ⟨filled, (Option.some_ne_none []).symm⟩
  · rw [accept, if_neg empty]
    refine ⟨(Option.some_ne_none []).symm, fun same => empty ?_⟩
    have nothing := (List.append_eq_nil_iff.1 (Option.some.inj same)).2
    rw [nothing]
    rfl

end Framing

namespace Dechunker

open Framing

variable {cumulation : Option Bytes} {input body rest : Bytes}

theorem consume_found (found : nextChunk? input = some (body, rest)) (cumulation : Option Bytes) :
    consume cumulation input =
      ((accept cumulation body).1.toList ++ (consume (accept cumulation body).2 rest).1,
        (consume (accept cumulation body).2 rest).2) := by
  rw [consume]
  split
  · next missing => rw [missing] at found; cases found
  · next taken =>
    obtain ⟨rfl, rfl⟩ := Prod.mk.inj (Option.some.inj (taken.symm.trans found))
    rfl

theorem consume_missing (missing : nextChunk? input = none) (cumulation : Option Bytes) :
    consume cumulation input = ([], ⟨cumulation, input⟩) := by
  rw [consume]
  split
  · rfl
  · next taken => rw [missing] at taken; cases taken

/-- What is left of the first bytes goes before the others. -/
theorem consume_append (cumulation : Option Bytes) (first second : Bytes) :
    consume cumulation (first ++ second) =
      ((consume cumulation first).1 ++ ((consume cumulation first).2.feed second).1,
        ((consume cumulation first).2.feed second).2) := by
  fun_induction consume cumulation first with
  | case1 cumulation input missing => rfl
  | case2 cumulation input body rest found message? next accepted messages left consumed ih =>
    -- A chunk that is complete is the first one whatever comes behind it.
    rw [consumed] at ih
    rw [consume_found (nextChunk?_append found second), accepted, ih, List.append_assoc]

theorem feed_append (dechunker : Dechunker) (first second : Bytes) :
    dechunker.feed (first ++ second) =
      ((dechunker.feed first).1 ++ ((dechunker.feed first).2.feed second).1,
        ((dechunker.feed first).2.feed second).2) := by
  rw [feed, ← List.append_assoc]
  exact consume_append dechunker.cumulation (dechunker.pending ++ first) second

/-- No complete chunk waits, and nothing empty has been put together. -/
structure Settled (dechunker : Dechunker) : Prop where
  incomplete : ¬ BeginsWithChunk dechunker.pending
  filled : dechunker.cumulation ≠ some []

theorem settled_empty : Settled empty := by
  constructor
  · exact nextChunk?_eq_none_iff.1 rfl
  · nofun

/-- Taking chunks off settles a dechunker and gives no empty message. -/
theorem consume_settled (filled : cumulation ≠ some []) (input : Bytes) :
    (consume cumulation input).2.Settled ∧
      ∀ message ∈ (consume cumulation input).1, message ≠ [] := by
  fun_induction consume cumulation input with
  | case1 cumulation input missing => exact ⟨⟨nextChunk?_eq_none_iff.1 missing, filled⟩, nofun⟩
  | case2 cumulation input body rest found message? next accepted messages left consumed ih =>
    obtain ⟨ended, goesOn⟩ := accept_filled filled body
    rw [accepted] at ended goesOn
    have later := ih goesOn
    rw [consumed] at later
    refine ⟨later.1, fun message member => ?_⟩
    rcases List.mem_append.1 member with here | there
    · rw [Option.mem_toList] at here
      intro empty
      exact ended (here.trans (congrArg some empty))
    · exact later.2 message there

/-- Feeds pieces one after the other. -/
def feedAll (dechunker : Dechunker) : List Bytes → List Bytes × Dechunker
  | [] => ([], dechunker)
  | piece :: later =>
    let (messages, dechunker) := dechunker.feed piece
    let (others, dechunker) := dechunker.feedAll later
    (messages ++ others, dechunker)

theorem feedAll_settled {dechunker : Dechunker} (settled : dechunker.Settled)
    (pieces : List Bytes) : (dechunker.feedAll pieces).2.Settled := by
  induction pieces generalizing dechunker with
  | nil => exact settled
  | cons piece later ih => exact ih (consume_settled settled.filled _).1

theorem feed_nil {dechunker : Dechunker} (settled : dechunker.Settled) :
    dechunker.feed [] = ([], dechunker) := by
  rw [feed, List.append_nil]
  exact consume_missing (nextChunk?_eq_none_iff.2 settled.incomplete) dechunker.cumulation

theorem feedAll_eq_feed {dechunker : Dechunker} (settled : dechunker.Settled)
    (pieces : List Bytes) : dechunker.feedAll pieces = dechunker.feed pieces.flatten := by
  induction pieces generalizing dechunker with
  | nil => exact (feed_nil settled).symm
  | cons piece later ih =>
    have next : (dechunker.feed piece).2.Settled := (consume_settled settled.filled _).1
    rw [List.flatten_cons, feed_append, ← ih next]
    rfl

/-! Walking a buffer by position. -/

/-- The difference of two lengths, unless it would be negative. -/
def difference? (whole part : Nat) : Option Nat :=
  if part ≤ whole then some (whole - part) else none

/-- The bytes of a buffer from one position to another, if both are in it and in order. -/
def slice? (buffer : Bytes) (start stop : Nat) : Option Bytes :=
  if start ≤ stop ∧ stop ≤ buffer.length then some ((buffer.take stop).drop start) else none

/-- The chunk at a position and the position behind it, when all of it is there. The outer
`none` says that a difference is negative or a cut lies outside of the buffer. -/
def chunkAt? (buffer : Bytes) (offset : Nat) : Option (Option (Bytes × Nat)) := do
  let left ← difference? buffer.length offset
  if left < 2 then
    return none
  let header ← slice? buffer offset (offset + 2)
  let behind ← difference? left 2
  if behind < Bytes.toNat header then
    return none
  let body ← slice? buffer (offset + 2) (offset + 2 + Bytes.toNat header)
  return some (body, offset + 2 + Bytes.toNat header)

theorem slice?_front {buffer front rest : Bytes} {start : Nat} (within : start ≤ buffer.length)
    (shape : buffer.drop start = front ++ rest) :
    slice? buffer start (start + front.length) = some front := by
  have lengths := congrArg List.length shape
  rw [List.length_drop, List.length_append] at lengths
  have inside : start ≤ start + front.length ∧ start + front.length ≤ buffer.length := by omega
  rw [slice?, if_pos inside, List.drop_take, shape, Nat.add_sub_cancel_left, List.take_left]

/-- What is found at a position of a buffer is what stands in front of the bytes from there on. -/
theorem chunkAt?_of_within {buffer : Bytes} {offset : Nat} (within : offset ≤ buffer.length) :
    nextChunk? (buffer.drop offset) = none ∧ chunkAt? buffer offset = some none ∨
    ∃ body next, offset < next ∧ next ≤ buffer.length ∧
      nextChunk? (buffer.drop offset) = some (body, buffer.drop next) ∧
      chunkAt? buffer offset = some (some (body, next)) := by
  -- Both look for two bytes, and then for as many as these announce.
  have left : difference? buffer.length offset = some (buffer.length - offset) := if_pos within
  have remaining := List.length_drop (i := offset) (l := buffer)
  cases taken : Bytes.split? 2 (buffer.drop offset) with
  | none =>
    have short := Bytes.split?_eq_none_iff.1 taken
    rw [remaining] at short
    exact .inl ⟨by simp [nextChunk?, taken], by
      simp only [chunkAt?, left, Option.bind_eq_bind, Option.bind_some, if_pos short, pure]⟩
  | some halves =>
    obtain ⟨header, behind⟩ := halves
    obtain ⟨shape, width⟩ := Bytes.eq_append_of_split? taken
    have lengths := congrArg List.length shape
    rw [remaining, List.length_append, width] at lengths
    have enough : ¬ buffer.length - offset < 2 := by omega
    have announced : slice? buffer offset (offset + 2) = some header :=
      width ▸ slice?_front within shape
    have size : difference? (buffer.length - offset) 2 = some behind.length := by
      rw [difference?, if_pos (Nat.not_lt.1 enough), lengths, Nat.add_sub_cancel_left]
    cases found : Bytes.split? (Bytes.toNat header) behind with
    | none =>
      have short := Bytes.split?_eq_none_iff.1 found
      exact .inl ⟨by simp [nextChunk?, taken, found],
        by
        simp only [chunkAt?, left, announced, size, Option.bind_eq_bind, Option.bind_some,
          if_neg enough, if_pos short, pure]⟩
    | some parts =>
      obtain ⟨body, rest⟩ := parts
      obtain ⟨rfl, filled⟩ := Bytes.eq_append_of_split? found
      rw [List.length_append] at lengths size
      have behindHeader : buffer.drop (offset + 2) = body ++ rest := by
        rw [← List.drop_drop, shape, ← width, List.drop_left]
      have cut : slice? buffer (offset + 2) (offset + 2 + Bytes.toNat header) = some body := by
        rw [← filled]
        exact slice?_front (by omega) behindHeader
      have whole : ¬ body.length + rest.length < Bytes.toNat header := by omega
      have behindChunk : buffer.drop (offset + 2 + Bytes.toNat header) = rest := by
        rw [← List.drop_drop, behindHeader, ← filled, List.drop_left]
      refine .inr ⟨body, offset + 2 + Bytes.toNat header, by omega, by omega, ?_, ?_⟩
      · simp [nextChunk?, taken, found, behindChunk]
      · simp only [chunkAt?, left, announced, size, cut, Option.bind_eq_bind, Option.bind_some,
          if_neg enough, if_neg whole, pure]

theorem chunkAt?_advances {buffer body : Bytes} {offset next : Nat}
    (found : chunkAt? buffer offset = some (some (body, next))) :
    offset < next ∧ next ≤ buffer.length := by
  by_cases within : offset ≤ buffer.length
  · rcases chunkAt?_of_within within with ⟨-, missing⟩ | ⟨_, _, forward, inside, -, same⟩
    · rw [missing] at found
      cases found
    · rw [same] at found
      cases found
      exact ⟨forward, inside⟩
  · have negative : difference? buffer.length offset = none := if_neg within
    simp [chunkAt?, negative] at found

/-- Takes chunks off a buffer from a position on. Answers the messages, what has been put
together of the next one, and the position behind the last chunk. -/
def scan? (cumulation : Option Bytes) (buffer : Bytes) (offset : Nat) :
    Option (List Bytes × Option Bytes × Nat) :=
  match _ : chunkAt? buffer offset with
  | none => none
  | some none => some ([], cumulation, offset)
  | some (some (body, next)) =>
    let (message?, cumulation) := accept cumulation body
    (scan? cumulation buffer next).map fun (messages, cumulation, last) =>
      (message?.toList ++ messages, cumulation, last)
termination_by buffer.length - offset
decreasing_by
  have := chunkAt?_advances ‹_›
  omega

/-- Takes bytes as they arrive, by position. -/
def feedByPosition? (dechunker : Dechunker) (bytes : Bytes) : Option (List Bytes × Dechunker) := do
  let buffer := dechunker.pending ++ bytes
  let (messages, cumulation, last) ← scan? dechunker.cumulation buffer 0
  let pending ← slice? buffer last buffer.length
  return (messages, ⟨cumulation, pending⟩)

/-- From a position in the buffer on no check fails, and what is taken is what is taken off the
front of the rest. -/
theorem scan?_eq {buffer : Bytes} {offset : Nat} (within : offset ≤ buffer.length)
    (cumulation : Option Bytes) :
    ∃ last, last ≤ buffer.length ∧
      (consume cumulation (buffer.drop offset)).2.pending = buffer.drop last ∧
      scan? cumulation buffer offset =
        some ((consume cumulation (buffer.drop offset)).1,
          (consume cumulation (buffer.drop offset)).2.cumulation, last) := by
  fun_induction scan? cumulation buffer offset with
  | case1 cumulation offset faulty =>
    rcases chunkAt?_of_within within with ⟨-, sound⟩ | ⟨_, _, _, _, -, sound⟩
    · rw [sound] at faulty
      cases faulty
    · rw [sound] at faulty
      cases faulty
  | case2 cumulation offset missing =>
    rcases chunkAt?_of_within within with ⟨nothing, -⟩ | ⟨_, _, _, _, -, same⟩
    · rw [consume_missing nothing]
      exact ⟨offset, within, rfl, rfl⟩
    · rw [same] at missing
      cases missing
  | case3 cumulation offset body next found message? partial? accepted ih =>
    rcases chunkAt?_of_within within with ⟨-, same⟩ | ⟨_, _, _, inside, front, same⟩
    · rw [same] at found
      cases found
    · rw [same] at found
      cases found
      obtain ⟨last, bound, pending, later⟩ := ih inside
      rw [consume_found front, accepted, later]
      exact ⟨last, bound, pending, rfl⟩

/-- Every check of the walk holds, and it does what feeding does. -/
theorem feedByPosition?_eq (dechunker : Dechunker) (bytes : Bytes) :
    dechunker.feedByPosition? bytes = some (dechunker.feed bytes) := by
  obtain ⟨last, within, pending, same⟩ :=
    scan?_eq (Nat.zero_le (dechunker.pending ++ bytes).length) dechunker.cumulation
  rw [List.drop_zero] at pending same
  have behind : slice? (dechunker.pending ++ bytes) last (dechunker.pending ++ bytes).length =
      some (dechunker.feed bytes).2.pending := by
    rw [slice?, if_pos ⟨within, Nat.le_refl _⟩, List.take_length]
    exact congrArg some pending.symm
  simp only [feedByPosition?, same, Option.bind_eq_bind, Option.bind_some, behind]
  rfl

/-- Whatever has been fed before, bytes in pieces give the messages that they give at once and
leave the same behind. Between two feeds no complete chunk is pending and nothing empty has been
put together, so no message is empty; and no step of the walk over the buffer leaves it. -/
theorem feed_pieces (earlier pieces : List Bytes) :
    let dechunker := (empty.feedAll earlier).2
    dechunker.feedAll pieces = dechunker.feed pieces.flatten ∧
    ∀ bytes,
      ¬ BeginsWithChunk (dechunker.feed bytes).2.pending ∧
      (dechunker.feed bytes).2.cumulation ≠ some [] ∧
      (∀ message ∈ (dechunker.feed bytes).1, message ≠ []) ∧
      dechunker.feedByPosition? bytes = some (dechunker.feed bytes) := by
  intro dechunker
  have settled : dechunker.Settled := feedAll_settled settled_empty earlier
  refine ⟨feedAll_eq_feed settled pieces, fun bytes => ?_⟩
  obtain ⟨after, messages⟩ :=
    consume_settled settled.filled (dechunker.pending ++ bytes)
  exact ⟨after.incomplete, after.filled, messages, dechunker.feedByPosition?_eq bytes⟩

end Dechunker
end BoltClient
