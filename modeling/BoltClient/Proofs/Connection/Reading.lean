import BoltClient.Proofs.Connection.Responses
import BoltClient.Proofs.Connection.Stride
import BoltClient.Proofs.Wire.Stream

/-!
What is read off the stream. Behind the answer to the handshake the messages are
taken one by one, in whatever pieces their bytes arrive, so those taken so far
are the first that the stream carries.
-/

namespace BoltClient.Connection

/-- That behind the answer to the handshake messages have been read off what has come,
and `rest` is left. -/
def HasRead (journal : Journal) (rest : Bytes) : Prop :=
  ∃ answer stream payloads, answer.length = 4 ∧ collect Notes.received journal = answer ++ stream ∧
    Framing.Reads stream payloads rest ∧
    payloads.map ServerMessage.ofPayload = (collect Notes.messages journal).map .ok

/-- How the bytes that came, the messages that were taken and the bytes that wait go together. -/
structure Streamed (journal : Journal) (connection : Connection) : Prop where
  opening : connection.phase.isOpening = true →
    collect Notes.received journal = connection.incoming ∧ collect Notes.messages journal = []
  running : connection.phase.isRunning = true → HasRead journal connection.incoming
  closed : connection.phase.isOver = true →
    collect Notes.messages journal = [] ∨ ∃ rest, HasRead journal rest

theorem HasRead.receive {journal : Journal} {rest : Bytes} (read : HasRead journal rest)
    (bytes : Bytes) : HasRead (journal ++ [{ received := bytes }]) (rest ++ bytes) := by
  obtain ⟨answer, stream, payloads, four, received, reads, sound⟩ := read
  refine ⟨answer, stream ++ bytes, payloads, four, ?_, reads.append bytes, ?_⟩
  · simp [received]
  · simpa using sound

/-- Notes of neither bytes nor messages change nothing. -/
theorem HasRead.quiet {journal : Journal} {rest : Bytes} (read : HasRead journal rest)
    {seen : Notes} (received : seen.received = []) (messages : seen.messages = []) :
    HasRead (journal ++ [seen]) rest := by
  obtain ⟨answer, stream, payloads, four, bytes, reads, sound⟩ := read
  exact ⟨answer, stream, payloads, four, by simpa [received], reads, by simpa [messages]⟩

theorem HasRead.take {journal : Journal} {incoming payload rest : Bytes} {message : ServerMessage}
    {seen : Notes} (read : HasRead journal incoming)
    (found : Framing.readMessage incoming = some (payload, rest))
    (understood : ServerMessage.ofPayload payload = .ok message)
    (received : seen.received = []) (messages : seen.messages = [message]) :
    HasRead (journal ++ [seen]) rest := by
  obtain ⟨answer, stream, payloads, four, bytes, reads, sound⟩ := read
  refine ⟨answer, stream, payloads ++ [payload], four, ?_, reads.concat found, ?_⟩
  · simpa [received] using bytes
  · simp [messages, sound, understood]

theorem Reached.streamed {versions : List Version} {journal : Journal} {connection : Connection}
    (reached : Reached versions journal connection) : Streamed journal connection := by
  refine Reached.keeps Streamed ?_ ?_ reached
  · constructor <;> simp [Connection.start]
  · intro journal connection after event seen reached before rule
    obtain ⟨opening, running, closed⟩ := before
    cases rule with
    | still | refuse | accept | hangUp =>
      exact ⟨by simpa, fun phase => (running phase).quiet rfl rfl,
        fun phase => (closed phase).imp (by simp) fun ⟨rest, read⟩ => ⟨rest, read.quiet rfl rfl⟩⟩
    | receive bytes =>
      refine ⟨fun phase => ?_, fun phase => (running phase).receive bytes, fun phase => ?_⟩
      · simpa using opening phase
      · exact (closed phase).imp (by simp) fun ⟨rest, read⟩ => ⟨_, read.receive bytes⟩
    | unopened _ phase | disagree phase =>
      have here := opening (by simp [phase])
      exact ⟨by simp, by simp, fun _ => .inl (by simpa using here.2)⟩
    | greet greeting phase =>
      have here := opening (by simp [phase])
      exact ⟨fun _ => by simpa using here, by simp, by simp⟩
    | agree version rest phase answer =>
      obtain ⟨received, messages⟩ := opening (by simp [phase])
      obtain ⟨reply, four, shape⟩ := Handshake.eq_append_of_readAnswer? answer
      refine ⟨by simp, fun _ => ⟨reply, rest, [], four, ?_, .nil rest, ?_⟩, by simp⟩
      · simpa [received] using shape
      · simp [messages]
    | glance phase =>
      exact ⟨by simp, fun _ => (running (by simp [phase])).quiet rfl rfl, by simp⟩
    | forbid watching next rest delivery phase | send watching next rest phase =>
      exact ⟨by simp, fun _ => (running (by simp [phase])).quiet rfl rfl, by simp⟩
    | desert phase | cut watching next rest count fault phase | lose ticket kind ending phase
    | spoil ticket kind payload rest fault phase =>
      have read := running (by simp [phase])
      exact ⟨by simp, by simp, fun _ => .inr ⟨_, read.quiet rfl rfl⟩⟩
    | record ticket kind payload rest fields phase found message =>
      have read := running (by simp [phase])
      exact ⟨by simp [phase], fun _ => read.take found message rfl rfl, by simp [phase]⟩
    | stray ticket kind payload rest summary phase found message =>
      have read := running (by simp [phase])
      exact ⟨by simp, by simp, fun _ => .inr ⟨rest, read.take found message rfl rfl⟩⟩
    | conclude ticket kind payload rest summary next phase found message =>
      have read := running (by simp [phase])
      cases terminal : next.isTerminal with
      | false => exact ⟨by simp, fun _ => read.take found message rfl rfl, by simp⟩
      | true => exact ⟨by simp, by simp, fun _ => .inr ⟨rest, read.take found message rfl rfl⟩⟩
    | drain phase =>
      have here := closed (by simp [phase])
      refine ⟨by simp, by simp, fun _ => ?_⟩
      exact here.imp (by simp) fun ⟨rest, read⟩ => ⟨rest, read.quiet rfl rfl⟩

section Stream

variable {journal : Journal} {answer stream rest later : Bytes} {payloads : List Bytes}

/-- What has been read are the first of the payloads, and the others are still to be read. -/
theorem HasRead.payloads_eq (read : HasRead journal rest) (four : answer.length = 4)
    (carries : Framing.Carries payloads stream)
    (arrived : collect Notes.received journal ++ later = answer ++ stream) :
    ∃ front, payloads = front ++ Framing.readAll (rest ++ later) ∧
      front.map ServerMessage.ofPayload = (collect Notes.messages journal).map .ok := by
  obtain ⟨reply, bytes, front, four', received, reads, sound⟩ := read
  rw [received, List.append_assoc] at arrived
  obtain ⟨-, same⟩ := List.append_inj arrived (four'.trans four.symm)
  refine ⟨front, ?_, sound⟩
  rw [← carries.readAll_eq, ← same]
  exact (reads.append later).readAll_eq

theorem Streamed.messages_prefix {connection : Connection} (streamed : Streamed journal connection)
    (four : answer.length = 4) (carries : Framing.Carries payloads stream)
    (arrived : collect Notes.received journal <+: answer ++ stream) :
    collect Notes.messages journal <+: ServerMessage.understood payloads := by
  obtain ⟨later, arrived⟩ := arrived
  have ofRead (rest : Bytes) (read : HasRead journal rest) :
      collect Notes.messages journal <+: ServerMessage.understood payloads := by
    obtain ⟨front, rfl, sound⟩ := read.payloads_eq four carries arrived
    rw [ServerMessage.understood_append sound]
    exact List.prefix_append ..
  cases phase : connection.phase with
  | connecting | negotiating => simp [(streamed.opening (by simp [phase])).2]
  | idle watching | serving ticket kind => exact ofRead _ (streamed.running (by simp [phase]))
  | closing | stopped =>
    rcases streamed.closed (by simp [phase]) with nothing | ⟨rest, read⟩
    · simp [nothing]
    · exact ofRead rest read

end Stream

end BoltClient.Connection
