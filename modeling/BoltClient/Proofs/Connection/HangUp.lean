import BoltClient.Proofs.Connection.Progress
import BoltClient.Proofs.Connection.Reading
import BoltClient.Proofs.Connection.Tracking

/-!
What a connection notices of a peer that leaves while nothing is asked. As long as it
has read all that came it watches the stream, and ends with it. Bytes that nobody asked
for, be it a keep-alive, stay unread and end the watch; from then on the peer can leave
and nothing is noticed until the next request.
-/

namespace BoltClient.Connection

/-- A connection gives up its watch only over bytes that it leaves unread. -/
theorem unread_of_glance {connection : Connection} (phase : connection.phase = .idle true)
    (glanced : (connection.step .poll).1.phase = .idle false) : connection.incoming ≠ [] := by
  intro quiet
  have watches : connection.step .poll = connection.watch := by simp only [step, phase]
  rw [watches, watch, quiet] at glanced
  cases ended : connection.ending with
  | none => simp [ended, phase] at glanced
  | some ending => simp [ended] at glanced

/-- Whoever does not watch the stream has bytes of it before him. -/
theorem Reached.unread {versions : List Version} {journal : Journal} {connection : Connection}
    (reached : Reached versions journal connection) :
    connection.phase = .idle false → connection.incoming ≠ [] := by
  induction reached with
  | start => exact nofun
  | @step journal connection _ event ih =>
    intro unwatched
    have rule := step_stride connection event
    generalize connection.notes event = seen at rule
    generalize next : (connection.step event).1 = after at rule unwatched
    cases rule with
    | still | refuse | accept | hangUp => exact ih unwatched
    | receive bytes => exact List.append_ne_nil_of_left_ne_nil (ih unwatched) bytes
    | glance phase =>
      apply unread_of_glance phase
      rw [next]
    | record ticket kind payload rest fields phase =>
      cases phase.symm.trans unwatched
    | conclude => split at unwatched <;> cases unwatched
    | _ => cases unwatched

/-- A connection that ought to look after its peer, and has unread bytes before it. -/
structure Blind (connection : Connection) : Prop where
  idle : ∃ watching, connection.phase = .idle watching
  nothing : connection.queue = []
  unread : connection.incoming ≠ []

theorem Blind.step {connection : Connection} (blind : Blind connection) {event : Event}
    (unasked : ∀ ticket request, event ≠ .submit ticket request) :
    Blind (connection.step event).1 ∧ (connection.step event).1.status = connection.status := by
  obtain ⟨⟨watching, phase⟩, nothing, unread⟩ := id blind
  have rests (still : connection.step event = (connection, [])) :
      Blind (connection.step event).1 ∧ (connection.step event).1.status = connection.status := by
    rw [still]
    exact ⟨blind, rfl⟩
  cases event with
  | submit ticket request => exact absurd rfl (unasked ticket request)
  | opened | unreachable | take | drain => exact rests (by simp [Connection.step, phase, nothing])
  | hangUp ending => exact ⟨⟨⟨watching, phase⟩, nothing, unread⟩, rfl⟩
  | receive bytes =>
    cases ended : connection.ending with
    | some ending => exact rests (by simp [Connection.step, ended])
    | none =>
      have more : connection.incoming ++ bytes ≠ [] :=
        List.append_ne_nil_of_left_ne_nil unread bytes
      simp only [Connection.step, ended]
      exact ⟨⟨⟨watching, phase⟩, nothing, more⟩, rfl⟩
  | poll =>
    cases watching with
    | false => exact rests (by simp only [Connection.step, phase])
    | true =>
      have some : connection.incoming.isEmpty = false := by simpa using unread
      simp only [Connection.step, phase, watch, some]
      exact ⟨⟨⟨false, rfl⟩, nothing, unread⟩, rfl⟩

/-- Without a request nothing changes for it, whatever becomes of the peer. -/
theorem Blind.run {connection : Connection} (blind : Blind connection) {more : List Event}
    (unasked : ∀ event ∈ more, ∀ ticket request, event ≠ .submit ticket request) :
    Blind (connection.run more).1 ∧ (connection.run more).1.status = connection.status := by
  induction more generalizing connection with
  | nil => exact ⟨blind, rfl⟩
  | cons event rest ih =>
    obtain ⟨first, others⟩ := List.forall_mem_cons.1 unasked
    obtain ⟨still, same⟩ := blind.step first
    obtain ⟨later, kept⟩ := ih still others
    exact ⟨later, kept.trans same⟩

/-- A connection at rest whose peer has left has ended, or it has given up its watch. -/
theorem Reached.ended_or_unwatched {versions : List Version} {journal : Journal}
    {connection : Connection} (reached : Reached versions journal connection)
    (ended : connection.ending.isSome = true) (past : connection.phase.isOpening = false)
    {delivery : Delivery} (rests : connection.nextEvent? delivery = none) :
    connection.state = .defunct ∨ connection.phase = .idle false := by
  unfold nextEvent? at rests
  cases phase : connection.phase with
  | connecting | negotiating => simp [phase] at past
  | serving ticket kind => simp [phase, ended] at rests
  | closing => simp [phase] at rests
  | stopped => exact .inl (reached.tracked.closed (by simp [phase])).1
  | idle watching =>
    cases watching with
    | true =>
      simp only [phase, ended] at rests
      split at rests <;> simp at rests
    | false => exact .inr rfl

/-- What is left unread when every message has been taken is keep-alives. -/
theorem HasRead.keepAlives {journal : Journal} {answer stream rest : Bytes} {payloads : List Bytes}
    (read : HasRead journal rest) (four : answer.length = 4)
    (arrived : collect Notes.received journal = answer ++ stream)
    (carries : Framing.Carries payloads stream)
    (all : (collect Notes.messages journal).length = payloads.length) :
    ∃ count, rest = Framing.keepAlives count := by
  obtain ⟨reply, bytes, taken, width, received, reads, sound⟩ := read
  obtain ⟨-, rfl⟩ := List.append_inj (received.symm.trans arrived) (width.trans four.symm)
  obtain ⟨others, rfl, left⟩ := carries.of_reads reads
  have count := congrArg List.length sound
  rw [List.length_map, List.length_map, all, List.length_append] at count
  have none : others = [] := List.length_eq_zero_iff.1 (by omega)
  rw [none] at left
  exact left.eq_keepAlives

/-- In every run, when the peer has left and the connection has nothing more to do by itself, it is
defunct, unless it left bytes unread that nobody asked for; if every message that the server sent
has been taken as a response, those are keep-alives. And whenever an idle connection has unread
bytes, its peer can leave, and it is not closed before the next request. -/
theorem notices_hang_up_unless_unread (versions : List Version) (events : List Event) :
    let connection := ((start versions).run events).1
    let journal := (start versions).journal events
    (connection.ending.isSome = true → connection.phase.isOpening = false →
      (∀ delivery, connection.nextEvent? delivery = none) →
        connection.state = .defunct ∧ connection.isClosed = true ∨
        connection.phase = .idle false ∧ connection.incoming ≠ [] ∧
          ∀ answer stream payloads, answer.length = 4 →
            collect Notes.received journal = answer ++ stream → Framing.Carries payloads stream →
              (collect Notes.messages journal).length = payloads.length →
                ∃ count, 0 < count ∧ connection.incoming = Framing.keepAlives count) ∧
    (∀ watching, connection.phase = .idle watching → connection.queue = [] →
      connection.incoming ≠ [] →
        ∀ more, (∀ event ∈ more, ∀ ticket request, event ≠ .submit ticket request) →
          (connection.run more).1.status = connection.status ∧
          (connection.run more).1.isClosed = false) := by
  intro connection journal
  have reached : Reached versions journal connection := reached_run versions events
  constructor
  · intro ended past rests
    rcases reached.ended_or_unwatched ended past (rests .whole) with defunct | unwatched
    · left
      refine ⟨defunct, ?_⟩
      rw [isClosed, defunct]
      rfl
    · right
      have unread := reached.unread unwatched
      refine ⟨unwatched, unread, ?_⟩
      intro answer stream payloads four arrived carries all
      have read := reached.streamed.running (by simp [unwatched])
      obtain ⟨count, same⟩ := read.keepAlives four arrived carries all
      refine ⟨count, Nat.pos_of_ne_zero ?_, same⟩
      rintro rfl
      exact unread same
  · intro watching phase nothing unread more unasked
    have blind : Blind connection := ⟨⟨watching, phase⟩, nothing, unread⟩
    obtain ⟨⟨⟨later, idle⟩, -, -⟩, same⟩ := blind.run unasked
    refine ⟨same, ?_⟩
    have alive : connection.state.isTerminal = false :=
      (reached.tracked.running (by simp [phase])).2.2.2
    rw [isClosed, state, same, idle]
    simpa using alive

/-- A keep-alive behind the handshake, and then the peer leaves. -/
theorem hang_up_unnoticed :
    let events : List Event := [.opened .whole, .receive [0, 0, 4, 5], .poll, .receive [0, 0],
      .poll, .hangUp .closed]
    let connection := ((start [.current]).run events).1
    connection.ending = some .closed ∧ connection.queue = [] ∧
      (∀ delivery, connection.nextEvent? delivery = none) ∧
      connection.status = ⟨.negotiation, some .current⟩ ∧ connection.isClosed = false := by
  intro events connection
  have rests : connection.nextEvent? .whole = none := by decide +kernel
  exact ⟨by decide +kernel, by decide +kernel, fun delivery => nextEvent?_none rests delivery,
    by decide +kernel, by decide +kernel⟩

end BoltClient.Connection
