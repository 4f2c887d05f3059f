import BoltClient.Proofs.Connection.Order
import BoltClient.Proofs.Connection.Service

/-!
What a connection writes. Behind the handshake stand the requests that were
allowed when their turn came, in the order of their submission, and nothing
else. Only the last of them can be cut, and none is written before the summary
of the one before it.
-/

namespace BoltClient

namespace ServerMessage

private theorem kind_of_mapError {α : Type} {result : Except CodecFault α} {fault : ProtocolFault}
    (broken : result.mapError .codec = .error fault) : fault.kind ≠ .forbidden := by
  cases result with
  | ok value => cases broken
  | error cause =>
    cases broken
    simp [ProtocolFault.kind]

/-- Only the connection itself forbids a request. -/
theorem kind_ne_forbidden {payload : Bytes} {fault : ProtocolFault}
    (broken : ofPayload payload = .error fault) : fault.kind ≠ .forbidden := by
  unfold ofPayload at broken
  split at broken
  · cases broken
    simp [ProtocolFault.kind]
  · unfold ofValue at broken
    split at broken
    · unfold ofStructure at broken
      repeat' split at broken
      all_goals first
        | exact kind_of_mapError broken
        | (cases broken; simp [ProtocolFault.kind])
    · cases broken
      simp [ProtocolFault.kind]

end ServerMessage

namespace Connection

/-- What is put into the queue for a request. -/
def packed? (submission : Nat × Request) : Option Queued :=
  match submission.2.encode with
  | .ok payload => some ⟨submission.1, submission.2.kind, payload⟩
  | .error _ => none

/-- What has been written. -/
structure Logged (versions : List Version) (journal : Journal) (connection : Connection) :
    Prop where
  offered : connection.versions = versions
  fresh : connection.phase = .connecting → collect Notes.sent journal = []
  greeted : connection.phase = .negotiating →
    Handshake.request versions = .ok (collect Notes.sent journal)
  running : connection.phase.isRunning = true → ∃ greeting,
    Handshake.request versions = .ok greeting ∧
      collect Notes.sent journal = greeting ++ (log journal).flatMap Turn.bytes
  closed : connection.phase.isOver = true → ∃ greeting,
    collect Notes.sent journal = greeting ++ (log journal).flatMap Turn.bytes ∧
      (Handshake.request versions = .ok greeting ∨ log journal = [] ∧
        (greeting = [] ∨ ∃ whole, Handshake.request versions = .ok whole ∧ greeting <+: whole))

theorem Reached.logged {versions : List Version} {journal : Journal} {connection : Connection}
    (reached : Reached versions journal connection) : Logged versions journal connection := by
  refine Reached.keeps (Logged versions) ?_ ?_ reached
  · constructor <;> simp [Connection.start]
  · intro journal connection after event seen reached before rule
    obtain ⟨offered, fresh, greeted, running, closed⟩ := before
    cases rule with
    | still | refuse | accept | receive | hangUp =>
      exact ⟨offered, by simpa, by simpa, by simpa, by simpa⟩
    | unopened _ phase sent part =>
      have quiet := reached.served.opening (by simp [phase])
      refine ⟨offered, by simp, by simp, by simp, fun _ => ⟨sent, ?_, .inr ⟨by simpa, ?_⟩⟩⟩
      · simp [fresh phase, quiet]
      · rcases part with nothing | ⟨greeting, count, request, rfl⟩
        · exact .inl nothing
        · exact .inr ⟨greeting, offered ▸ request, List.take_prefix ..⟩
    | greet greeting phase request =>
      refine ⟨offered, by simp, fun _ => ?_, by simp, by simp⟩
      simpa [fresh phase] using offered ▸ request
    | disagree phase =>
      have quiet := reached.served.opening (by simp [phase])
      exact ⟨offered, by simp, by simp, by simp,
        fun _ => ⟨collect Notes.sent journal, by simp [quiet], .inl (greeted phase)⟩⟩
    | agree version rest phase =>
      have quiet := reached.served.opening (by simp [phase])
      exact ⟨offered, by simp, by simp,
        fun _ => ⟨collect Notes.sent journal, greeted phase, by simp [quiet]⟩, by simp⟩
    | glance phase =>
      obtain ⟨greeting, request, bytes⟩ := running (by simp [phase])
      exact ⟨offered, by simp, by simp, fun _ => ⟨greeting, request, by simpa⟩, by simp⟩
    | desert phase | lose ticket kind ending phase | spoil ticket kind payload rest fault phase
    | stray ticket kind payload rest summary phase =>
      obtain ⟨greeting, request, bytes⟩ := running (by simp [phase])
      exact ⟨offered, by simp, by simp, by simp, fun _ => ⟨greeting, by simpa, .inl request⟩⟩
    | forbid watching next rest delivery phase queue barred =>
      obtain ⟨greeting, request, bytes⟩ := running (by simp [phase])
      exact ⟨offered, by simp, by simp,
        fun _ => ⟨greeting, request, by simpa [Turn.isAllowed, barred]⟩, by simp⟩
    | send watching next rest phase queue allowed =>
      obtain ⟨greeting, request, bytes⟩ := running (by simp [phase])
      refine ⟨offered, by simp, by simp, fun _ => ⟨greeting, request, ?_⟩, by simp⟩
      simp [bytes, Turn.isAllowed, allowed, Turn.bytes, Delivery.reached]
    | cut watching next rest count fault phase queue allowed =>
      obtain ⟨greeting, request, bytes⟩ := running (by simp [phase])
      refine ⟨offered, by simp, by simp, by simp, fun _ => ⟨greeting, ?_, .inl request⟩⟩
      simp [bytes, Turn.isAllowed, allowed, Turn.bytes, Delivery.reached]
    | record ticket kind payload rest fields phase =>
      obtain ⟨greeting, request, bytes⟩ := running (by simp [phase])
      exact ⟨offered, by simp [phase], by simp [phase],
        fun _ => ⟨greeting, request, by simpa⟩, by simp [phase]⟩
    | conclude ticket kind payload rest summary next phase =>
      obtain ⟨greeting, request, bytes⟩ := running (by simp [phase])
      cases terminal : next.isTerminal with
      | false =>
        exact ⟨offered, by simp, by simp, fun _ => ⟨greeting, request, by simpa⟩, by simp⟩
      | true =>
        exact ⟨offered, by simp, by simp, by simp, fun _ => ⟨greeting, by simpa, .inl request⟩⟩
    | drain phase =>
      obtain ⟨greeting, bytes, shape⟩ := closed (by simp [phase])
      exact ⟨offered, by simp, by simp, by simp, fun _ => ⟨greeting, by simpa, by simpa⟩⟩

/-- What stands before the log is the handshake, or a part of it when there is no log. -/
theorem Logged.greeting {versions : List Version} {journal : Journal} {connection : Connection}
    (logged : Logged versions journal connection) (served : Served journal connection) :
    ∃ greeting, collect Notes.sent journal = greeting ++ (log journal).flatMap Turn.bytes ∧
      (Handshake.request versions = .ok greeting ∨ log journal = [] ∧ (greeting = [] ∨
        ∃ whole, Handshake.request versions = .ok whole ∧ greeting <+: whole)) := by
  cases phase : connection.phase with
  | connecting =>
    have quiet := served.opening (by simp [phase])
    exact ⟨[], by simp [logged.fresh phase, quiet], .inr ⟨quiet, .inl rfl⟩⟩
  | negotiating =>
    have quiet := served.opening (by simp [phase])
    exact ⟨collect Notes.sent journal, by simp [quiet], .inl (logged.greeted phase)⟩
  | idle watching | serving ticket kind =>
    obtain ⟨greeting, request, bytes⟩ := logged.running (by simp [phase])
    exact ⟨greeting, bytes, .inl request⟩
  | closing | stopped => exact logged.closed (by simp [phase])

/-- Which of the requests that were submitted have been accepted. -/
structure Admitted (journal : Journal) (connection : Connection) : Prop where
  going : connection.phase ≠ .stopped →
    collect Notes.accepted journal = (collect Notes.submitted journal).filterMap packed?
  inOrder : collect Notes.accepted journal <+: (collect Notes.submitted journal).filterMap packed?

theorem Reached.admitted {versions : List Version} {journal : Journal} {connection : Connection}
    (reached : Reached versions journal connection) : Admitted journal connection := by
  refine Reached.keeps Admitted ?_ ?_ reached
  · constructor <;> simp
  · intro journal connection after event seen _ before rule
    obtain ⟨going, inOrder⟩ := before
    cases rule with
    | still | receive | hangUp | record => constructor <;> simpa
    | refuse ticket request fault cause =>
      constructor
      · intro lives
        rcases cause with ⟨reason, unpacked⟩ | stopped
        · simpa [packed?, unpacked] using going lives
        · exact absurd stopped lives
      · simpa using inOrder.trans (List.prefix_append ..)
    | accept ticket request payload success lives =>
      have grown : collect Notes.accepted journal ++ [⟨ticket, request.kind, payload⟩] =
          (collect Notes.submitted journal ++ [(ticket, request)]).filterMap packed? := by
        simp [going lives, packed?, success]
      exact ⟨fun _ => by simpa using grown, by simpa using ⟨[], by simpa using grown⟩⟩
    | unopened _ phase | disagree phase | desert phase | greet greeting phase
    | agree version rest phase | glance phase | forbid watching next rest delivery phase
    | send watching next rest phase | cut watching next rest count fault phase
    | lose ticket kind ending phase | spoil ticket kind payload rest fault phase
    | stray ticket kind payload rest summary phase
    | conclude ticket kind payload rest summary next phase | drain phase =>
      have same := going (by simp [phase])
      exact ⟨fun _ => by simpa using same, by simpa⟩

/-- A request has its turn when the summaries of all that were written have been heard. -/
theorem Reached.turn {versions : List Version} {journal : Journal} {connection : Connection}
    (reached : Reached versions journal connection) {event : Event} {turn : Turn}
    (comes : turn ∈ (connection.notes event).turns) :
    turn.state = Connection.tracked journal ∧
      (collect Notes.heard journal).map Prod.fst = (log journal).map (·.request.kind) := by
  have state := reached.state_eq
  have served := reached.served
  have rule := step_stride connection event
  generalize connection.notes event = seen at rule comes
  generalize (connection.step event).1 = after at rule
  cases rule with
  | forbid watching next rest delivery phase | send watching next rest phase
  | cut watching next rest count fault phase =>
    have kinds := (served.running (by simp [phase])).1
    rw [List.mem_singleton] at comes
    rw [comes]
    exact ⟨state, by simpa [phase] using kinds.symm⟩
  | _ => cases comes

/-- A request that is forbidden leaves all as it was, except that it has gone. -/
theorem forbidden_untouched {connection : Connection} {event : Event} {ticket : Nat}
    {fault : ProtocolFault} (given : (ticket, .error fault) ∈ answersOf (connection.step event).2)
    (forbidden : fault.kind = .forbidden) :
    bytesOf (connection.step event).2 = [] ∧
      (connection.step event).1.status = connection.status ∧
      (connection.step event).1.incoming = connection.incoming ∧
      (connection.step event).1.gathered = connection.gathered := by
  rw [answersOf_step] at given
  change (connection.notes event).sent = [] ∧ _
  have rule := step_stride connection event
  generalize connection.notes event = seen at rule given
  generalize (connection.step event).1 = after at rule
  cases rule with
  | refuse | forbid => exact ⟨rfl, rfl, rfl, rfl⟩
  | still | accept | receive | hangUp | unopened | greet | disagree | agree | glance | desert
  | send | record | conclude => simp at given
  | cut | lose | stray =>
    obtain ⟨-, rfl⟩ : _ ∧ fault = _ := by simpa using given
    simp [ProtocolFault.kind] at forbidden
  | spoil _ _ _ _ cause _ _ broken =>
    obtain ⟨-, rfl⟩ : ticket = _ ∧ fault = cause := by simpa using given
    exact absurd forbidden (ServerMessage.kind_ne_forbidden broken)
  | drain =>
    obtain ⟨queued, -, -, rfl⟩ : ∃ queued ∈ connection.queue, queued.ticket = ticket ∧
        ProtocolFault.shutDown = fault := by simpa using given
    simp [ProtocolFault.kind] at forbidden

/-- In every run what is written is the handshake, or a part of it, and behind the whole
handshake the frames of the requests that were allowed in the state that was
published when their turn came, while it was not defunct. Those are accepted
requests in the order of their submission, and only the last frame can be cut.
None is written before the summary of the one before it has been taken. A request
that cannot be packed, and one that is forbidden, leaves no trace. -/
theorem writes_allowed_requests (versions : List Version) (events : List Event) :
    let connection := ((start versions).run events).1
    let journal := (start versions).journal events
    (∃ greeting, bytesOf ((start versions).run events).2 =
        greeting ++ (log journal).flatMap Turn.bytes ∧
      (Handshake.request versions = .ok greeting ∧ greeting.length = 20 ∨ log journal = [] ∧
        (greeting = [] ∨ ∃ whole, Handshake.request versions = .ok whole ∧ greeting <+: whole))) ∧
    (collect Notes.turns journal).map Turn.request ++
      (collect Notes.drained journal ++ connection.queue) = collect Notes.accepted journal ∧
    collect Notes.accepted journal <+: (collect Notes.submitted journal).filterMap packed? ∧
    (∀ turn ∈ collect Notes.turns journal, turn.state ≠ .defunct) ∧
    (collect Notes.drained journal ≠ [] → connection.state = .defunct) ∧
    (∀ turn ∈ (log journal).dropLast, turn.delivery = .whole) ∧
    (∀ event turn, turn ∈ (connection.notes event).turns → turn.state = tracked journal ∧
      (collect Notes.heard journal).map Prod.fst = (log journal).map (·.request.kind)) ∧
    (∀ ticket request fault, request.encode = .error fault →
      connection.step (.submit ticket request) =
        (connection, [.answer ticket (.error (.codec fault))])) ∧
    ∀ event ticket fault, (ticket, .error fault) ∈ answersOf (connection.step event).2 →
      fault.kind = .forbidden → bytesOf (connection.step event).2 = [] ∧
        (connection.step event).1.status = connection.status ∧
        (connection.step event).1.incoming = connection.incoming ∧
        (connection.step event).1.gathered = connection.gathered := by
  intro connection journal
  have reached : Reached versions journal connection := reached_run versions events
  refine ⟨?_, reached.ordered.queue.symm, reached.admitted.inOrder, reached.served.awake, ?_, ?_,
    fun event turn comes => reached.turn comes, ?_, fun event ticket fault => forbidden_untouched⟩
  · obtain ⟨greeting, bytes, shape⟩ := reached.logged.greeting reached.served
    refine ⟨greeting, by rw [bytesOf_run]; exact bytes, ?_⟩
    exact shape.imp_left fun request => ⟨request, Handshake.length_of_request request⟩
  · intro drained
    have stopped : connection.phase = .stopped :=
      Decidable.of_not_not fun going => drained (reached.ordered.going going)
    exact (reached.tracked.closed (by simp [stopped])).1
  · exact reached.served.whole_of_dropLast
  · intro ticket request fault unpacked
    simp only [step, submit, unpacked]

end Connection
end BoltClient
