import BoltClient.Proofs.Connection.WireLog
import BoltClient.Proofs.Session.Exchange

/-!
A connection that one caller uses. It is quiet, or it has one request, which waits for
its turn or for its answer. What can happen to it in each case follows from what one
event can do.
-/

namespace BoltClient

namespace Connection

/-- Nobody waits for an answer. -/
structure Quiet (connection : Connection) : Prop where
  flight : connection.phase.inFlight = []
  queue : connection.queue = []

/-- That an event is not a request. -/
def Event.isOutside : Event → Bool
  | submit .. => false
  | _ => true

end Connection

namespace Session

open Connection

variable {connection after : Connection} {journal : Journal} {event : Event} {seen : Notes}

/-- No turn was taken and no answer was given. -/
structure Silent (seen : Notes) : Prop where
  turns : seen.turns = []
  answers : seen.refused ++ seen.replies = []

/-- A request to a quiet connection waits for its turn or is answered at once. -/
theorem submit_ways (tracked : Tracked journal connection) (quiet : Quiet connection)
    (ticket : Nat) (request : Request) :
    (∃ payload, connection.submit ticket request =
      ({ connection with queue := [⟨ticket, request.kind, payload⟩] }, [])) ∨
    ∃ outcome, connection.submit ticket request = (connection, [.answer ticket outcome]) ∧
      Answers connection.state request [] outcome connection.state := by
  unfold submit
  cases packed : request.encode with
  | error reason => exact .inr ⟨_, rfl, .unpacked reason packed⟩
  | ok payload =>
    by_cases stopped : connection.phase = .stopped
    · have defunct : connection.state = .defunct := (tracked.closed (by simp [stopped])).1
      refine .inr ⟨_, if_pos stopped, ?_⟩
      rw [defunct]
      exact .lost [] _ (.inl rfl) (by simp [ProtocolFault.kind])
    · refine .inl ⟨payload, (if_neg stopped).trans ?_⟩
      rw [quiet.queue, List.nil_append]

/-- A connection that nobody uses stays quiet. -/
theorem quiet_stride (tracked : Tracked journal connection) (quiet : Quiet connection)
    (outside : event.isOutside = true) (stride : Stride connection event seen after) :
    Quiet after ∧ Silent seen ∧ Drifts connection.state after.state := by
  obtain ⟨flight, queue⟩ := quiet
  cases stride with
  | refuse | accept => cases outside
  | still => exact ⟨⟨flight, queue⟩, ⟨rfl, rfl⟩, .stays _⟩
  | receive | hangUp => exact ⟨⟨flight, queue⟩, ⟨rfl, rfl⟩, .stays _⟩
  | unopened | disagree | desert => exact ⟨⟨rfl, queue⟩, ⟨rfl, rfl⟩, .lost _⟩
  | greet | glance => exact ⟨⟨rfl, queue⟩, ⟨rfl, rfl⟩, .stays _⟩
  | agree version rest phase =>
    have early : connection.state = .disconnected := (tracked.opening (by simp [phase])).1
    exact ⟨⟨rfl, queue⟩, ⟨rfl, rfl⟩, early ▸ .agreed⟩
  | forbid _ _ _ _ _ waits | send _ _ _ _ waits | cut _ _ _ _ _ _ waits =>
    cases queue.symm.trans waits
  | lose _ _ _ phase | spoil _ _ _ _ _ phase | record _ _ _ _ _ phase | stray _ _ _ _ _ phase
  | conclude _ _ _ _ _ _ phase =>
    rw [phase] at flight
    cases flight
  | drain => exact ⟨⟨rfl, rfl⟩, ⟨rfl, by simp [queue]⟩, .stays _⟩

/-- A request that waits for its turn waits on, is written, or is answered. -/
theorem queued_stride {request : Request} {queued : Queued} (tracked : Tracked journal connection)
    (flight : connection.phase.inFlight = []) (queue : connection.queue = [queued])
    (kind : queued.kind = request.kind) (outside : event.isOutside = true)
    (stride : Stride connection event seen after) :
    (after.phase.inFlight = [] ∧ after.queue = [queued] ∧ Silent seen ∧
      Drifts connection.state after.state) ∨
    (after.phase = .serving queued.ticket queued.kind ∧ after.queue = [] ∧
      seen.refused ++ seen.replies = [] ∧ after.state = connection.state ∧
      ∃ turn, seen.turns = [turn] ∧ Written connection.state request turn) ∨
    (Quiet after ∧ ∃ outcome, seen.refused ++ seen.replies = [(queued.ticket, outcome)] ∧
      Answers connection.state request (seen.turns.filter Turn.isAllowed) outcome after.state) := by
  cases stride with
  | refuse | accept => cases outside
  | still | receive | hangUp => exact .inl ⟨flight, queue, ⟨rfl, rfl⟩, .stays _⟩
  | unopened | disagree | desert => exact .inl ⟨rfl, queue, ⟨rfl, rfl⟩, .lost _⟩
  | greet | glance => exact .inl ⟨rfl, queue, ⟨rfl, rfl⟩, .stays _⟩
  | agree version rest phase =>
    have early : connection.state = .disconnected := (tracked.opening (by simp [phase])).1
    exact .inl ⟨rfl, queue, ⟨rfl, rfl⟩, early ▸ .agreed⟩
  | forbid watching next rest delivery phase waits barred =>
    cases queue.symm.trans waits
    refine .inr (.inr ⟨⟨rfl, rfl⟩, _, rfl, ?_⟩)
    rw [List.filter_cons_of_neg (by simp [Turn.isAllowed, barred]), kind]
    exact .forbidden (kind ▸ barred) (tracked.ne_defunct (by simp [phase]))
  | send watching next rest phase waits allowed =>
    cases queue.symm.trans waits
    exact .inr (.inl ⟨rfl, rfl, rfl, rfl, ⟨queued, connection.state, .whole⟩, rfl, kind, rfl,
      kind ▸ allowed⟩)
  | cut watching next rest count fault phase waits allowed =>
    cases queue.symm.trans waits
    refine .inr (.inr ⟨⟨rfl, rfl⟩, _, rfl, .lost _ _ (.inr ?_) (by simp [ProtocolFault.kind])⟩)
    refine ⟨⟨queued, connection.state, .cut count fault⟩, ?_, kind, rfl, kind ▸ allowed⟩
    exact List.filter_cons_of_pos (by simp [Turn.isAllowed, allowed])
  | lose _ _ _ phase | spoil _ _ _ _ _ phase | record _ _ _ _ _ phase | stray _ _ _ _ _ phase
  | conclude _ _ _ _ _ _ phase =>
    rw [phase] at flight
    cases flight
  | drain phase =>
    have defunct : connection.state = .defunct := (tracked.closed (by simp [phase])).1
    refine .inr (.inr ⟨⟨rfl, rfl⟩, .error .shutDown, by simp [queue], ?_⟩)
    change Answers connection.state request [] _ connection.state
    rw [defunct]
    exact .lost [] _ (.inl rfl) (by simp [ProtocolFault.kind])

/-- A request that was written waits on or is answered. -/
theorem serving_stride {request : Request} {ticket : Nat} {turn : Turn}
    (phase : connection.phase = .serving ticket request.kind) (queue : connection.queue = [])
    (written : Written connection.state request turn) (outside : event.isOutside = true)
    (stride : Stride connection event seen after) :
    (after.phase = .serving ticket request.kind ∧ after.queue = [] ∧ Silent seen ∧
      after.state = connection.state) ∨
    (Quiet after ∧ seen.turns = [] ∧ ∃ outcome,
      seen.refused ++ seen.replies = [(ticket, outcome)] ∧
      Answers connection.state request [turn] outcome after.state) := by
  have lost (fault : ProtocolFault) (other : fault.kind ≠ .forbidden) :
      Answers connection.state request [turn] (.error fault) .defunct :=
    .lost _ _ (.inr ⟨turn, rfl, written⟩) other
  cases stride with
  | refuse | accept => cases outside
  | still | receive | hangUp => exact .inl ⟨phase, queue, ⟨rfl, rfl⟩, rfl⟩
  | unopened _ other | greet _ other | disagree other | agree _ _ other | glance other
  | desert other | forbid _ _ _ _ other | send _ _ _ other | cut _ _ _ _ _ other | drain other =>
    cases phase.symm.trans other
  | lose _ _ _ other | stray _ _ _ _ _ other =>
    cases phase.symm.trans other
    exact .inr ⟨⟨rfl, queue⟩, rfl, _, rfl, lost _ (by simp [ProtocolFault.kind])⟩
  | spoil _ _ _ _ _ other _ broken =>
    cases phase.symm.trans other
    exact .inr ⟨⟨rfl, queue⟩, rfl, _, rfl, lost _ (ServerMessage.kind_ne_forbidden broken)⟩
  | record _ _ _ _ _ other =>
    cases phase.symm.trans other
    exact .inl ⟨phase, queue, ⟨rfl, rfl⟩, rfl⟩
  | conclude _ _ _ _ summary next other _ _ leads =>
    cases phase.symm.trans other
    refine .inr ⟨⟨?_, queue⟩, rfl, _, rfl, .responded turn _ next written leads⟩
    cases next.isTerminal <;> rfl

end Session
end BoltClient
