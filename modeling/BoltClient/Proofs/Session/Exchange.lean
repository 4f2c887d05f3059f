import BoltClient.Proofs.Connection.Tracking
import BoltClient.Proofs.Protocol.Transitions
import BoltClient.Session.Basic

/-!
What can become of one request. Nobody but the caller uses the connection, so the
state in which the request has its turn is the one in which the caller went on before,
unless the connection was lost in between; and the answer and the state behind it are
those that the server's summary leads to.
-/

namespace BoltClient

open Connection

namespace Session

/-- How the published state can change while no request is served. -/
inductive Drifts : ServerState → ServerState → Prop where
  | stays (state : ServerState) : Drifts state state
  | lost (state : ServerState) : Drifts state .defunct
  | agreed : Drifts .disconnected .negotiation

theorem Drifts.trans {first second third : ServerState} (left : Drifts first second)
    (right : Drifts second third) : Drifts first third := by
  cases left with
  | stays => exact right
  | lost =>
    cases right with
    | stays | lost => exact .lost first
  | agreed =>
    cases right with
    | stays => exact .agreed
    | lost => exact .lost _

/-- A state that is known can only be lost. -/
theorem Drifts.eq_or_defunct {first second : ServerState} (drifts : Drifts first second)
    (opened : first ≠ .disconnected) : second = first ∨ second = .defunct := by
  cases drifts with
  | stays => exact .inl rfl
  | lost => exact .inr rfl
  | agreed => exact absurd rfl opened

theorem Drifts.of_defunct {state : ServerState} (drifts : Drifts .defunct state) :
    state = .defunct :=
  (drifts.eq_or_defunct (by decide)).elim id id

/-- That a request had its turn in a state, and was written. -/
structure Written (state : ServerState) (request : Request) (turn : Turn) : Prop where
  kindEq : turn.request.kind = request.kind
  stateEq : turn.state = state
  allowed : request.kind.isAllowed state = true

/-- What can become of a request in a state: what is written for it, its outcome, and the
state behind it. -/
inductive Answers (state : ServerState) (request : Request) :
    List Turn → Outcome → ServerState → Prop where
  | unpacked (reason : CodecFault) (broken : request.encode = .error reason) :
    Answers state request [] (.error (.codec reason)) state
  | forbidden (barred : request.kind.isAllowed state = false) (awake : state ≠ .defunct) :
    Answers state request [] (.error (.forbidden request.kind.name state)) state
  | responded (turn : Turn) (response : Response) (next : ServerState)
    (written : Written state request turn)
    (leads : request.kind.nextState state response.summary = some next) :
    Answers state request [turn] (.ok response) next
  /-- the connection is lost, before the request is written or behind it -/
  | lost (turns : List Turn) (fault : ProtocolFault)
    (part : turns = [] ∨ ∃ turn, turns = [turn] ∧ Written state request turn)
    (other : fault.kind ≠ .forbidden) : Answers state request turns (.error fault) .defunct

section Answers

variable {state before after : ServerState} {request : Request} {turns : List Turn}
  {outcome : Outcome}

theorem Answers.of_defunct (answers : Answers .defunct request turns outcome after) :
    turns = [] ∧ (∃ fault, fault.kind ≠ .forbidden ∧ outcome = .error fault) ∧
      after = .defunct := by
  have never := Request.Kind.isAllowed_defunct request.kind
  cases answers with
  | unpacked reason => exact ⟨rfl, ⟨_, by simp [ProtocolFault.kind], rfl⟩, rfl⟩
  | forbidden _ awake => exact absurd rfl awake
  | responded _ _ _ written => exact absurd written.allowed (by simp [never])
  | lost _ fault part other =>
    rcases part with none | ⟨turn, -, written⟩
    · exact ⟨none, ⟨_, other, rfl⟩, rfl⟩
    · exact absurd written.allowed (by simp [never])

/-- A connection that was lost before is as good as one that is lost with the request. -/
theorem Answers.of_drifts (answers : Answers before request turns outcome after)
    (drifts : Drifts state before) (opened : state ≠ .disconnected) :
    Answers state request turns outcome after := by
  rcases drifts.eq_or_defunct opened with rfl | rfl
  · exact answers
  · obtain ⟨rfl, ⟨fault, other, rfl⟩, rfl⟩ := answers.of_defunct
    exact .lost [] fault (.inl rfl) other

theorem Answers.part (answers : Answers state request turns outcome after) :
    turns = [] ∨ ∃ turn, turns = [turn] ∧ Written state request turn := by
  cases answers with
  | unpacked | forbidden => exact .inl rfl
  | responded turn _ _ written => exact .inr ⟨turn, rfl, written⟩
  | lost _ _ part => exact part

/-- Whatever is written for a request is written in its state. -/
theorem Answers.written (answers : Answers state request turns outcome after) :
    ∀ turn ∈ turns, Written state request turn := by
  rcases answers.part with rfl | ⟨turn, rfl, written⟩
  · exact fun _ member => absurd member List.not_mem_nil
  · intro other member
    exact List.mem_singleton.1 member ▸ written

end Answers

/-- A request of a caller, with the state in which the caller had gone on before, what was
to be seen until the answer, and the reply. -/
structure Exchange where
  state : ServerState
  request : Request
  seen : Journal
  reply : Reply

namespace Exchange

/-- What was written for the request. -/
def turns (exchange : Exchange) : List Turn := log exchange.seen

/-- That the request was answered with a success. -/
def succeeded (exchange : Exchange) : Bool :=
  (exchange.reply.outcome.bind Response.metadata).isOk

/-- That a connection can have answered in this way. -/
def Fair (exchange : Exchange) : Prop :=
  ∃ before after, Drifts exchange.state before ∧
    Answers before exchange.request exchange.turns exchange.reply.outcome after ∧
    Drifts after exchange.reply.state

theorem Fair.answers {exchange : Exchange} (fair : exchange.Fair)
    (opened : exchange.state ≠ .disconnected) : ∃ after,
      Answers exchange.state exchange.request exchange.turns exchange.reply.outcome after ∧
        Drifts after exchange.reply.state := by
  obtain ⟨before, after, drifts, answers, later⟩ := fair
  exact ⟨after, answers.of_drifts drifts opened, later⟩

/-- A request that succeeded was answered with a success of the server. -/
theorem response_of_succeeded {exchange : Exchange} (succeeded : exchange.succeeded = true) :
    ∃ records metadata, exchange.reply.outcome = .ok ⟨records, .success metadata⟩ := by
  unfold Exchange.succeeded at succeeded
  cases outcome : exchange.reply.outcome with
  | error fault => simp [outcome, Except.bind, Except.isOk, Except.toBool] at succeeded
  | ok response =>
    obtain ⟨records, summary⟩ := response
    rw [outcome] at succeeded
    cases summary with
    | success metadata => exact ⟨records, metadata, rfl⟩
    | failure | ignored => cases succeeded

/-- A request that got a response was written, and leads to the state that its summary leads
to. -/
theorem Fair.of_response {exchange : Exchange} (fair : exchange.Fair) {response : Response}
    (outcome : exchange.reply.outcome = .ok response) : ∃ before next turn,
      Drifts exchange.state before ∧ exchange.turns = [turn] ∧
      Written before exchange.request turn ∧
      exchange.request.kind.nextState before response.summary = some next ∧
      Drifts next exchange.reply.state := by
  obtain ⟨before, after, drifts, answers, later⟩ := fair
  rw [outcome] at answers
  generalize exchange.turns = turns at answers
  cases answers with
  | responded turn _ _ written leads =>
    exact ⟨before, after, turn, drifts, rfl, written, leads, later⟩

theorem Fair.of_succeeded {exchange : Exchange} (fair : exchange.Fair)
    (succeeded : exchange.succeeded = true) : ∃ before metadata next turn,
      Drifts exchange.state before ∧ exchange.turns = [turn] ∧
      Written before exchange.request turn ∧
      exchange.request.kind.nextState before (.success metadata) = some next ∧
      Drifts next exchange.reply.state := by
  obtain ⟨records, metadata, outcome⟩ := response_of_succeeded succeeded
  obtain ⟨before, next, turn, answered⟩ := fair.of_response outcome
  exact ⟨before, metadata, next, turn, answered⟩

end Exchange

end Session
end BoltClient
