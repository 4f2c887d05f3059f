import BoltClient.Connection.Basic

/-!
What is to be seen of a run, from outside a connection or beside its stream.
Every event leaves a note: which request was submitted, accepted or had its turn,
what was answered, what passed over the stream, and whether something went
wrong. A journal lists the notes of a run in order. Statements about a
connection compare what it publishes, writes and answers with its journal.
-/

namespace BoltClient

/-- The part of what is written that reaches the stream. -/
def Delivery.reached (bytes : Bytes) : Delivery → Bytes
  | whole => bytes
  | cut count _ => bytes.take count

/-- The server message that a payload holds. -/
def ServerMessage.ofPayload (payload : Bytes) : Except ProtocolFault ServerMessage :=
  match Value.decodeExact payload with
  | .error fault => .error (.codec fault)
  | .ok value => ofValue value

def ServerMessage.summary? : ServerMessage → Option Summary
  | .record _ => none
  | .summary content => some content

namespace Connection

def Effect.answer? : Effect → Option (Nat × Outcome)
  | answer ticket outcome => some (ticket, outcome)
  | _ => none

def Effect.bytes : Effect → Bytes
  | write bytes => bytes
  | _ => []

def answersOf (effects : List Effect) : List (Nat × Outcome) := effects.filterMap Effect.answer?

def bytesOf (effects : List Effect) : Bytes := effects.flatMap Effect.bytes

@[simp] theorem answersOf_nil : answersOf [] = [] := rfl

@[simp] theorem answersOf_write (bytes : Bytes) (rest : List Effect) :
    answersOf (.write bytes :: rest) = answersOf rest := rfl

@[simp] theorem answersOf_announce (connection : Connection) (rest : List Effect) :
    answersOf (connection.announce :: rest) = answersOf rest := rfl

@[simp] theorem answersOf_answer (ticket : Nat) (outcome : Outcome) (rest : List Effect) :
    answersOf (.answer ticket outcome :: rest) = (ticket, outcome) :: answersOf rest := rfl

@[simp] theorem bytesOf_nil : bytesOf [] = [] := rfl

@[simp] theorem bytesOf_write (bytes : Bytes) (rest : List Effect) :
    bytesOf (.write bytes :: rest) = bytes ++ bytesOf rest := rfl

@[simp] theorem bytesOf_announce (connection : Connection) (rest : List Effect) :
    bytesOf (connection.announce :: rest) = bytesOf rest := rfl

@[simp] theorem bytesOf_answer (ticket : Nat) (outcome : Outcome) (rest : List Effect) :
    bytesOf (.answer ticket outcome :: rest) = bytesOf rest := rfl

@[simp] theorem abandon_fst (connection : Connection) :
    connection.abandon.1 = connection.close := rfl

@[simp] theorem answersOf_abandon (connection : Connection) :
    answersOf connection.abandon.2 = [] := rfl

@[simp] theorem bytesOf_abandon (connection : Connection) : bytesOf connection.abandon.2 = [] := rfl

theorem answersOf_append (first second : List Effect) :
    answersOf (first ++ second) = answersOf first ++ answersOf second :=
  List.filterMap_append ..

theorem bytesOf_append (first second : List Effect) :
    bytesOf (first ++ second) = bytesOf first ++ bytesOf second :=
  List.flatMap_append ..

/-- The turn of a request: the state that was published when it came, and how much of
what was written for it reached the stream. -/
structure Turn where
  request : Queued
  state : ServerState
  delivery : Delivery

def Turn.isAllowed (turn : Turn) : Bool := turn.request.kind.isAllowed turn.state

/-- What reaches the stream of a request that is allowed. -/
def Turn.bytes (turn : Turn) : Bytes := turn.delivery.reached (Framing.frame turn.request.payload)

/-- The request that waits for its answer. -/
@[simp] def Phase.inFlight : Phase → List (Nat × Request.Kind)
  | serving ticket kind => [(ticket, kind)]
  | _ => []

/-! The parts of a connection's life: before a version is agreed on, while requests are
served, and when it is over. -/

@[simp] def Phase.isOpening : Phase → Bool
  | connecting | negotiating => true
  | _ => false

@[simp] def Phase.isRunning : Phase → Bool
  | idle _ | serving .. => true
  | _ => false

@[simp] def Phase.isOver : Phase → Bool
  | closing | stopped => true
  | _ => false

/-- What is to be seen of one event. -/
structure Notes where
  /-- the request submitted, under its ticket -/
  submitted : List (Nat × Request) := []
  /-- the request put into the queue -/
  accepted : List Queued := []
  /-- the answer to a request that is not put into the queue -/
  refused : List (Nat × Outcome) := []
  /-- the answers to requests that had been put into the queue -/
  replies : List (Nat × Outcome) := []
  turns : List Turn := []
  /-- the requests refused together at the end -/
  drained : List Queued := []
  /-- the bytes handed to the stream -/
  sent : Bytes := []
  /-- the bytes that came from the stream -/
  received : Bytes := []
  /-- whether a version was agreed on -/
  agreed : Bool := false
  /-- the message taken for the request in flight -/
  messages : List ServerMessage := []
  /-- the summary taken for the request in flight -/
  heard : List (Request.Kind × Summary) := []
  /-- whether the stream or the server let the connection down -/
  mishap : Bool := false

/-! What a connection publishes, and what closing it leaves as it is. -/

section Close

variable (connection : Connection)

@[simp] theorem state_mk (versions : List Version) (phase : Phase) (status : Status)
    (queue : List Queued) (incoming : Bytes) (ending : Option StreamEnd) (gathered : Gathered) :
    state ⟨versions, phase, status, queue, incoming, ending, gathered⟩ = status.state := rfl

@[simp] theorem state_status : connection.status.state = connection.state := rfl

@[simp] theorem state_setState (state : ServerState) :
    (connection.setState state).state = state := rfl

@[simp] theorem versions_setState (state : ServerState) :
    (connection.setState state).versions = connection.versions := rfl

@[simp] theorem queue_setState (state : ServerState) :
    (connection.setState state).queue = connection.queue := rfl

@[simp] theorem ending_setState (state : ServerState) :
    (connection.setState state).ending = connection.ending := rfl

@[simp] theorem phase_close : connection.close.phase = .closing := rfl
@[simp] theorem state_close : connection.close.state = .defunct := rfl
@[simp] theorem versions_close : connection.close.versions = connection.versions := rfl
@[simp] theorem queue_close : connection.close.queue = connection.queue := rfl
@[simp] theorem incoming_close : connection.close.incoming = connection.incoming := rfl
@[simp] theorem ending_close : connection.close.ending = connection.ending := rfl
@[simp] theorem gathered_close : connection.close.gathered = connection.gathered := rfl

end Close

abbrev Journal := List Notes

/-- All that a journal has of one sort, in order. -/
def collect {α : Type} (view : Notes → List α) (journal : Journal) : List α := journal.flatMap view

@[simp] theorem collect_nil {α : Type} (view : Notes → List α) : collect view [] = [] := rfl

@[simp] theorem collect_concat {α : Type} (view : Notes → List α) (journal : Journal)
    (seen : Notes) : collect view (journal ++ [seen]) = collect view journal ++ view seen := by
  simp [collect, List.flatMap_append]

theorem collect_append {α : Type} (view : Notes → List α) (first second : Journal) :
    collect view (first ++ second) = collect view first ++ collect view second :=
  List.flatMap_append ..

/-- The turns in which a request was written. -/
def log (journal : Journal) : List Turn := (collect Notes.turns journal).filter Turn.isAllowed

@[simp] theorem log_nil : log [] = [] := rfl

@[simp] theorem log_concat (journal : Journal) (seen : Notes) :
    log (journal ++ [seen]) = log journal ++ seen.turns.filter Turn.isAllowed := by
  simp [log, List.filter_append]

theorem log_append (first second : Journal) : log (first ++ second) = log first ++ log second := by
  simp [log, collect, List.flatMap_append]

/-- Whether something has happened in a journal. -/
def ever (view : Notes → Bool) (journal : Journal) : Bool := journal.any view

@[simp] theorem ever_nil (view : Notes → Bool) : ever view [] = false := rfl

@[simp] theorem ever_concat (view : Notes → Bool) (journal : Journal) (seen : Notes) :
    ever view (journal ++ [seen]) = (ever view journal || view seen) := by
  simp [ever]

/-- The message that the request in flight can take next. -/
def nextMessage? (connection : Connection) : Option (Except ProtocolFault ServerMessage) :=
  (Framing.readMessage connection.incoming).map fun (payload, _) => ServerMessage.ofPayload payload

/-- A transport error, a version that is not agreed on, a message that is broken or no
response, a summary that leads nowhere, or a peer that has left. -/
def mishap (connection : Connection) : Event → Bool
  | .unreachable _ => connection.phase = .connecting
  | .opened delivery =>
    connection.phase = .connecting &&
      (delivery ≠ .whole || (Handshake.request connection.versions).toOption.isNone)
  | .take delivery =>
    match connection.phase, connection.queue with
    | .idle _, next :: _ => next.kind.isAllowed connection.state && delivery ≠ .whole
    | _, _ => false
  | .poll =>
    match connection.phase with
    | .negotiating =>
      match Handshake.readAnswer? connection.incoming with
      | some answer => answer.toOption.isNone
      | none => connection.ending.isSome
    | .idle watching => watching && connection.incoming.isEmpty && connection.ending.isSome
    | .serving _ kind =>
      match connection.nextMessage? with
      | none => connection.ending.isSome
      | some (.error _) => true
      | some (.ok (.record _)) => false
      | some (.ok (.summary summary)) => (kind.nextState connection.state summary).isNone
    | _ => false
  | _ => false

/-- What is to be seen of an event that happens to a connection. -/
def notes (connection : Connection) (event : Event) : Notes where
  submitted := match event with
    | .submit ticket request => [(ticket, request)]
    | _ => []
  accepted := match event with
    | .submit ticket request =>
      match request.encode, (connection.step event).2 with
      | .ok payload, [] => [⟨ticket, request.kind, payload⟩]
      | _, _ => []
    | _ => []
  refused := match event with
    | .submit .. => answersOf (connection.step event).2
    | _ => []
  replies := match event with
    | .submit .. => []
    | _ => answersOf (connection.step event).2
  turns := match event, connection.phase, connection.queue with
    | .take delivery, .idle _, next :: _ => [⟨next, connection.state, delivery⟩]
    | _, _, _ => []
  drained := match event, connection.phase with
    | .drain, .closing => connection.queue
    | _, _ => []
  sent := bytesOf (connection.step event).2
  received := match event with
    | .receive bytes => if connection.ending.isSome then [] else bytes
    | _ => []
  agreed := match event, connection.phase with
    | .poll, .negotiating =>
      ((Handshake.readAnswer? connection.incoming).bind Except.toOption).isSome
    | _, _ => false
  messages := match event, connection.phase with
    | .poll, .serving .. => (connection.nextMessage?.bind Except.toOption).toList
    | _, _ => []
  heard := match event, connection.phase with
    | .poll, .serving _ kind =>
      ((connection.nextMessage?.bind Except.toOption).bind ServerMessage.summary?).toList.map
        (kind, ·)
    | _, _ => []
  mishap := connection.mishap event

/-- The notes of events that happen one after the other. -/
def journal (connection : Connection) : List Event → Journal
  | [] => []
  | event :: rest => connection.notes event :: (connection.step event).1.journal rest

theorem answersOf_step (connection : Connection) (event : Event) :
    answersOf (connection.step event).2 =
      (connection.notes event).refused ++ (connection.notes event).replies := by
  cases event <;> simp [notes]

/-- Nothing that a run answers is missing from its journal. -/
theorem answersOf_run (connection : Connection) (events : List Event) :
    answersOf (connection.run events).2 =
      collect (fun seen => seen.refused ++ seen.replies) (connection.journal events) := by
  induction events generalizing connection with
  | nil => rfl
  | cons event rest ih =>
    rw [run, answersOf_append, ih, answersOf_step]
    rfl

theorem bytesOf_run (connection : Connection) (events : List Event) :
    bytesOf (connection.run events).2 = collect Notes.sent (connection.journal events) := by
  induction events generalizing connection with
  | nil => rfl
  | cons event rest ih =>
    rw [run, bytesOf_append, ih]
    rfl

theorem journal_append (connection : Connection) (first second : List Event) :
    connection.journal (first ++ second) =
      connection.journal first ++ (connection.run first).1.journal second := by
  induction first generalizing connection with
  | nil => rfl
  | cons event rest ih =>
    exact congrArg (connection.notes event :: ·) (ih (connection.step event).1)

/-- What a run does it does with one of its events. -/
theorem exists_step_of_mem_run {connection : Connection} {events : List Event} {effect : Effect}
    (done : effect ∈ (connection.run events).2) :
    ∃ earlier event later, events = earlier ++ event :: later ∧
      effect ∈ ((connection.run earlier).1.step event).2 := by
  induction events generalizing connection with
  | nil => cases done
  | cons event rest ih =>
    rcases List.mem_append.1 done with now | after
    · exact ⟨[], event, rest, rfl, now⟩
    · obtain ⟨earlier, next, later, rfl, here⟩ := ih after
      exact ⟨event :: earlier, next, later, rfl, here⟩

/-- The journals that a connection can have, with what it has become. -/
inductive Reached (versions : List Version) : Journal → Connection → Prop where
  | start : Reached versions [] (.start versions)
  | step {journal : Journal} {connection : Connection} : Reached versions journal connection →
      (event : Event) →
      Reached versions (journal ++ [connection.notes event]) (connection.step event).1

theorem Reached.append {versions : List Version} {journal : Journal} {connection : Connection}
    (reached : Reached versions journal connection) (events : List Event) :
    Reached versions (journal ++ connection.journal events) (connection.run events).1 := by
  induction events generalizing journal connection with
  | nil => simpa [Connection.journal, run] using reached
  | cons event rest ih =>
    have later := ih (reached.step event)
    rwa [List.append_assoc] at later

/-- Every run has a journal. -/
theorem reached_run (versions : List Version) (events : List Event) :
    Reached versions ((start versions).journal events) ((start versions).run events).1 :=
  Reached.start.append events

end Connection
end BoltClient
