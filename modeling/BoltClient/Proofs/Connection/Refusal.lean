import BoltClient.Proofs.Connection.Replies

/-!
A connection that is over. It still accepts requests until it has refused all that
waits, and from then on it turns every request away; bytes may arrive, and nobody
reads them. `Lingers` lists all that a step can do then, and `refuses` follows what is
asked, answered and left waiting over every run.
-/

namespace BoltClient.Connection

/-- The tickets that are told that the connection is closed. -/
def closedOf (answers : List (Nat × Outcome)) : List Nat :=
  answers.filterMap fun (ticket, outcome) =>
    match outcome with
    | .error fault => if fault.isConnectionClosed then some ticket else none
    | .ok _ => none

/-- The tickets of the requests that can be packed. -/
def packedOf (submitted : List (Nat × Request)) : List Nat :=
  submitted.filterMap fun (ticket, request) => request.encode.toOption.map fun _ => ticket

theorem closedOf_append (first second : List (Nat × Outcome)) :
    closedOf (first ++ second) = closedOf first ++ closedOf second :=
  List.filterMap_append ..

theorem packedOf_append (first second : List (Nat × Request)) :
    packedOf (first ++ second) = packedOf first ++ packedOf second :=
  List.filterMap_append ..

/-- The ways of a step of a connection that is over, with the request that is submitted, the
bytes that arrive, and the effects. -/
inductive Lingers (connection : Connection) :
    List (Nat × Request) → Bytes → List Effect → Connection → Prop where
  | still : Lingers connection [] [] [] connection
  | receive (bytes : Bytes) :
    Lingers connection [] bytes [] { connection with incoming := connection.incoming ++ bytes }
  | hangUp (ending : Option StreamEnd) :
    Lingers connection [] [] [] { connection with ending }
  | unpacked (ticket : Nat) (request : Request) (cause : CodecFault)
    (unpacked : request.encode = .error cause) :
    Lingers connection [(ticket, request)] [] [.answer ticket (.error (.codec cause))] connection
  | accept (ticket : Nat) (request : Request) (payload : Bytes)
    (closing : connection.phase = .closing) (packed : request.encode = .ok payload) :
    Lingers connection [(ticket, request)] [] []
      { connection with queue := connection.queue ++ [⟨ticket, request.kind, payload⟩] }
  | turnAway (ticket : Nat) (request : Request) (payload : Bytes)
    (packed : request.encode = .ok payload) :
    Lingers connection [(ticket, request)] []
      [.answer ticket (.error (.terminated request.name))] connection
  | drain :
    Lingers connection [] []
      (connection.queue.map fun queued => .answer queued.ticket (.error .shutDown))
      { connection with phase := .stopped, queue := [] }

section Steps

variable {connection : Connection}

theorem phase_of_isOver (finished : connection.phase.isOver = true) :
    connection.phase = .closing ∨ connection.phase = .stopped := by
  cases phase : connection.phase <;> simp_all

theorem lingers_submit (finished : connection.phase.isOver = true) (ticket : Nat)
    (request : Request) :
    Lingers connection [(ticket, request)] [] (connection.step (.submit ticket request)).2
      (connection.step (.submit ticket request)).1 := by
  cases packed : request.encode with
  | error cause => simpa [step, submit, packed] using Lingers.unpacked ticket request cause packed
  | ok payload =>
    rcases phase_of_isOver finished with closing | stopped
    · simpa [step, submit, packed, closing] using
        Lingers.accept ticket request payload closing packed
    · simpa [step, submit, packed, stopped] using Lingers.turnAway ticket request payload packed

/-- A connection that is over does nothing but refuse. -/
theorem step_lingers (finished : connection.phase.isOver = true) (event : Event) :
    Lingers connection (connection.notes event).submitted (connection.notes event).received
      (connection.step event).2 (connection.step event).1 := by
  have phases := phase_of_isOver finished
  cases event with
  | submit ticket request => exact lingers_submit finished ticket request
  | receive bytes =>
    by_cases ended : connection.ending.isSome = true
    · simpa [step, notes, ended] using Lingers.still
    · simpa [step, notes, ended] using Lingers.receive bytes
  | hangUp ending => exact .hangUp _
  | drain =>
    rcases phases with closing | stopped
    · simpa [step, notes, closing, Connection.drain] using Lingers.drain
    · simpa [step, notes, stopped] using Lingers.still
  | opened delivery | unreachable fault | take delivery | poll =>
    rcases phases with phase | phase <;> simpa [step, notes, phase] using Lingers.still

theorem messages_over (finished : connection.phase.isOver = true) (event : Event) :
    (connection.notes event).messages = [] := by
  rcases phase_of_isOver finished with phase | phase <;> cases event <;> simp [notes, phase]

end Steps

/-- What a connection does with its time from here on, if all that it does is to refuse. -/
structure Refuses (connection : Connection) (more : List Event) : Prop where
  /-- what was published is not changed any more -/
  status : (connection.run more).1.status = connection.status
  /-- bytes that arrive stay where they are -/
  unread : (connection.run more).1.incoming =
    connection.incoming ++ collect Notes.received (connection.journal more)
  gathered : (connection.run more).1.gathered = connection.gathered
  unheard : collect Notes.messages (connection.journal more) = []
  /-- nothing is written or published, and whoever is answered is refused -/
  refusals : ∀ effect ∈ (connection.run more).2, ∃ ticket fault,
    effect = .answer ticket (.error fault) ∧ (fault.kind = .connectionClosed ∨
      ∃ request cause, (ticket, request) ∈ collect Notes.submitted (connection.journal more) ∧
        request.encode = .error cause ∧ fault = .codec cause)
  /-- whatever waited or could be packed is told that the connection is closed, or waits -/
  settled : (closedOf (answersOf (connection.run more).2) ++
      (connection.run more).1.queue.map Queued.ticket).Perm
    (connection.queue.map Queued.ticket ++
      packedOf (collect Notes.submitted (connection.journal more)))
  /-- while anything waits, refusing it is what the connection does next -/
  next : (connection.run more).1.queue ≠ [] →
    ∀ delivery, (connection.run more).1.nextEvent? delivery = some .drain
  emptied : ((connection.run more).1.step .drain).1.queue = []

namespace Lingers

variable {connection after : Connection} {submitted : List (Nat × Request)} {received : Bytes}
  {effects : List Effect}

theorem keeps (lingers : Lingers connection submitted received effects after) :
    after.status = connection.status ∧ after.gathered = connection.gathered ∧
      after.incoming = connection.incoming ++ received := by
  cases lingers <;> simp

/-- A connection that is over stays so, and one that has stopped has nothing left. -/
theorem stays (lingers : Lingers connection submitted received effects after)
    (finished : connection.phase.isOver = true)
    (empty : connection.phase = .stopped → connection.queue = []) :
    after.phase.isOver = true ∧ (after.phase = .stopped → after.queue = []) := by
  cases lingers with
  | accept ticket request payload closing =>
    exact ⟨finished, fun stopped => absurd (closing.symm.trans stopped) nofun⟩
  | drain => exact ⟨rfl, fun _ => rfl⟩
  | _ => exact ⟨finished, empty⟩

theorem refusals (lingers : Lingers connection submitted received effects after) :
    ∀ effect ∈ effects, ∃ ticket fault,
      effect = .answer ticket (.error fault) ∧ (fault.kind = .connectionClosed ∨
        ∃ request cause, (ticket, request) ∈ submitted ∧ request.encode = .error cause ∧
          fault = .codec cause) := by
  intro effect member
  cases lingers with
  | still | receive | hangUp | accept => cases member
  | unpacked ticket request cause unpacked =>
    rw [List.mem_singleton.1 member]
    exact ⟨ticket, _, rfl, .inr ⟨request, cause, List.mem_singleton.2 rfl, unpacked, rfl⟩⟩
  | turnAway ticket =>
    rw [List.mem_singleton.1 member]
    exact ⟨ticket, _, rfl, .inl rfl⟩
  | drain =>
    obtain ⟨queued, -, rfl⟩ := List.mem_map.1 member
    exact ⟨queued.ticket, _, rfl, .inl rfl⟩

theorem closedOf_drained (queue : List Queued) :
    closedOf (answersOf (queue.map fun queued => .answer queued.ticket (.error .shutDown))) =
      queue.map Queued.ticket := by
  induction queue with
  | nil => rfl
  | cons queued rest ih => exact congrArg (queued.ticket :: ·) ih

theorem settled (lingers : Lingers connection submitted received effects after) :
    (closedOf (answersOf effects) ++ after.queue.map Queued.ticket).Perm
      (connection.queue.map Queued.ticket ++ packedOf submitted) := by
  cases lingers with
  | still | receive | hangUp => rw [packedOf, List.filterMap_nil, List.append_nil]; exact .refl _
  | unpacked ticket request cause unpacked =>
    have none : packedOf [(ticket, request)] = [] := by
      simp [packedOf, unpacked, Except.toOption]
    rw [none, List.append_nil]
    exact .refl _
  | accept ticket request payload closing packed =>
    have one : packedOf [(ticket, request)] = [ticket] := by
      simp [packedOf, packed, Except.toOption]
    rw [one, List.map_append]
    exact .refl _
  | turnAway ticket request payload packed =>
    have one : packedOf [(ticket, request)] = [ticket] := by
      simp [packedOf, packed, Except.toOption]
    rw [one]
    exact (List.perm_append_singleton ticket _).symm
  | drain =>
    rw [closedOf_drained]
    exact .refl _

end Lingers

theorem Refuses.nil {connection : Connection} (finished : connection.phase.isOver = true)
    (empty : connection.phase = .stopped → connection.queue = []) : Refuses connection [] := by
  refine ⟨rfl, (List.append_nil _).symm, rfl, rfl, fun _ member => ?_, ?_,
    fun someone delivery => ?_, ?_⟩
  · exact absurd member List.not_mem_nil
  · exact .of_eq (List.append_nil _).symm
  · rcases phase_of_isOver finished with closing | stopped
    · show connection.nextEvent? delivery = _
      simp only [nextEvent?, closing]
    · exact absurd (empty stopped) someone
  · show (connection.step .drain).1.queue = []
    rcases phase_of_isOver finished with closing | stopped
    · simp only [step, closing, if_true, Connection.drain]
    · simpa [step, stopped] using empty stopped

/-- Whatever happens to a connection that is over, it only refuses. -/
theorem refuses {connection : Connection} (finished : connection.phase.isOver = true)
    (empty : connection.phase = .stopped → connection.queue = []) (more : List Event) :
    Refuses connection more := by
  induction more generalizing connection with
  | nil => exact .nil finished empty
  | cons event rest ih =>
    have lingers := step_lingers finished event
    obtain ⟨finishedLater, emptyLater⟩ := lingers.stays finished empty
    have later := ih finishedLater emptyLater
    obtain ⟨status, gathered, incoming⟩ := lingers.keeps
    constructor
    case status => exact later.status.trans status
    case unread =>
      have arrives := later.unread
      rw [incoming, List.append_assoc] at arrives
      exact arrives
    case gathered => exact later.gathered.trans gathered
    case unheard => exact List.append_eq_nil_iff.2 ⟨messages_over finished event, later.unheard⟩
    case refusals =>
      intro effect member
      rcases List.mem_append.1 member with here | there
      · obtain ⟨ticket, fault, same, closed | ⟨request, cause, asked, why⟩⟩ :=
          lingers.refusals effect here
        · exact ⟨ticket, fault, same, .inl closed⟩
        · exact ⟨ticket, fault, same, .inr ⟨request, cause, List.mem_append_left _ asked, why⟩⟩
      · obtain ⟨ticket, fault, same, closed | ⟨request, cause, asked, why⟩⟩ :=
          later.refusals effect there
        · exact ⟨ticket, fault, same, .inl closed⟩
        · exact ⟨ticket, fault, same, .inr ⟨request, cause, List.mem_append_right _ asked, why⟩⟩
    case settled =>
      -- What this step leaves in the queue is settled by the steps that come later.
      have here := lingers.settled.append_right
        (packedOf (collect Notes.submitted ((connection.step event).1.journal rest)))
      have first := later.settled.append_left (closedOf (answersOf (connection.step event).2))
      rw [List.append_assoc, List.append_assoc, ← packedOf_append] at here
      rw [← List.append_assoc, ← closedOf_append, ← answersOf_append] at first
      exact first.trans here
    case next => exact later.next
    case emptied => exact later.emptied

end BoltClient.Connection
