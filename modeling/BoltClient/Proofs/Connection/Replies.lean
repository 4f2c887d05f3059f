import Mathlib.Data.List.Perm.Basic
import BoltClient.Proofs.Connection.Progress
import BoltClient.Proofs.Connection.Publishing
import BoltClient.Proofs.Connection.Service

/-!
Every request is answered once. Those that are put into the queue are answered
in their order, and whoever is answered finds the state published to which the
summaries have led. Only a peer that keeps silent keeps a request waiting.
-/

namespace BoltClient.Connection

/-- The tickets that are still to be answered, the request in flight first. -/
def waiting (connection : Connection) : List Nat :=
  connection.phase.inFlight.map Prod.fst ++ connection.queue.map Queued.ticket

/-- The requests of the queue are answered in order. -/
theorem Ordered.replies_eq {journal : Journal} {connection : Connection}
    (ordered : Ordered journal connection) :
    (collect Notes.accepted journal).map Queued.ticket =
      (collect Notes.replies journal).map Prod.fst ++ connection.waiting := by
  have left := ordered.answered
  rw [ordered.queue, waiting, List.map_append, List.map_append, List.map_map, ← List.append_assoc,
    ← List.append_assoc, ← left]
  rfl

/-- What was submitted is answered once, or it still waits. -/
theorem Ordered.submitted_perm {journal : Journal} {connection : Connection}
    (ordered : Ordered journal connection) :
    ((collect Notes.submitted journal).map Prod.fst).Perm
      ((collect (fun seen => seen.refused ++ seen.replies) journal).map Prod.fst ++
        connection.waiting) := by
  have parts : (collect Notes.refused journal ++ collect Notes.replies journal).Perm
      (collect (fun seen => seen.refused ++ seen.replies) journal) :=
    List.flatMap_append_perm ..
  have tickets := parts.map Prod.fst
  rw [List.map_append] at tickets
  refine ordered.submitted.trans ?_
  rw [ordered.replies_eq, ← List.append_assoc]
  exact tickets.append_right _

/-- The state to which the summaries have led, or that of a connection that was let down. -/
def expected (journal : Journal) : ServerState :=
  if ever Notes.mishap journal then .defunct else stateAfter (collect Notes.heard journal)

theorem tracked_of_agreed {journal : Journal} (agreed : ever Notes.agreed journal = true) :
    tracked journal = expected journal := by
  simp [tracked, expected, agreed]

theorem tracked_of_mishap {journal : Journal} (mishap : ever Notes.mishap journal = true) :
    tracked journal = expected journal := by
  simp [tracked, expected, mishap]

/-- Before a version is agreed on only what cannot be packed is answered. -/
theorem Reached.state_of_answer {versions : List Version} {journal : Journal}
    {connection : Connection} (reached : Reached versions journal connection) {event : Event}
    {ticket : Nat} {outcome : Outcome}
    (given : (ticket, outcome) ∈ answersOf (connection.step event).2) :
    (connection.step event).1.state = expected (journal ++ [connection.notes event]) ∨
    (connection.step event).1.state = .disconnected ∧
      ever Notes.agreed (journal ++ [connection.notes event]) = false ∧
      ∃ request fault, event = .submit ticket request ∧ request.encode = .error fault := by
  have state := (reached.step event).state_eq
  have before := reached.tracked
  rw [answersOf_step] at given
  cases mishap : ever Notes.mishap (journal ++ [connection.notes event]) with
  | true => exact .inl (state.trans (tracked_of_mishap mishap))
  | false =>
    cases agreed : ever Notes.agreed (journal ++ [connection.notes event]) with
    | true => exact .inl (state.trans (tracked_of_agreed agreed))
    | false =>
      right
      refine ⟨by rw [state, Connection.tracked, mishap, agreed]; rfl, rfl, ?_⟩
      rw [ever_concat, Bool.or_eq_false_iff] at mishap agreed
      have early : connection.phase.isRunning = false ∧ connection.phase.isOver = false := by
        constructor
        · refine Bool.eq_false_iff.2 fun running => ?_
          have begun := (before.running running).2.2.1
          rw [agreed.1] at begun
          cases begun
        · refine Bool.eq_false_iff.2 fun closed => ?_
          rcases (before.closed closed).2 with broken | ⟨begun, -⟩
          · rw [mishap.1] at broken
            cases broken
          · rw [agreed.1] at begun
            cases begun
      have rule := step_stride connection event
      generalize connection.notes event = seen at rule given
      generalize (connection.step event).1 = after at rule
      cases rule with
      | refuse _ request fault cause =>
        rcases cause with ⟨reason, unpacked⟩ | stopped
        · obtain ⟨rfl, -⟩ : ticket = _ ∧ outcome = _ := by simpa using given
          exact ⟨request, reason, rfl, unpacked⟩
        · simp [stopped] at early
      | still | accept | receive | hangUp | unopened | greet | disagree | agree | glance | desert
      | record => simp at given
      | forbid watching next rest delivery phase | send watching next rest phase
      | cut watching next rest count fault phase | lose ticket kind ending phase
      | spoil ticket kind payload rest fault phase | stray ticket kind payload rest summary phase
      | conclude ticket kind payload rest summary next phase | drain phase =>
        simp [phase] at early

/-- What is published when an answer is given is what its step leads to. -/
theorem published_at_answer {versions : List Version} {events : List Event} {event : Event}
    {before later : List Effect} {ticket : Nat} {outcome : Outcome}
    (gives : (((start versions).run events).1.step event).2 =
      before ++ .answer ticket outcome :: later) :
    published (start versions).status (((start versions).run events).2 ++ before) =
      (((start versions).run events).1.step event).1.status := by
  have announces := ((start versions).run events).1.step_announces event
  rw [gives] at announces
  rw [published_append, published_run]
  exact announces.published_before

/-- In every run each request is answered once or still waits, and those that were
accepted are answered in their order. When an answer is given the state that was
published last is the one to which the summaries for the requests written so far
have led; only what cannot be packed is answered before there is such a state. A
connection that is left to itself answers all that it has accepted, unless it has
to wait for its peer. -/
theorem answers_once_in_order (versions : List Version) (events : List Event) :
    let connection := ((start versions).run events).1
    let journal := (start versions).journal events
    ((collect Notes.submitted journal).map Prod.fst).Perm
      ((answersOf ((start versions).run events).2).map Prod.fst ++ connection.waiting) ∧
    (collect Notes.accepted journal).map Queued.ticket =
      (collect Notes.replies journal).map Prod.fst ++ connection.waiting ∧
    (∀ event before ticket outcome later,
      (connection.step event).2 = before ++ .answer ticket outcome :: later →
        let known := published (start versions).status (((start versions).run events).2 ++ before)
        known.state = expected (journal ++ [connection.notes event]) ∨
        known.state = .disconnected ∧
          ever Notes.agreed (journal ++ [connection.notes event]) = false ∧
          ∃ request fault, event = .submit ticket request ∧ request.encode = .error fault) ∧
    (collect Notes.heard journal).map Prod.fst <+:
      (log journal).map (·.request.kind) ∧
    ∀ deliveries : List Delivery, connection.work ≤ deliveries.length →
      let rested := (connection.run (connection.proceed deliveries)).1
      rested.awaitsPeer = true ∨ rested.waiting = [] := by
  intro connection journal
  have reached : Reached versions journal connection := reached_run versions events
  refine ⟨?_, reached.ordered.replies_eq, ?_, reached.served.heard_prefix reached.tracked, ?_⟩
  · rw [answersOf_run]
    exact reached.ordered.submitted_perm
  · intro event before ticket outcome later gives
    have given : (ticket, outcome) ∈ answersOf (connection.step event).2 := by
      rw [gives, answersOf_append]
      exact List.mem_append_right _ (List.mem_cons_self ..)
    have known := published_at_answer gives
    simp only [known]
    exact reached.state_of_answer given
  · intro deliveries enough rested
    have rests := proceed_rests enough .whole
    have later := reached.append (connection.proceed deliveries)
    rcases later.awaitsPeer_or_done rests with awaits | ⟨free, empty⟩
    · exact .inl awaits
    · right
      show rested.waiting = []
      rw [waiting, free, empty]
      rfl

/-- A parameter with more fields than a structure can have is not packed. -/
theorem encode_oversized {fields : List Value} (many : 65535 < fields.length) :
    (Request.run "RETURN $p" [("p", .struct 78 fields)] {}).encode =
      .error (.tooManyFields 78 fields.length) := by
  have header : Value.structHeader 78 fields.length = .error (.tooManyFields 78 fields.length) := by
    have small : ¬ fields.length ≤ 15 := by omega
    have one : ¬ fields.length ≤ HeaderScheme.capacity 1 := by
      simp only [HeaderScheme.capacity, Bytes.limit, maxCount]
      omega
    have two : ¬ fields.length ≤ HeaderScheme.capacity 2 := by
      simp only [HeaderScheme.capacity, Bytes.limit, maxCount]
      omega
    simp [Value.structHeader, Composite.scheme, HeaderScheme.write, small, one, two]
  have field : (Value.struct 78 fields).emit = ⟨[], some (.tooManyFields 78 fields.length)⟩ := by
    rw [Value.emit, header]
    rfl
  have parameters : Value.emitEntries [("p", .struct 78 fields)] =
      ⟨[0x81, 0x70], some (.tooManyFields 78 fields.length)⟩ := by
    rw [Value.emitEntries, field]
    rfl
  have map : (Value.map [("p", .struct 78 fields)]).emit =
      ⟨[0xA1, 0x81, 0x70], some (.tooManyFields 78 fields.length)⟩ := by
    rw [Value.emit, Value.emitSized, parameters]
    rfl
  show Value.encode (.struct 0x10 [_, .map [("p", .struct 78 fields)], _]) = _
  rw [Value.encode, Value.emit, Value.emitItems, Value.emitItems, map]
  rfl

/-- A request that cannot be packed is answered before anything is known of the server,
and a server that does not answer the handshake keeps the next request waiting. -/
theorem refused_before_agreement {request : Request} {fault : CodecFault}
    (unpacked : request.encode = .error fault) :
    let first := (start [.current]).run [.submit 0 request]
    let second := first.1.run [.submit 1 .reset, .opened .whole]
    answersOf first.2 = [(0, .error (.codec fault))] ∧
    first.1.state = .disconnected ∧
    expected ((start [.current]).journal [.submit 0 request]) = .negotiation ∧
    answersOf second.2 = [] ∧ second.1.waiting = [1] ∧
    ∀ delivery, second.1.nextEvent? delivery = none := by
  intro first second
  have refused : (start [.current]).step (.submit 0 request) =
      (start [.current], [.answer 0 (.error (.codec fault))]) := by
    simp [step, submit, unpacked]
  have begun : first = (start [.current], [.answer 0 (.error (.codec fault))]) := by
    simp only [first, run, refused, List.append_nil]
  have silent : second = (start [.current]).run [.submit 1 .reset, .opened .whole] := by
    simp only [second, begun]
  rw [begun, silent]
  refine ⟨rfl, rfl, ?_, rfl, rfl, fun _ => rfl⟩
  simp [expected, journal, refused, notes, mishap, stateAfter, collect, ever]

theorem unpacked_before_agreement :
    let request := Request.run "RETURN $p" [("p", .struct 78 (List.replicate 65536 .null))] {}
    let first := (start [.current]).run [.submit 0 request]
    let second := first.1.run [.submit 1 .reset, .opened .whole]
    answersOf first.2 = [(0, .error (.codec (.tooManyFields 78 65536)))] ∧
    first.1.state = .disconnected ∧
    expected ((start [.current]).journal [.submit 0 request]) = .negotiation ∧
    answersOf second.2 = [] ∧ second.1.waiting = [1] ∧
    ∀ delivery, second.1.nextEvent? delivery = none := by
  intro request
  have many : 65535 < (List.replicate 65536 Value.null).length := by
    rw [List.length_replicate]
    omega
  have unpacked := encode_oversized many
  rw [List.length_replicate] at unpacked
  exact refused_before_agreement unpacked

end BoltClient.Connection
