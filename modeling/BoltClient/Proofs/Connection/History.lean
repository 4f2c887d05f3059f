import BoltClient.Proofs.Connection.WireLog
import BoltClient.Proofs.Connection.Attribution
import BoltClient.Proofs.Protocol.Transitions

/-!
The history of a connection, as requests with their summaries. While a connection is in use its
history is a conversation: each request was allowed where the summaries before it had led, and
its own summary led on from there. What is known of conversations, by induction over their
exchanges, is thus known of every run; and each request that is written was submitted, and
comes at the end of such a history.
-/

namespace BoltClient.Connection

abbrev History := List (Request.Kind × Summary)

/-- That a request of this kind was answered SUCCESS. -/
def Succeeded (kind : Request.Kind) (exchange : Request.Kind × Summary) : Prop :=
  exchange.1 = kind ∧ exchange.2.isSuccess = true

/-- A mark in a history with one more exchange is that exchange, or stands before it. -/
theorem concat_eq_append_cons {α : Type} {history before after : List α} {last mark : α}
    (shape : history ++ [last] = before ++ mark :: after) :
    after = [] ∧ mark = last ∧ history = before ∨
      ∃ inside, after = inside ++ [last] ∧ history = before ++ mark :: inside := by
  rcases List.eq_nil_or_concat after with rfl | ⟨inside, final, rfl⟩
  · obtain ⟨same, ends⟩ := List.append_inj' shape rfl
    exact .inl ⟨rfl, (List.singleton_inj.1 ends).symm, same⟩
  · rw [List.concat_eq_append, ← List.cons_append, ← List.append_assoc] at shape
    obtain ⟨same, ends⟩ := List.append_inj' shape rfl
    rw [List.concat_eq_append, List.singleton_inj.1 ends]
    exact .inr ⟨inside, rfl, same⟩

/-- The conversations that the protocol knows, with the states to which they lead. -/
inductive Conversed : History → ServerState → Prop where
  | start : Conversed [] .negotiation
  | step {history : History} {state next : ServerState} {kind : Request.Kind} {summary : Summary}
    (before : Conversed history state) (allowed : kind.isAllowed state = true)
    (leads : kind.nextState state summary = some next) :
    Conversed (history ++ [(kind, summary)]) next

/-- While a connection is in use its history leads to the state that it publishes. -/
theorem Reached.conversed {versions : List Version} {journal : Journal} {connection : Connection}
    (reached : Reached versions journal connection) :
    connection.phase.isRunning = true →
      Conversed (collect Notes.heard journal) connection.state := by
  refine Reached.keeps (fun journal connection => connection.phase.isRunning = true →
    Conversed (collect Notes.heard journal) connection.state) ?_ ?_ reached
  · intro running
    cases running
  · intro journal connection after event seen reached before rule
    cases rule with
    | still | refuse | accept | receive | hangUp | record => simpa using before
    | unopened | greet | disagree | desert | cut | lose | spoil | stray | drain => simp
    | agree version rest phase =>
      have silent := (reached.tracked.opening (by simp [phase])).2.2.2
      intro _
      simpa [silent] using Conversed.start
    | glance phase | forbid _ _ _ _ phase | send _ _ _ phase =>
      intro _
      simpa using before (by simp [phase])
    | conclude ticket kind payload rest summary next phase found message leads =>
      intro _
      have allowed := reached.replayed.flying ticket kind phase
      simpa using (before (by simp [phase])).step allowed leads

/-- A request has its turn while the connection is in use. -/
theorem running_of_turn {connection : Connection} {event : Event} {turn : Turn}
    (comes : turn ∈ (connection.notes event).turns) :
    connection.phase.isRunning = true ∧ turn.request ∈ connection.queue ∧
      turn.state = connection.state := by
  have rule := step_stride connection event
  generalize connection.notes event = seen at rule comes
  generalize (connection.step event).1 = after at rule
  cases rule with
  | forbid watching next rest delivery phase queue | send watching next rest phase queue
  | cut watching next rest count fault phase queue =>
    rw [List.mem_singleton] at comes
    rw [comes, phase, queue]
    exact ⟨rfl, List.mem_cons_self, rfl⟩
  | _ => cases comes

/-- What is put into the queue stands for the request as it was submitted. -/
theorem of_packed? {submission : Nat × Request} {queued : Queued}
    (packed : packed? submission = some queued) :
    queued.ticket = submission.1 ∧ queued.kind = submission.2.kind ∧
      submission.2.encode = .ok queued.payload := by
  unfold packed? at packed
  split at packed
  · next payload encoded =>
    rw [← Option.some.inj packed]
    exact ⟨rfl, rfl, encoded⟩
  · cases packed

/-- A request that has its turn was submitted, and waits with its own bytes. -/
theorem Reached.submitted_of_turn {versions : List Version} {journal : Journal}
    {connection : Connection} (reached : Reached versions journal connection) {event : Event}
    {turn : Turn} (comes : turn ∈ (connection.notes event).turns) :
    ∃ request, (turn.request.ticket, request) ∈ collect Notes.submitted journal ∧
      request.encode = .ok turn.request.payload ∧ turn.request.kind = request.kind := by
  have waiting := (running_of_turn comes).2.1
  have accepted : turn.request ∈ collect Notes.accepted journal := by
    rw [reached.ordered.queue]
    exact List.mem_append_right _ (List.mem_append_right _ waiting)
  obtain ⟨submission, submitted, packed⟩ :=
    List.mem_filterMap.1 (reached.admitted.inOrder.subset accepted)
  obtain ⟨ticket, kind, encoded⟩ := of_packed? packed
  rw [ticket]
  exact ⟨submission.2, submitted, encoded, kind⟩

/-- Bytes are written for the handshake, or for one request that has its turn and is allowed. -/
theorem sent_of_step {connection : Connection} {event : Event}
    (sends : bytesOf (connection.step event).2 ≠ []) :
    (∃ greeting, Handshake.request connection.versions = .ok greeting ∧
      bytesOf (connection.step event).2 <+: greeting) ∨
    ∃ turn, turn ∈ (connection.notes event).turns ∧ turn.isAllowed = true ∧
      bytesOf (connection.step event).2 = turn.bytes := by
  change (connection.notes event).sent ≠ [] at sends
  change (∃ greeting, _ ∧ (connection.notes event).sent <+: greeting) ∨
    ∃ turn : Turn, _ ∧ _ ∧ (connection.notes event).sent = turn.bytes
  have rule := step_stride connection event
  generalize connection.notes event = seen at rule sends
  generalize (connection.step event).1 = after at rule
  cases rule with
  | unopened _ _ sent part =>
    rcases part with none | ⟨greeting, count, request, rfl⟩
    · exact absurd none sends
    · exact .inl ⟨greeting, request, List.take_prefix ..⟩
  | greet greeting _ request => exact .inl ⟨greeting, request, List.prefix_rfl⟩
  | send watching next rest phase queue allowed =>
    exact .inr ⟨_, List.mem_singleton_self _, allowed, rfl⟩
  | cut watching next rest count fault phase queue allowed =>
    exact .inr ⟨_, List.mem_singleton_self _, allowed, rfl⟩
  | _ => exact absurd rfl sends

/-- A request that is not allowed when its turn comes is refused as forbidden. -/
theorem refused_of_turn {connection : Connection} {event : Event} {turn : Turn}
    (comes : turn ∈ (connection.notes event).turns) (barred : turn.isAllowed = false) :
    answersOf (connection.step event).2 =
      [(turn.request.ticket, .error (.forbidden turn.request.kind.name connection.state))] := by
  rw [answersOf_step]
  have rule := step_stride connection event
  generalize connection.notes event = seen at rule comes ⊢
  generalize (connection.step event).1 = after at rule
  cases rule with
  | forbid watching next rest delivery phase queue =>
    obtain rfl := List.mem_singleton.1 comes
    rfl
  | send watching next rest phase queue allowed
  | cut watching next rest count fault phase queue allowed =>
    obtain rfl := List.mem_singleton.1 comes
    cases barred.symm.trans allowed
  | _ => cases comes

/-- A request that is allowed when its turn comes is written, and not refused as forbidden. -/
theorem written_of_turn {connection : Connection} {event : Event} {turn : Turn}
    (comes : turn ∈ (connection.notes event).turns) (allowed : turn.isAllowed = true) :
    bytesOf (connection.step event).2 = turn.bytes ∧
      ∀ ticket fault, (ticket, .error fault) ∈ answersOf (connection.step event).2 →
        fault.kind ≠ .forbidden := by
  rw [answersOf_step]
  change (connection.notes event).sent = turn.bytes ∧ _
  have rule := step_stride connection event
  generalize connection.notes event = seen at rule comes ⊢
  generalize (connection.step event).1 = after at rule
  cases rule with
  | forbid watching next rest delivery phase queue barred =>
    obtain rfl := List.mem_singleton.1 comes
    cases barred.symm.trans allowed
  | send watching next rest phase queue =>
    obtain rfl := List.mem_singleton.1 comes
    exact ⟨rfl, by simp⟩
  | cut watching next rest count fault phase queue =>
    obtain rfl := List.mem_singleton.1 comes
    refine ⟨rfl, ?_⟩
    intro ticket other given
    cases List.mem_singleton.1 given
    exact nofun
  | _ => cases comes

/-- The only turn of a step is known by what is seen of it. -/
theorem exists_turn {β : Type} {seen : Notes} {view : Turn → β} {result : β}
    (shown : seen.turns.map view = [result]) : ∃ turn ∈ seen.turns, view turn = result := by
  obtain ⟨turn, turns, same⟩ := List.map_eq_singleton_iff.1 shown
  exact ⟨turn, turns ▸ List.mem_singleton_self turn, same⟩

/-! Events for runs in which nothing is late: the stream is opened and a version agreed on, and
each request is written when its turn comes and answered with one message. -/

def opening : List Event := [.opened .whole, .receive [0, 0, 4, 5], .poll]

def answered (payload : Bytes) : List Event :=
  [.take .whole, .receive (Framing.frame payload), .poll]

end BoltClient.Connection
