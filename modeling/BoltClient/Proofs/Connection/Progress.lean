import BoltClient.Proofs.Connection.Order
import BoltClient.Proofs.Wire.Stream

/-!
A connection comes to rest. Each step that it takes by itself leaves it less to
do, so it soon waits; and when it waits, either nothing is left of what it has
accepted, or the other side has to move.
-/

namespace BoltClient.Connection

/-- What may still be done in a phase, besides reading and serving. -/
def Phase.weight : Phase → Nat
  | connecting => 5
  | negotiating | serving .. => 4
  | idle true => 3
  | idle false => 2
  | closing => 1
  | stopped => 0

/-- What is left to do for a connection by itself. -/
def work (connection : Connection) : Nat :=
  3 * connection.queue.length + connection.incoming.length + connection.phase.weight

/-- Whether a connection waits for its stream to be opened, or for bytes of an answer. -/
def awaitsPeer (connection : Connection) : Bool :=
  match connection.phase with
  | .connecting => true
  | .negotiating =>
    connection.ending.isNone && (Handshake.readAnswer? connection.incoming).isNone
  | .serving .. => connection.ending.isNone && (Framing.readMessage connection.incoming).isNone
  | _ => false

/-- Each step that a connection takes by itself leaves it less to do. -/
theorem work_step_lt {connection : Connection} {delivery : Delivery} {event : Event}
    (moves : connection.nextEvent? delivery = some event) :
    (connection.step event).1.work < connection.work := by
  have rule := step_stride connection event
  generalize connection.notes event = seen at rule
  generalize (connection.step event).1 = after at rule
  unfold work
  cases rule with
  | still _ idle => exact absurd moves (idle delivery)
  | refuse | accept | receive | hangUp | greet => simpa using own_of_nextEvent? moves
  | unopened _ phase => simp [nextEvent?, phase] at moves
  | disagree phase | glance phase | desert phase | lose ticket kind ending phase =>
    simp [phase, Phase.weight]
  | agree version rest phase answer =>
    obtain ⟨reply, width, incoming⟩ := Handshake.eq_append_of_readAnswer? answer
    simp only [phase, incoming, List.length_append, Phase.weight]
    omega
  | forbid watching next rest _ phase queue | send watching next rest phase queue =>
    cases watching <;> simp only [phase, queue, List.length_cons, Phase.weight] <;> omega
  | cut watching next rest count fault phase queue =>
    cases watching <;>
      simp only [phase_close, queue_close, incoming_close, phase, queue, List.length_cons,
        Phase.weight] <;> omega
  | spoil ticket kind payload rest fault phase found
  | stray ticket kind payload rest summary phase found =>
    have shorter := Framing.length_of_readFrom found
    simp only [phase_close, queue_close, incoming_close, phase, Phase.weight]
    omega
  | record ticket kind payload rest fields phase found =>
    have shorter := Framing.length_of_readFrom found
    simp only [phase, Phase.weight]
    omega
  | conclude ticket kind payload rest summary next phase found =>
    have shorter := Framing.length_of_readFrom found
    have before : connection.phase.weight = 4 := congrArg Phase.weight phase
    have less : (if next.isTerminal then Phase.closing else .idle true).weight ≤ 3 := by
      split <;> decide
    simp only [queue_setState]
    omega
  | drain phase =>
    simp only [phase, List.length_nil, Phase.weight]
    omega

/-- The steps that a connection takes by itself, with how much of each request arrives. -/
def proceed (connection : Connection) : List Delivery → List Event
  | [] => []
  | delivery :: rest =>
    match connection.nextEvent? delivery with
    | none => []
    | some event => event :: (connection.step event).1.proceed rest

/-- Whether a connection has to wait does not depend on what the stream takes. -/
theorem nextEvent?_none {connection : Connection} {delivery : Delivery}
    (rests : connection.nextEvent? delivery = none) (other : Delivery) :
    connection.nextEvent? other = none := by
  unfold nextEvent? at rests ⊢
  grind

/-- A connection comes to rest after as many steps as it has work. -/
theorem proceed_rests {connection : Connection} {deliveries : List Delivery}
    (enough : connection.work ≤ deliveries.length) (delivery : Delivery) :
    (connection.run (connection.proceed deliveries)).1.nextEvent? delivery = none := by
  induction deliveries generalizing connection with
  | nil =>
    cases moves : connection.nextEvent? delivery with
    | none => exact moves
    | some event =>
      have less := work_step_lt moves
      rw [List.length_nil] at enough
      omega
  | cons first rest ih =>
    unfold proceed
    cases moves : connection.nextEvent? first with
    | none => exact nextEvent?_none moves delivery
    | some event =>
      have less := work_step_lt moves
      rw [List.length_cons] at enough
      have fewer : (connection.step event).1.work ≤ rest.length := by omega
      exact ih fewer

/-- A connection at rest waits for its peer, or nothing is left of what it has accepted. -/
theorem Reached.awaitsPeer_or_done {versions : List Version} {journal : Journal}
    {connection : Connection} {delivery : Delivery}
    (reached : Reached versions journal connection)
    (rests : connection.nextEvent? delivery = none) :
    connection.awaitsPeer = true ∨ connection.phase.inFlight = [] ∧ connection.queue = [] := by
  unfold awaitsPeer
  unfold nextEvent? at rests
  cases phase : connection.phase with
  | connecting => exact .inl rfl
  | negotiating | serving ticket kind =>
    left
    simpa [phase] using rests
  | idle watching =>
    right
    by_cases empty : connection.queue = []
    · exact ⟨rfl, empty⟩
    · simp [phase, empty] at rests
  | closing => simp [phase] at rests
  | stopped => exact .inr ⟨rfl, reached.ordered.stopped phase⟩

end BoltClient.Connection
