import BoltClient.Proofs.Connection.Stride

/-!
The published state follows the summaries. While a connection is in use, what it
publishes is what the summaries received so far lead to, from the state after
the handshake on; after a mishap, or a summary that leads there, it is defunct.
-/

namespace BoltClient.Connection

/-- The state to which summaries lead, one after the other. -/
def stateAfter (heard : List (Request.Kind × Summary)) : ServerState :=
  heard.foldl (fun state (kind, summary) => (kind.nextState state summary).getD .defunct)
    .negotiation

@[simp] theorem stateAfter_concat (heard : List (Request.Kind × Summary)) (kind : Request.Kind)
    (summary : Summary) :
    stateAfter (heard ++ [(kind, summary)]) =
      (kind.nextState (stateAfter heard) summary).getD .defunct := by
  simp [stateAfter]

/-- The state that the journal says is published. -/
def tracked (journal : Journal) : ServerState :=
  if ever Notes.mishap journal then .defunct
  else if ever Notes.agreed journal then stateAfter (collect Notes.heard journal)
  else .start

/-- What is published in each part of a connection's life. -/
structure Tracked (journal : Journal) (connection : Connection) : Prop where
  opening : connection.phase.isOpening = true → connection.state = .start ∧
    ever Notes.mishap journal = false ∧ ever Notes.agreed journal = false ∧
    collect Notes.heard journal = []
  running : connection.phase.isRunning = true →
    connection.state = stateAfter (collect Notes.heard journal) ∧
    ever Notes.mishap journal = false ∧ ever Notes.agreed journal = true ∧
    connection.state.isTerminal = false
  closed : connection.phase.isOver = true → connection.state = .defunct ∧
    (ever Notes.mishap journal = true ∨
      ever Notes.agreed journal = true ∧ stateAfter (collect Notes.heard journal) = .defunct)

theorem Tracked.ne_defunct {journal : Journal} {connection : Connection}
    (tracked : Tracked journal connection) (running : connection.phase.isRunning = true) :
    connection.state ≠ .defunct :=
  of_decide_eq_false (tracked.running running).2.2.2

theorem Reached.tracked {versions : List Version} {journal : Journal} {connection : Connection}
    (reached : Reached versions journal connection) : Tracked journal connection := by
  refine Reached.keeps Tracked ?_ ?_ reached
  · constructor <;> simp [Connection.start, state]
  · intro journal connection after event seen _ before rule
    obtain ⟨opening, running, closed⟩ := before
    cases rule with
    | still | refuse | accept | receive | hangUp => exact ⟨by simpa, by simpa, by simpa⟩
    | unopened | disagree | desert | cut | lose | spoil | stray => constructor <;> simp
    | greet greeting phase =>
      have here := opening (by simp [phase])
      exact ⟨by simpa using here, by simp, by simp⟩
    | agree version rest phase =>
      have here := opening (by simp [phase])
      exact ⟨by simp, by simp [here, stateAfter, ServerState.isTerminal], by simp⟩
    | glance phase =>
      have here := running (by simp [phase])
      exact ⟨by simp, by simpa using here, by simp⟩
    | forbid watching next rest delivery phase =>
      have here := running (by simp [phase])
      exact ⟨by simp, by simpa using here, by simp⟩
    | send watching next rest phase =>
      have here := running (by simp [phase])
      exact ⟨by simp, by simpa using here, by simp⟩
    | record ticket kind payload rest fields phase =>
      have here := running (by simp [phase])
      exact ⟨by simp [phase], by simpa using fun _ => here, by simp [phase]⟩
    | conclude ticket kind payload rest summary next phase found message leads =>
      obtain ⟨same, sound, agreed, -⟩ := running (by simp [phase])
      have moved : stateAfter (collect Notes.heard journal ++ [(kind, summary)]) = next := by
        rw [stateAfter_concat, ← same, leads]
        rfl
      cases terminal : next.isTerminal with
      | false => exact ⟨by simp, by simp [moved, sound, agreed, terminal], by simp⟩
      | true =>
        have defunct : next = .defunct := of_decide_eq_true terminal
        exact ⟨by simp, by simp, by simp [agreed, moved, defunct]⟩
    | drain phase =>
      have here := closed (by simp [phase])
      exact ⟨by simp, by simp, by simpa using here⟩

/-- What is published is what the journal says. -/
theorem Reached.state_eq {versions : List Version} {journal : Journal} {connection : Connection}
    (reached : Reached versions journal connection) :
    connection.state = Connection.tracked journal := by
  obtain ⟨opening, running, closed⟩ := reached.tracked
  unfold Connection.tracked
  cases phase : connection.phase with
  | connecting | negotiating =>
    obtain ⟨start, sound, young, -⟩ := opening (by simp [phase])
    simp [start, sound, young]
  | idle watching | serving ticket kind =>
    obtain ⟨follows, sound, agreed, -⟩ := running (by simp [phase])
    simp [follows, sound, agreed]
  | closing | stopped =>
    obtain ⟨defunct, mishap | ⟨agreed, terminal⟩⟩ := closed (by simp [phase])
    · simp [defunct, mishap]
    · simp [defunct, agreed, terminal]

end BoltClient.Connection
