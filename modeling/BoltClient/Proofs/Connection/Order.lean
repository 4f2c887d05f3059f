import BoltClient.Proofs.Connection.Stride

/-!
Requests and their answers. A request that is accepted waits in the queue, has
its turn and is answered, or it waits until all that is left is refused together.
Nothing is lost on the way, nothing is answered twice, and the order is kept.
-/

namespace BoltClient.Connection

/-- Where the accepted requests are, in the order in which they were accepted. -/
structure Ordered (journal : Journal) (connection : Connection) : Prop where
  /-- those that have left the queue had a turn or were refused at the end -/
  queue : collect Notes.accepted journal =
    (collect Notes.turns journal).map Turn.request ++
      (collect Notes.drained journal ++ connection.queue)
  /-- those that have left the queue are answered, except the one in flight -/
  answered : (collect Notes.turns journal).map (·.request.ticket) ++
      (collect Notes.drained journal).map Queued.ticket =
    (collect Notes.replies journal).map Prod.fst ++ connection.phase.inFlight.map Prod.fst
  going : connection.phase ≠ .stopped → collect Notes.drained journal = []
  stopped : connection.phase = .stopped → connection.queue = []
  /-- what is not accepted is answered at once -/
  submitted : ((collect Notes.submitted journal).map Prod.fst).Perm
    ((collect Notes.refused journal).map Prod.fst ++
      (collect Notes.accepted journal).map Queued.ticket)

theorem Reached.ordered {versions : List Version} {journal : Journal} {connection : Connection}
    (reached : Reached versions journal connection) : Ordered journal connection := by
  refine Reached.keeps Ordered ?_ ?_ reached
  · constructor <;> simp [Connection.start, Phase.inFlight]
  · intro journal connection after event seen _ before rule
    obtain ⟨queue, answered, going, stopped, submitted⟩ := before
    cases rule with
    | still | receive | hangUp | record => constructor <;> simpa
    | refuse ticket request fault =>
      refine ⟨by simpa, by simpa, by simpa, stopped, ?_⟩
      simp only [collect_concat, List.map_append, List.map_cons, List.map_nil, List.append_nil,
        List.append_assoc]
      exact (submitted.append_right _).trans
        (by rw [List.append_assoc]; exact List.perm_append_comm.append_left _)
    | accept ticket request payload packed going' =>
      refine ⟨by simp [queue], by simpa, by simpa, fun phase => absurd phase going', ?_⟩
      simp only [collect_concat, List.map_append, List.map_cons, List.map_nil, List.append_nil]
      rw [← List.append_assoc]
      exact submitted.append_right _
    | unopened event phase | disagree phase | desert phase | greet greeting phase
    | agree version rest phase | glance phase =>
      rw [phase] at answered going
      exact ⟨by simpa, by simpa using answered, fun _ => by simpa using going, by simp, by simpa⟩
    | forbid watching next rest delivery phase waiting | send watching next rest phase waiting
    | cut watching next rest count fault phase waiting =>
      rw [phase] at answered going
      have none := going (by simp)
      exact ⟨by simp [queue, waiting, none], by simpa [none] using answered, by simp [none],
        by simp, by simpa⟩
    | lose ticket kind ending phase | spoil ticket kind payload rest fault phase
    | stray ticket kind payload rest summary phase =>
      rw [phase] at answered going
      exact ⟨by simpa, by simpa using answered, fun _ => by simpa using going, by simp, by simpa⟩
    | conclude ticket kind payload rest summary next phase =>
      rw [phase] at answered going
      cases terminal : next.isTerminal <;>
        exact ⟨by simpa, by simpa [terminal] using answered, fun _ => by simpa using going,
          by simp, by simpa⟩
    | drain phase =>
      rw [phase] at answered going
      have none := going (by simp)
      exact ⟨by simp [queue, none], by simpa [none, Function.comp_def] using answered, by simp,
        by simp, by simpa⟩

end BoltClient.Connection
