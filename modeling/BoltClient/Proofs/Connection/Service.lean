import BoltClient.Proofs.Connection.Tracking

/-!
Requests and summaries take turns. The next request is written when the summary
of the one before it has been heard, and only a request that was cut can be the
last one that was written.
-/

namespace BoltClient.Connection

/-- How the requests that were written and the summaries that were heard go together. -/
structure Served (journal : Journal) (connection : Connection) : Prop where
  opening : connection.phase.isOpening = true → log journal = []
  running : connection.phase.isRunning = true →
    (log journal).map (·.request.kind) =
      (collect Notes.heard journal).map Prod.fst ++ connection.phase.inFlight.map Prod.snd ∧
    ∀ turn ∈ log journal, turn.delivery = .whole
  closed : connection.phase.isOver = true →
    (collect Notes.heard journal).map Prod.fst <+:
      (log journal).map (·.request.kind) ∧
    ∀ turn ∈ (log journal).dropLast, turn.delivery = .whole
  awake : ∀ turn ∈ collect Notes.turns journal, turn.state ≠ .defunct

private theorem inOrder_of_kinds {turns : List Turn} {heard rest : List Request.Kind}
    (kinds : turns.map (·.request.kind) = heard ++ rest)
    (whole : ∀ turn ∈ turns, turn.delivery = .whole) :
    heard <+: turns.map (·.request.kind) ∧ ∀ turn ∈ turns.dropLast, turn.delivery = .whole :=
  ⟨⟨rest, kinds.symm⟩, fun turn member => whole turn ((List.dropLast_sublist turns).subset member)⟩

theorem Reached.served {versions : List Version} {journal : Journal} {connection : Connection}
    (reached : Reached versions journal connection) : Served journal connection := by
  refine Reached.keeps Served ?_ ?_ reached
  · constructor <;> simp [Connection.start]
  · intro journal connection after event seen reached before rule
    obtain ⟨opening, running, closed, awake⟩ := before
    have tracked := reached.tracked
    cases rule with
    | still | refuse | accept | receive | hangUp =>
      exact ⟨by simpa, by simpa, by simpa, by simpa⟩
    | unopened _ phase | disagree phase =>
      have none := opening (by simp [phase])
      have silent := (tracked.opening (by simp [phase])).2.2.2
      exact ⟨by simp, by simp, by simp [none, silent], by simpa⟩
    | greet greeting phase | agree version rest phase =>
      have none := opening (by simp [phase])
      have silent := (tracked.opening (by simp [phase])).2.2.2
      exact ⟨by simp [none], by simp [none, silent], by simp, by simpa⟩
    | glance phase =>
      have here := running (by simp [phase])
      exact ⟨by simp, by simpa [phase] using here, by simp, by simpa⟩
    | desert phase | lose ticket kind ending phase | spoil ticket kind payload rest fault phase =>
      obtain ⟨kinds, whole⟩ := running (by simp [phase])
      refine ⟨by simp, by simp, fun _ => ?_, by simpa⟩
      simpa using inOrder_of_kinds kinds whole
    | forbid watching next rest delivery phase queue barred =>
      have here := running (by simp [phase])
      have alive := tracked.ne_defunct (by simp [phase])
      refine ⟨by simp, fun _ => ?_, by simp, ?_⟩
      · simpa [phase, Turn.isAllowed, barred] using here
      · simpa [or_imp, forall_and] using ⟨awake, alive⟩
    | send watching next rest phase queue allowed =>
      obtain ⟨kinds, whole⟩ := running (by simp [phase])
      have alive := tracked.ne_defunct (by simp [phase])
      have heard :
          (log journal).map (·.request.kind) = (collect Notes.heard journal).map Prod.fst := by
        simpa [phase] using kinds
      refine ⟨by simp, fun _ => ?_, by simp, ?_⟩
      · simpa [Turn.isAllowed, allowed, or_imp, forall_and] using ⟨heard, whole⟩
      · simpa [or_imp, forall_and] using ⟨awake, alive⟩
    | cut watching next rest count fault phase queue allowed =>
      obtain ⟨kinds, whole⟩ := running (by simp [phase])
      have alive := tracked.ne_defunct (by simp [phase])
      have before : (collect Notes.heard journal).map Prod.fst <+:
          (log journal).map (·.request.kind) ++ [next.kind] :=
        (inOrder_of_kinds kinds whole).1.trans (List.prefix_append ..)
      refine ⟨by simp, by simp, fun _ => ?_, ?_⟩
      · simpa [Turn.isAllowed, allowed] using ⟨before, whole⟩
      · simpa [or_imp, forall_and] using ⟨awake, alive⟩
    | record ticket kind payload rest fields phase =>
      have here := running (by simp [phase])
      exact ⟨by simp [phase], by simpa [phase] using here, by simp [phase], by simpa⟩
    | stray ticket kind payload rest summary phase =>
      obtain ⟨kinds, whole⟩ := running (by simp [phase])
      have all : (log journal).map (·.request.kind) =
          ((collect Notes.heard journal).map Prod.fst ++ [kind]) ++ [] := by
        simpa [phase] using kinds
      refine ⟨by simp, by simp, fun _ => ?_, by simpa⟩
      simpa using inOrder_of_kinds all whole
    | conclude ticket kind payload rest summary next phase =>
      obtain ⟨kinds, whole⟩ := running (by simp [phase])
      have all : (log journal).map (·.request.kind) =
          ((collect Notes.heard journal).map Prod.fst ++ [kind]) ++ [] := by
        simpa [phase] using kinds
      cases terminal : next.isTerminal with
      | false => exact ⟨by simp, by simpa [all] using whole, by simp, by simpa⟩
      | true =>
        refine ⟨by simp, by simp, fun _ => ?_, by simpa⟩
        simpa using inOrder_of_kinds all whole
    | drain phase =>
      have here := closed (by simp [phase])
      exact ⟨by simp, by simp, by simpa using here, by simpa⟩

/-- Only the last request that was written can be cut. -/
theorem Served.whole_of_dropLast {journal : Journal} {connection : Connection}
    (served : Served journal connection) :
    ∀ turn ∈ (log journal).dropLast, turn.delivery = .whole := by
  intro turn member
  have among := (List.dropLast_sublist (log journal)).subset member
  cases phase : connection.phase with
  | connecting | negotiating => simp [served.opening (by simp [phase])] at among
  | idle watching | serving ticket kind => exact (served.running (by simp [phase])).2 turn among
  | closing | stopped => exact (served.closed (by simp [phase])).2 turn member

/-- A summary is heard for a request that was written, one after the other. -/
theorem Served.heard_prefix {journal : Journal} {connection : Connection}
    (served : Served journal connection) (tracked : Tracked journal connection) :
    (collect Notes.heard journal).map Prod.fst <+:
      (log journal).map (·.request.kind) := by
  cases phase : connection.phase with
  | connecting | negotiating =>
    have silent := (tracked.opening (by simp [phase])).2.2.2
    simp [silent]
  | idle watching | serving ticket kind =>
    rw [(served.running (by simp [phase])).1]
    exact List.prefix_append ..
  | closing | stopped => exact (served.closed (by simp [phase])).1

end BoltClient.Connection
