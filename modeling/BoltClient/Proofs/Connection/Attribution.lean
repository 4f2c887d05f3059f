import BoltClient.Proofs.Connection.Responses
import BoltClient.Proofs.Connection.Service

/-!
How messages become answers. The messages taken so far make up the responses
given so far and the records gathered for the next one, and the answers are
those of a server without a stream that serves all requests from the start.
-/

namespace BoltClient.Connection

/-- The responses among answers, each under the ticket of its request. -/
def responsesOf : List (Nat × Outcome) → List (Nat × Response)
  | [] => []
  | (ticket, .ok response) :: rest => (ticket, response) :: responsesOf rest
  | (_, .error _) :: rest => responsesOf rest

@[simp] theorem responsesOf_nil : responsesOf [] = [] := rfl

@[simp] theorem responsesOf_ok (ticket : Nat) (response : Response) (rest : List (Nat × Outcome)) :
    responsesOf ((ticket, .ok response) :: rest) = (ticket, response) :: responsesOf rest := rfl

@[simp] theorem responsesOf_error (ticket : Nat) (fault : ProtocolFault)
    (rest : List (Nat × Outcome)) :
    responsesOf ((ticket, .error fault) :: rest) = responsesOf rest := rfl

@[simp] theorem responsesOf_refused (queue : List Queued) (fault : ProtocolFault) :
    responsesOf (queue.map fun queued => (queued.ticket, .error fault)) = [] := by
  induction queue with
  | nil => rfl
  | cons queued rest ih => exact ih

/-- The responses given in one step. -/
@[simp] def Notes.given (seen : Notes) : List (Nat × Response) := responsesOf seen.replies

/-- How the messages that were taken make up the responses that were given. -/
structure Attributed (journal : Journal) (connection : Connection) : Prop where
  opening : connection.phase.isOpening = true → collect Notes.given journal = [] ∧
    collect Notes.messages journal = [] ∧ connection.gathered = []
  running : connection.phase.isRunning = true →
    (collect Notes.given journal).map Prod.fst ++ connection.phase.inFlight.map Prod.fst =
      (log journal).map (·.request.ticket) ∧
    Response.assemble [] (collect Notes.messages journal) =
      ((collect Notes.given journal).map Prod.snd, connection.gathered)
  idle (watching : Bool) : connection.phase = .idle watching → connection.gathered = []
  closed : connection.phase.isOver = true →
    (collect Notes.given journal).map Prod.fst <+: (log journal).map (·.request.ticket) ∧
    (collect Notes.given journal).map Prod.snd <+:
      (Response.assemble [] (collect Notes.messages journal)).1
  sound : connection.phase.isOver = true → ever Notes.mishap journal = false →
    (collect Notes.given journal).length = (log journal).length

theorem Reached.attributed {versions : List Version} {journal : Journal} {connection : Connection}
    (reached : Reached versions journal connection) : Attributed journal connection := by
  refine Reached.keeps Attributed ?_ ?_ reached
  · constructor <;> simp [Connection.start]
  · intro journal connection after event seen reached before rule
    obtain ⟨opening, running, idle, closed, sound⟩ := before
    cases rule with
    | still | refuse | accept | receive | hangUp =>
      exact ⟨by simpa, by simpa, idle, by simpa, by simpa⟩
    | unopened _ phase | disagree phase =>
      obtain ⟨given, messages, gathered⟩ := opening (by simp [phase])
      exact ⟨by simp, by simp, by simp, by simp [given], by simp⟩
    | greet greeting phase request =>
      have here := opening (by simp [phase])
      exact ⟨by simpa using here, by simp, by simp, by simp, by simp⟩
    | agree version rest phase =>
      obtain ⟨given, messages, gathered⟩ := opening (by simp [phase])
      have quiet := reached.served.opening (by simp [phase])
      exact ⟨by simp, by simp [given, messages, gathered, quiet, Response.assemble],
        by simp [gathered], by simp, by simp⟩
    | glance phase =>
      have here := running (by simp [phase])
      exact ⟨by simp, by simpa [phase] using here, by simpa using idle true phase, by simp,
        by simp⟩
    | desert phase | lose ticket kind ending phase | spoil ticket kind payload rest fault phase =>
      obtain ⟨tickets, responses⟩ := running (by simp [phase])
      refine ⟨by simp, by simp, by simp, fun _ => ?_, by simp⟩
      simpa [responses] using ⟨_, tickets⟩
    | forbid watching next rest delivery phase queue barred =>
      have here := running (by simp [phase])
      refine ⟨by simp, fun _ => ?_, fun _ _ => idle watching phase, by simp, by simp⟩
      simpa [phase, Turn.isAllowed, barred] using here
    | send watching next rest phase queue allowed =>
      obtain ⟨tickets, responses⟩ := running (by simp [phase])
      refine ⟨by simp, fun _ => ?_, by simp, by simp, by simp⟩
      simpa [Turn.isAllowed, allowed, ← tickets, phase] using responses
    | cut watching next rest count fault phase queue allowed =>
      obtain ⟨tickets, responses⟩ := running (by simp [phase])
      refine ⟨by simp, by simp, by simp, fun _ => ?_, by simp⟩
      simp [Turn.isAllowed, allowed, responses, ← tickets, phase]
    | record ticket kind payload rest fields phase =>
      obtain ⟨tickets, responses⟩ := running (by simp [phase])
      refine ⟨by simp [phase], fun _ => ?_, by simp [phase], by simp [phase], by simp [phase]⟩
      simpa [Response.assemble_append, responses, Response.assemble] using tickets
    | stray ticket kind payload rest summary phase =>
      obtain ⟨tickets, responses⟩ := running (by simp [phase])
      refine ⟨by simp, by simp, by simp, fun _ => ?_, by simp⟩
      simpa [Response.assemble_append, responses] using ⟨_, tickets⟩
    | conclude ticket kind payload rest summary next phase =>
      obtain ⟨tickets, responses⟩ := running (by simp [phase])
      have assembled : Response.assemble [] (collect Notes.messages journal ++ [.summary summary]) =
          ((collect Notes.given journal).map Prod.snd ++ [⟨connection.gathered, summary⟩], []) := by
        simp [Response.assemble_append, responses, Response.assemble]
      cases terminal : next.isTerminal with
      | false =>
        refine ⟨by simp, fun _ => ?_, by simp, by simp, by simp⟩
        simpa [assembled, phase] using tickets
      | true =>
        rw [phase] at tickets
        have count := congrArg List.length tickets
        refine ⟨by simp, by simp, by simp, fun _ => ?_, fun _ _ => ?_⟩
        · simpa [assembled] using ⟨[], by simpa using tickets⟩
        · simpa using count
    | drain phase =>
      have here := closed (by simp [phase])
      have count := sound (by simp [phase])
      exact ⟨by simp, by simp, by simp, fun _ => by simpa using here, fun _ => by simpa using count⟩

/-- While nothing has gone wrong, what has been answered and what is still to be served
are the outcomes of serving all from the start. -/
structure Replayed (journal : Journal) (connection : Connection) : Prop where
  opening : connection.phase.isOpening = true →
    collect Notes.accepted journal = connection.queue ∧ collect Notes.replies journal = []
  flying (ticket : Nat) (kind : Request.Kind) : connection.phase = .serving ticket kind →
    kind.isAllowed connection.state = true
  going : connection.phase.isOpening = false → ever Notes.mishap journal = false →
    ∀ (later : List Request.Kind) (more : List Response),
      Outcome.served .negotiation ((collect Notes.accepted journal).map Queued.kind ++ later)
          ((collect Notes.given journal).map Prod.snd ++ more) =
        (collect Notes.replies journal).map Prod.snd ++
          Outcome.served connection.state
            (connection.phase.inFlight.map Prod.snd ++ (connection.queue.map Queued.kind ++ later))
            more

theorem Reached.replayed {versions : List Version} {journal : Journal} {connection : Connection}
    (reached : Reached versions journal connection) : Replayed journal connection := by
  refine Reached.keeps Replayed ?_ ?_ reached
  · constructor <;> simp [Connection.start]
  · intro journal connection after event seen reached before rule
    obtain ⟨opening, flying, going⟩ := before
    cases rule with
    | still | refuse | receive | hangUp => exact ⟨by simpa, flying, by simpa⟩
    | accept ticket request payload packed lives =>
      refine ⟨fun phase => ?_, flying, fun phase sound later more => ?_⟩
      · simpa using opening phase
      · simpa using going phase (by simpa using sound) (request.kind :: later) more
    | unopened _ phase | disagree phase => exact ⟨by simp, by simp, by simp⟩
    | desert phase | cut watching next rest count fault phase | lose ticket kind ending phase
    | spoil ticket kind payload rest fault phase
    | stray ticket kind payload rest summary phase => exact ⟨by simp, by simp, by simp⟩
    | greet greeting phase request =>
      have here := opening (by simp [phase])
      exact ⟨fun _ => by simpa using here, by simp, by simp⟩
    | agree version rest phase answer =>
      obtain ⟨waits, silent⟩ := opening (by simp [phase])
      have none := (reached.attributed.opening (by simp [phase])).1
      refine ⟨by simp, by simp, fun _ _ later more => ?_⟩
      simp [waits, silent, none]
    | glance phase =>
      have here := going (by simp [phase])
      exact ⟨by simp, by simp, fun _ => by simpa [phase] using here⟩
    | forbid watching next rest delivery phase queue barred =>
      have here := going (by simp [phase])
      have alive := (reached.tracked.running (by simp [phase])).2.2.2
      refine ⟨by simp, by simp, fun _ sound later more => ?_⟩
      have same := here (by simpa using sound) later more
      simp only [phase, queue, Phase.inFlight, List.map_nil, List.nil_append, List.map_cons,
        List.cons_append, Outcome.served_barred alive barred] at same
      simpa using same
    | send watching next rest phase queue allowed =>
      have here := going (by simp [phase])
      refine ⟨by simp, by simpa using allowed, fun _ sound later more => ?_⟩
      simpa [phase, queue] using here (by simpa using sound) later more
    | record ticket kind payload rest fields phase =>
      have here := going (by simp [phase])
      exact ⟨by simp [phase], flying, fun _ => by simpa using here⟩
    | conclude ticket kind payload rest summary next phase found message leads =>
      have here := going (by simp [phase])
      have alive := (reached.tracked.running (by simp [phase])).2.2.2
      have allowed := flying ticket kind phase
      have goesOn : ∀ later more, ever Notes.mishap journal = false →
          Outcome.served .negotiation ((collect Notes.accepted journal).map Queued.kind ++ later)
              ((collect Notes.given journal).map Prod.snd ++
                ⟨connection.gathered, summary⟩ :: more) =
            (collect Notes.replies journal).map Prod.snd ++ .ok ⟨connection.gathered, summary⟩ ::
              Outcome.served next (connection.queue.map Queued.kind ++ later) more := by
        intro later more sound
        have same := here sound later (⟨connection.gathered, summary⟩ :: more)
        simpa only [phase, Phase.inFlight, List.map_cons, List.map_nil, List.cons_append,
          List.nil_append, Outcome.served_answered alive allowed leads] using same
      cases terminal : next.isTerminal with
      | false | true =>
        refine ⟨by simp, by simp, fun _ sound later more => ?_⟩
        simpa using goesOn later more (by simpa using sound)
    | drain phase =>
      have here := going (by simp [phase])
      have defunct := (reached.tracked.closed (by simp [phase])).1
      refine ⟨by simp, by simp, fun _ sound later more => ?_⟩
      have same := here (by simpa using sound) later more
      simp only [defunct, phase, Phase.inFlight, List.map_nil, List.nil_append,
        Outcome.served_defunct] at same
      simpa [defunct, Function.comp_def] using same

end BoltClient.Connection
