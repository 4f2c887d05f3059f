import Mathlib.Data.List.Induction
import BoltClient.Proofs.Session.Conversation

/-!
Where the answers of a caller come from. A response is given by the one step that reads
its summary; the step publishes the state to which the summary leads and answers with it.
So for every response that a caller has had there was a moment at which its request was
answered, in the state in which the request had been written.
-/

namespace BoltClient

namespace Connection

variable {connection after : Connection} {event : Event} {seen : Notes} {ticket : Nat}
  {response : Response}

/-- Only the summary of the request in flight gives a response. -/
theorem Stride.gives (stride : Stride connection event seen after)
    (given : (ticket, .ok response) ∈ seen.refused ++ seen.replies) :
    ∃ kind payload rest next, event = .poll ∧ connection.phase = .serving ticket kind ∧
      Framing.readMessage connection.incoming = some (payload, rest) ∧
      ServerMessage.ofPayload payload = .ok (.summary response.summary) ∧
      response.records = connection.gathered ∧
      kind.nextState connection.state response.summary = some next ∧ after.state = next := by
  cases stride with
  | conclude number kind payload rest summary next phase found message leads =>
    simp only [List.nil_append, List.mem_singleton, Prod.mk.injEq, Except.ok.injEq] at given
    obtain ⟨rfl, rfl⟩ := given
    exact ⟨kind, payload, rest, next, rfl, phase, found, message, rfl, leads, rfl⟩
  | drain => simp at given
  | _ => simp at given

/-- The state to which a summary leads is published, and the response is given right behind. -/
theorem step_gives (given : (ticket, .ok response) ∈ answersOf (connection.step event).2) :
    ∃ kind next version, connection.phase = .serving ticket kind ∧
      kind.nextState connection.state response.summary = some next ∧
      (connection.step event).1.state = next ∧
      (connection.step event).2 = [.publish ⟨next, version⟩, .answer ticket (.ok response)] := by
  rw [answersOf_step] at given
  obtain ⟨kind, payload, rest, next, rfl, phase, found, message, records, leads, final⟩ :=
    (step_stride connection event).gives given
  refine ⟨kind, next, connection.status.version, phase, leads, final, ?_⟩
  let reading : Connection := { connection with incoming := rest, gathered := [] }
  have took : connection.step .poll = reading.finish ticket kind response := by
    have whole : response = ⟨connection.gathered, response.summary⟩ := by rw [← records]
    rw [whole]
    exact (step_poll_serving phase).trans ((readOn_found found).trans (takeMessage_summary message))
  have goesOn : kind.nextState reading.state response.summary = some next := leads
  rw [took, finish_leads goesOn]
  rfl

end Connection

namespace Session

open Connection

variable {α : Type} {session : Session α} {connection : Connection} {moves : List Move}
  {said : List Exchange} {request : Request} {response : Response}
  {state before after final : ServerState} {turns : List Turn}

theorem hold_concat (session : Session α) (connection : Connection) (moves : List Move)
    (move : Move) : hold session connection (moves ++ [move]) =
      (hold session connection moves).move session move := by
  simp only [hold, List.foldl_append, List.foldl_cons, List.foldl_nil]

/-- That the next request behind some exchanges was answered: at one of the moves the
connection was in the state `before`, and it published `after` as it gave the response. -/
def Answered (session : Session α) (connection : Connection) (moves : List Move)
    (said : List Exchange) (request : Request) (response : Response)
    (before after : ServerState) : Prop :=
  ∃ earlier event later version, moves = earlier ++ .happen event :: later ∧
    let talk := hold session connection earlier
    talk.exchanges = said ∧ talk.stance = .waits request ∧ talk.connection.state = before ∧
      (talk.connection.step event).2 =
        [.publish ⟨after, version⟩, .answer said.length (.ok response)]

theorem Answered.concat (answered : Answered session connection moves said request response before
    after) (move : Move) :
    Answered session connection (moves ++ [move]) said request response before after := by
  obtain ⟨earlier, event, later, version, rfl, answer⟩ := answered
  exact ⟨earlier, event, later ++ [move], version, by simp, answer⟩

/-- What lies between the state in which a caller sends a request and the one in which it goes
on with a response: the request was written in a state, and in that state it was answered. -/
structure Answering (session : Session α) (connection : Connection) (moves : List Move)
    (said : List Exchange) (request : Request) (response : Response) (state : ServerState)
    (turns : List Turn) (final before after : ServerState) : Prop where
  answered : Answered session connection moves said request response before after
  written : ∃ turn, turns = [turn] ∧ Written before request turn
  leads : request.kind.nextState before response.summary = some after
  first : Drifts state before
  later : Drifts after final

theorem Answering.concat {next : ServerState} (move : Move)
    (answering : Answering session connection moves said request response state turns final before
      after) (drifts : Drifts final next) :
    Answering session connection (moves ++ [move]) said request response state turns next before
      after :=
  { answering with
    answered := answering.answered.concat move
    later := answering.later.trans drifts }

/-- That every response that a caller has had, or is about to take, was given in this way. -/
structure Accounted (session : Session α) (connection : Connection) (moves : List Move)
    (talk : Conversation) : Prop where
  said : ∀ said exchange more response, talk.exchanges = said ++ exchange :: more →
    exchange.reply.outcome = .ok response → ∃ before after,
      Answering session connection moves said exchange.request response exchange.state
        exchange.turns exchange.reply.state before after
  told : ∀ request response, talk.stance = .told request (.ok response) → ∃ before after,
    Answering session connection moves talk.exchanges request response talk.state
      (log talk.seen) talk.connection.state before after

theorem Accounted.begin : Accounted session connection [] (.begin connection) :=
  ⟨fun said _ _ _ split => by simp [Conversation.begin] at split, fun _ _ stance => by cases stance⟩

section Step

variable {talk : Conversation} {event : Event}

theorem Accounted.concat (accounted : Accounted session connection moves talk) (move : Move) :
    Accounted session connection (moves ++ [move]) talk := by
  constructor
  · intro said exchange more response split outcome
    obtain ⟨before, after, answering⟩ := accounted.said said exchange more response split outcome
    exact ⟨before, after, answering.concat move (.stays _)⟩
  · intro request response told
    obtain ⟨before, after, answering⟩ := accounted.told request response told
    exact ⟨before, after, answering.concat move (.stays _)⟩

/-- A caller that waits hears of a response only at the step that gives it. -/
theorem heed_gives (waits : talk.stance = .waits request) {other : Request}
    (told : (talk.heed event).stance = .told other (.ok response)) :
    other = request ∧ ∃ kind next version, talk.connection.phase = .serving talk.ticket kind ∧
      kind.nextState talk.connection.state response.summary = some next ∧
      (talk.connection.step event).1.state = next ∧
      (talk.connection.step event).2 =
        [.publish ⟨next, version⟩, .answer talk.ticket (.ok response)] := by
  simp only [Conversation.heed, waits] at told
  split at told
  · next outcome found =>
    cases told
    obtain ⟨front, back, parts, -⟩ := List.lookup_eq_some_iff.1 found
    exact ⟨rfl, step_gives (by simp [parts])⟩
  · cases told

theorem Accounted.heed (accounted : Accounted session connection moves talk)
    (here : hold session connection moves = talk) (sound : Sound session talk)
    (outside : event.isOutside = true) :
    Accounted session connection (moves ++ [.happen event]) (talk.heed event) := by
  obtain ⟨⟨versions, journal, reached⟩, -, -, standing⟩ := sound
  refine ⟨(accounted.concat _).said, fun request response told => ?_⟩
  have stride := step_stride talk.connection event
  rw [log_heed]
  cases standing with
  | free stance => simp [Conversation.heed, stance] at told
  | told other outcome stance asks quiet =>
    have same : talk.stance = .told request (.ok response) := by
      simpa only [Conversation.heed, stance] using told
    obtain ⟨before, after, answering⟩ := accounted.told request response same
    obtain ⟨-, silent, drifts⟩ := quiet_stride reached.tracked quiet outside stride
    rw [silent.turns, List.filter_nil, List.append_nil]
    exact ⟨before, after, answering.concat _ drifts⟩
  | queued other queued stance asks flight =>
    obtain ⟨-, kind, next, version, phase, -⟩ := heed_gives stance told
    simp [phase] at flight
  | serving other turn stance asks phase queue written turns drifts =>
    obtain ⟨rfl, kind, next, version, same, leads, final, effects⟩ := heed_gives stance told
    cases phase.symm.trans same
    have none : (talk.connection.notes event).turns = [] := by
      rcases serving_stride phase queue written outside stride with
        ⟨-, -, silent, -⟩ | ⟨-, none, -⟩
      · exact silent.turns
      · exact none
    rw [none, turns, List.filter_nil, List.append_nil]
    refine ⟨talk.connection.state, next, ⟨moves, event, [], version, rfl, ?_⟩, ⟨turn, rfl, written⟩,
      leads, drifts, final.symm ▸ .stays _⟩
    rw [here]
    exact ⟨rfl, stance, rfl, effects⟩

theorem Accounted.goOn (accounted : Accounted session connection moves talk)
    (sound : Sound session talk) :
    Accounted session connection (moves ++ [.goOn]) (talk.goOn session) := by
  cases stance : talk.stance with
  | waits request =>
    have same : talk.goOn session = talk := by simp only [Conversation.goOn, stance]
    exact same.symm ▸ accounted.concat _
  | told request outcome =>
    simp only [Conversation.goOn, stance]
    refine ⟨fun said exchange more response split answer => ?_, fun _ _ told => by cases told⟩
    rcases more.eq_nil_or_concat with rfl | ⟨front, last, rfl⟩
    · obtain ⟨rfl, same⟩ := List.append_inj' split rfl
      cases same
      cases answer
      obtain ⟨before, after, answering⟩ := accounted.told request response stance
      exact ⟨before, after, answering.concat _ (.stays _)⟩
    · rw [List.concat_eq_append, ← List.cons_append, ← List.append_assoc] at split
      exact (accounted.concat _).said _ _ _ _ (List.append_inj' split rfl).1 answer
  | free =>
    have quiet : Quiet talk.connection := by
      cases sound.standing with
      | free _ quiet => exact quiet
      | queued _ _ other | serving _ _ other | told _ _ other => cases stance.symm.trans other
    have looks : talk.look.exchanges = talk.exchanges ∧ talk.look.stance = .free ∧
        talk.look.connection = talk.connection := by
      unfold Conversation.look
      split <;> exact ⟨rfl, stance, rfl⟩
    obtain ⟨same, free, still⟩ := looks
    simp only [Conversation.goOn, stance]
    split
    · next request asks =>
      refine ⟨same.symm ▸ (accounted.concat _).said, fun other response told => ?_⟩
      obtain ⟨-, kind, next, version, serving, -⟩ := heed_gives rfl told
      rw [still] at serving
      simpa [serving] using quiet.flight
    · exact ⟨same.symm ▸ (accounted.concat _).said, fun _ _ told => by cases free.symm.trans told⟩

end Step

/-- Whatever happens, every response that a caller has had was given in the state in which its
request had been written, by the step that published the state to which it leads. -/
theorem hold_accounted (session : Session α) {versions : List Version} {journal : Journal}
    (reached : Reached versions journal connection) (quiet : Quiet connection)
    (moves : List Move) :
    Accounted session connection moves (hold session connection moves) := by
  induction moves using List.reverseRecOn with
  | nil => exact .begin
  | append_singleton moves move ih =>
    have sound := hold_sound session reached quiet moves
    rw [hold_concat]
    cases move with
    | goOn => exact ih.goOn sound
    | happen event =>
      cases outside : event.isOutside with
      | true =>
        rw [Conversation.move, if_pos outside]
        exact ih.heed rfl sound outside
      | false =>
        rw [Conversation.move, if_neg (Bool.eq_false_iff.1 outside)]
        exact ih.concat _

end Session
end BoltClient
