import BoltClient.Proofs.Session.Dialogue
import BoltClient.Proofs.Session.SingleUser

/-!
A caller at work on a connection that nobody else uses. The caller goes on when it
can, and anything may happen to the connection in between: bytes come and the stream
ends whenever they like. What a conversation comes to is a dialogue of the caller with
fair answers, and what is written is what was written for its requests.
-/

namespace BoltClient

namespace Session

open Connection

variable {α : Type}

/-- What a caller is at: it can go on, or its request is not answered yet, or the answer has
come and the caller has not gone on. -/
inductive Stance where
  | free
  | waits (request : Request)
  | told (request : Request) (outcome : Outcome)

structure Conversation where
  connection : Connection
  start : ServerState
  exchanges : List Exchange
  stance : Stance
  /-- what was to be seen since the last exchange -/
  seen : Journal

namespace Conversation

def begin (connection : Connection) : Conversation := ⟨connection, connection.state, [], .free, []⟩

def replies (talk : Conversation) : List Reply := talk.exchanges.map Exchange.reply

/-- The state in which the caller went on last. -/
def state (talk : Conversation) : ServerState := endState talk.start talk.exchanges

/-- The number of the next request. -/
def ticket (talk : Conversation) : Nat := talk.exchanges.length

def journal (talk : Conversation) : Journal := talk.exchanges.flatMap Exchange.seen ++ talk.seen

/-- Lets an event happen to the connection; the caller hears of an answer to its request. -/
def heed (talk : Conversation) (event : Event) : Conversation :=
  { talk with
    connection := (talk.connection.step event).1
    seen := talk.seen ++ [talk.connection.notes event]
    stance := match talk.stance with
      | .waits request =>
        match (answersOf (talk.connection.step event).2).lookup talk.ticket with
        | some outcome => .told request outcome
        | none => .waits request
      | stance => stance }

/-- A caller that has asked for nothing yet looks at the state first. -/
def look (talk : Conversation) : Conversation :=
  if talk.exchanges.isEmpty then { talk with start := talk.connection.state } else talk

/-- Lets the caller go on, with its answer when it has got one. -/
def goOn (session : Session α) (talk : Conversation) : Conversation :=
  match talk.stance with
  | .waits _ => talk
  | .told request outcome =>
    { talk with
      exchanges := talk.exchanges ++
        [⟨talk.state, request, talk.seen, ⟨outcome, talk.connection.state⟩⟩]
      stance := .free
      seen := [] }
  | .free =>
    match session talk.look.start talk.replies with
    | .asks request =>
      { talk.look with stance := .waits request }.heed (.submit talk.ticket request)
    | _ => talk.look

/-- What the caller gives, when it has come to its end. -/
def result (session : Session α) (talk : Conversation) : Option α :=
  match talk.stance, session talk.start talk.replies with
  | .free, .finished value _ _ => some value
  | _, _ => none

end Conversation

/-- What can happen next. Requests of others are none of it. -/
inductive Move where
  | goOn
  | happen (event : Event)

def Conversation.move (session : Session α) (talk : Conversation) : Move → Conversation
  | .goOn => talk.goOn session
  | .happen event => if event.isOutside then talk.heed event else talk

/-- What becomes of a caller and a connection when things happen one after the other. -/
def hold (session : Session α) (connection : Connection) (moves : List Move) : Conversation :=
  moves.foldl (Conversation.move session) (.begin connection)

/-- The stream is opened, and the server agrees to the first version. -/
def Move.opens : List Move :=
  [.happen (.opened .whole), .happen (.receive [0, 0, 4, 5]), .happen .poll]

/-- The caller sends a request, and the server sends an answer. -/
def Move.answered (bytes : Bytes) : List Move :=
  [.goOn, .happen (.take .whole), .happen (.receive bytes), .happen .poll, .goOn]

/-- The caller sends a request that may not be sent. -/
def Move.refused : List Move := [.goOn, .happen (.take .whole), .goOn]

/-- How a caller and its connection stand to each other. -/
inductive Standing (session : Session α) (talk : Conversation) : Prop where
  | free (stance : talk.stance = .free) (quiet : Quiet talk.connection)
    (silent : log talk.seen = [])
    (drifts : talk.exchanges ≠ [] → Drifts talk.state talk.connection.state)
  /-- the request waits for its turn -/
  | queued (request : Request) (queued : Queued) (stance : talk.stance = .waits request)
    (asks : session talk.start talk.replies = .asks request)
    (flight : talk.connection.phase.inFlight = []) (queue : talk.connection.queue = [queued])
    (ticket : queued.ticket = talk.ticket) (kind : queued.kind = request.kind)
    (silent : log talk.seen = []) (drifts : Drifts talk.state talk.connection.state)
  /-- the request has been written -/
  | serving (request : Request) (turn : Turn) (stance : talk.stance = .waits request)
    (asks : session talk.start talk.replies = .asks request)
    (phase : talk.connection.phase = .serving talk.ticket request.kind)
    (queue : talk.connection.queue = []) (written : Written talk.connection.state request turn)
    (turns : log talk.seen = [turn]) (drifts : Drifts talk.state talk.connection.state)
  | told (request : Request) (outcome : Outcome) (stance : talk.stance = .told request outcome)
    (asks : session talk.start talk.replies = .asks request) (quiet : Quiet talk.connection)
    (fair : ∃ before after, Drifts talk.state before ∧
      Answers before request (log talk.seen) outcome after ∧ Drifts after talk.connection.state)

/-- What has been said is a dialogue with fair answers. -/
structure Sound (session : Session α) (talk : Conversation) : Prop where
  reached : ∃ versions journal, Reached versions journal talk.connection
  dialogue : Dialogue session talk.start talk.exchanges none
  fair : ∀ exchange ∈ talk.exchanges, exchange.Fair
  standing : Standing session talk

section Heed

variable {talk : Conversation} {event : Event} {request : Request}

theorem heed_waits (stance : talk.stance = .waits request)
    (unanswered : (talk.connection.notes event).refused ++ (talk.connection.notes event).replies =
      []) : (talk.heed event).stance = .waits request := by
  simp [Conversation.heed, stance, answersOf_step, unanswered]

theorem heed_told {outcome : Outcome} (stance : talk.stance = .waits request)
    (answered : (talk.connection.notes event).refused ++ (talk.connection.notes event).replies =
      [(talk.ticket, outcome)]) : (talk.heed event).stance = .told request outcome := by
  simp [Conversation.heed, stance, answersOf_step, answered]

theorem log_heed : log (talk.heed event).seen =
    log talk.seen ++ (talk.connection.notes event).turns.filter Turn.isAllowed :=
  log_concat ..

theorem Sound.heed {session : Session α} (sound : Sound session talk)
    (outside : event.isOutside = true) : Sound session (talk.heed event) := by
  obtain ⟨⟨versions, journal, reached⟩, dialogue, fair, standing⟩ := sound
  refine ⟨⟨versions, _, reached.step event⟩, dialogue, fair, ?_⟩
  have stride := step_stride talk.connection event
  cases standing with
  | free stance quiet silent drifts =>
    obtain ⟨stays, quietly, later⟩ := quiet_stride reached.tracked quiet outside stride
    refine .free (by simp [Conversation.heed, stance]) stays ?_
      fun some => (drifts some).trans later
    rw [log_heed, silent, quietly.turns]
    rfl
  | told request outcome stance asks quiet answered =>
    obtain ⟨stays, quietly, later⟩ := quiet_stride reached.tracked quiet outside stride
    obtain ⟨before, after, first, answers, then_⟩ := answered
    refine .told request outcome (by simp [Conversation.heed, stance]) asks stays
      ⟨before, after, first, ?_, then_.trans later⟩
    rw [log_heed, quietly.turns, List.filter_nil, List.append_nil]
    exact answers
  | queued request queued stance asks flight queue ticket kind silent drifts =>
    rcases queued_stride reached.tracked flight queue kind outside stride with
      ⟨flies, waits, quietly, later⟩ | ⟨phase, empty, unanswered, same, turn, turns, written⟩ |
        ⟨quiet, outcome, answered, answers⟩
    · refine .queued request queued (heed_waits stance quietly.answers) asks flies waits ticket kind
        ?_ (drifts.trans later)
      rw [log_heed, silent, quietly.turns]
      rfl
    · rw [kind, ticket] at phase
      refine .serving request turn (heed_waits stance unanswered) asks phase empty
        (same.symm ▸ written) ?_ (same.symm ▸ drifts)
      have allowed : turn.isAllowed = true := by
        rw [Turn.isAllowed, written.kindEq, written.stateEq, written.allowed]
      rw [log_heed, silent, turns, List.filter_cons_of_pos allowed]
      rfl
    · rw [ticket] at answered
      refine .told request outcome (heed_told stance answered) asks quiet
        ⟨_, _, drifts, ?_, .stays _⟩
      rw [log_heed, silent]
      exact answers
  | serving request turn stance asks phase queue written turns drifts =>
    rcases serving_stride phase queue written outside stride with
      ⟨serves, empty, quietly, same⟩ | ⟨quiet, none, outcome, answered, answers⟩
    · refine .serving request turn (heed_waits stance quietly.answers) asks serves empty
        (same.symm ▸ written) ?_ (same.symm ▸ drifts)
      rw [log_heed, turns, quietly.turns]
      rfl
    · refine .told request outcome (heed_told stance answered) asks quiet
        ⟨_, _, drifts, ?_, .stays _⟩
      rw [log_heed, turns, none]
      exact answers

/-- A request that is sent waits for its turn or is answered at once. -/
theorem Sound.submit {session : Session α} (sound : Sound session talk)
    (quiet : Quiet talk.connection) (silent : log talk.seen = [])
    (drifts : Drifts talk.state talk.connection.state)
    (asks : session talk.start talk.replies = .asks request) :
    Sound session ({ talk with stance := .waits request }.heed (.submit talk.ticket request)) := by
  obtain ⟨⟨versions, journal, reached⟩, dialogue, fair, -⟩ := sound
  refine ⟨⟨versions, _, reached.step _⟩, dialogue, fair, ?_⟩
  have silently : log (({ talk with stance := .waits request } : Conversation).heed
      (.submit talk.ticket request)).seen = [] := by
    rw [log_heed, silent]
    rfl
  rcases submit_ways reached.tracked quiet talk.ticket request with
    ⟨payload, accepted⟩ | ⟨outcome, refused, answers⟩
  · have stepped : talk.connection.step (.submit talk.ticket request) = _ := accepted
    refine .queued request ⟨talk.ticket, request.kind, payload⟩ ?_ asks ?_ ?_ rfl rfl silently ?_
    all_goals simp only [Conversation.heed, stepped]
    · rfl
    · exact quiet.flight
    · exact drifts
  · have stepped : talk.connection.step (.submit talk.ticket request) = _ := refused
    refine .told request outcome ?_ asks ?_ ⟨_, _, drifts, silently ▸ answers, ?_⟩
    all_goals simp only [Conversation.heed, stepped]
    · simp [Conversation.ticket]
    · exact quiet
    · exact .stays _

end Heed

section GoOn

variable {session : Session α} {talk : Conversation}

theorem Sound.look (sound : Sound session talk) (stance : talk.stance = .free) :
    Sound session talk.look ∧ Quiet talk.look.connection ∧ log talk.look.seen = [] ∧
      Drifts talk.look.state talk.look.connection.state := by
  obtain ⟨reached, dialogue, fair, standing⟩ := sound
  cases standing with
  | free _ quiet silent drifts =>
    cases none : talk.exchanges.isEmpty with
    | true =>
      have empty := List.isEmpty_iff.1 none
      have looked : talk.look = { talk with start := talk.connection.state } := if_pos none
      rw [looked]
      refine ⟨⟨reached, ?_, fair, .free stance quiet silent fun some => absurd empty some⟩,
        quiet, silent, ?_⟩
      · simpa only [empty] using Dialogue.pending session talk.connection.state
      · simpa only [Conversation.state, empty, endState] using Drifts.stays talk.connection.state
    | false =>
      have some : talk.exchanges ≠ [] := fun empty => by simp [empty] at none
      have looked : talk.look = talk := if_neg (by simp [none])
      rw [looked]
      exact ⟨⟨reached, dialogue, fair, .free stance quiet silent drifts⟩, quiet, silent,
        drifts some⟩
  | queued _ _ other | serving _ _ other | told _ _ other => cases stance.symm.trans other

theorem Sound.goOn (sound : Sound session talk) : Sound session (talk.goOn session) := by
  cases stance : talk.stance with
  | waits request =>
    have same : talk.goOn session = talk := by simp only [Conversation.goOn, stance]
    exact same.symm ▸ sound
  | told request outcome =>
    obtain ⟨reached, dialogue, fair, standing⟩ := sound
    cases standing with
    | free other | queued _ _ other | serving _ _ other => cases stance.symm.trans other
    | told _ _ other asks quiet answered =>
      cases stance.symm.trans other
      simp only [Conversation.goOn, stance]
      refine ⟨reached, dialogue.concat asks rfl, ?_, .free rfl quiet rfl fun _ => ?_⟩
      · intro exchange member
        rcases List.mem_append.1 member with old | new
        · exact fair exchange old
        · exact List.mem_singleton.1 new ▸ answered
      · simpa only [Conversation.state, endState_concat] using Drifts.stays talk.connection.state
  | free =>
    obtain ⟨looks, quiet, silent, drifts⟩ := sound.look stance
    have replies : talk.look.replies = talk.replies := by
      unfold Conversation.look
      split <;> rfl
    have ticket : talk.look.ticket = talk.ticket := by
      unfold Conversation.look
      split <;> rfl
    simp only [Conversation.goOn, stance]
    cases asked : session talk.look.start talk.replies with
    | asks request =>
      have sent := looks.submit quiet silent drifts (replies.symm ▸ asked)
      simpa only [ticket] using sent
    | finished | waits => exact looks

theorem Sound.move (sound : Sound session talk) (move : Move) :
    Sound session (talk.move session move) := by
  cases move with
  | goOn => exact sound.goOn
  | happen event =>
    cases outside : event.isOutside with
    | true =>
      rw [Conversation.move, if_pos outside]
      exact sound.heed outside
    | false =>
      rw [Conversation.move, if_neg (Bool.eq_false_iff.1 outside)]
      exact sound

end GoOn

/-- Whatever happens, what a caller says is a dialogue with fair answers. -/
theorem hold_sound (session : Session α) {versions : List Version} {journal : Journal}
    {connection : Connection} (reached : Reached versions journal connection)
    (quiet : Quiet connection) (moves : List Move) :
    Sound session (hold session connection moves) := by
  have begins : Sound session (.begin connection) :=
    ⟨⟨versions, journal, reached⟩, .pending session connection.state,
      fun _ member => absurd member List.not_mem_nil,
      .free rfl quiet rfl fun some => absurd rfl some⟩
  unfold hold
  generalize Conversation.begin connection = talk at begins
  induction moves generalizing talk with
  | nil => exact begins
  | cons move rest ih => exact ih _ (begins.move move)

theorem log_flatMap (exchanges : List Exchange) :
    log (exchanges.flatMap Exchange.seen) = exchanges.flatMap Exchange.turns := by
  induction exchanges with
  | nil => rfl
  | cons exchange rest ih =>
    rw [List.flatMap_cons, log_append, ih]
    rfl

section Written

variable {session : Session α} {talk : Conversation}

theorem Sound.journal_eq :
    log talk.journal = talk.exchanges.flatMap Exchange.turns ++ log talk.seen := by
  rw [Conversation.journal, log_append, log_flatMap]

/-- A request that is not answered yet counts as one that will be lost. -/
theorem Sound.unanswered (sound : Sound session talk) {request : Request} {before : ServerState}
    (asks : session talk.start talk.replies = .asks request) (drifts : Drifts talk.state before)
    (part : log talk.seen = [] ∨ ∃ turn, log talk.seen = [turn] ∧ Written before request turn) :
    ∃ more, Dialogue session talk.start (talk.exchanges ++ more) none ∧
      (∀ exchange ∈ more, exchange.Fair) ∧ log talk.seen = more.flatMap Exchange.turns := by
  let last : Exchange := ⟨talk.state, request, talk.seen, ⟨.error .shutDown, .defunct⟩⟩
  refine ⟨[last], sound.dialogue.concat asks rfl, ?_, (List.flatMap_singleton ..).symm⟩
  refine List.forall_mem_singleton.2 ⟨before, .defunct, drifts, .lost _ _ part ?_, .stays _⟩
  simp [ProtocolFault.kind]

/-- What was written since the last exchange was written for the next request of the caller. -/
theorem Sound.pending (sound : Sound session talk) :
    ∃ more, Dialogue session talk.start (talk.exchanges ++ more) none ∧
      (∀ exchange ∈ more, exchange.Fair) ∧ log talk.seen = more.flatMap Exchange.turns := by
  cases sound.standing with
  | free _ _ silent =>
    exact ⟨[], by simpa using sound.dialogue, List.forall_mem_nil _, silent⟩
  | queued _ _ _ asks _ _ _ _ silent drifts => exact sound.unanswered asks drifts (.inl silent)
  | serving _ turn _ asks _ _ written turns drifts =>
    exact sound.unanswered asks drifts (.inr ⟨turn, turns, written⟩)
  | told _ _ _ asks _ answered =>
    obtain ⟨before, after, drifts, answers, -⟩ := answered
    exact sound.unanswered asks drifts answers.part

/-- All that is written is written for the requests of the caller. -/
theorem Sound.written (sound : Sound session talk) :
    ∃ exchanges, Dialogue session talk.start exchanges none ∧
      (∀ exchange ∈ exchanges, exchange.Fair) ∧
      log talk.journal = exchanges.flatMap Exchange.turns := by
  obtain ⟨more, dialogue, fair, turns⟩ := sound.pending
  refine ⟨talk.exchanges ++ more, dialogue, List.forall_mem_append.2 ⟨sound.fair, fair⟩, ?_⟩
  rw [Sound.journal_eq, List.flatMap_append, turns]

/-- A caller that has come to its end has its value from its dialogue, and the connection can
only have been lost since. -/
theorem Sound.ended (sound : Sound session talk) (sequential : Sequential session talk.start)
    {value : α} (ended : talk.result session = some value) (spoke : talk.exchanges ≠ []) :
    Dialogue session talk.start talk.exchanges (some (value, talk.state)) ∧
      Drifts talk.state talk.connection.state := by
  unfold Conversation.result at ended
  split at ended
  · next other state rest stance done =>
    cases ended
    have dialogue := sequential talk.exchanges sound.dialogue value state rest done
    have same : state = talk.state := dialogue.endState_eq
    refine ⟨same ▸ dialogue, ?_⟩
    cases sound.standing with
    | free _ _ _ drifts => exact drifts spoke
    | queued _ _ other | serving _ _ other | told _ _ other => cases stance.symm.trans other
  · cases ended

end Written

section Ended

variable {session : Session α} {talk : Conversation} {first : ServerState}

/-- What the caller saw first is what the connection had become by itself, and so is what has
become of it since as long as the caller has asked for nothing. -/
structure Found (first : ServerState) (talk : Conversation) : Prop where
  start : Drifts first talk.start
  silent : talk.exchanges = [] → talk.stance = .free → Drifts talk.start talk.connection.state

theorem Found.heed {event : Event} (found : Found first talk) (sound : Sound session talk)
    (outside : event.isOutside = true) : Found first (talk.heed event) := by
  refine ⟨found.start, fun none free => ?_⟩
  obtain ⟨⟨versions, journal, reached⟩, -, -, standing⟩ := sound
  cases standing with
  | free stance quiet =>
    have stride := step_stride talk.connection event
    exact (found.silent none stance).trans (quiet_stride reached.tracked quiet outside stride).2.2
  | queued _ _ stance | serving _ _ stance =>
    simp only [Conversation.heed, stance] at free
    split at free <;> cases free
  | told _ _ stance =>
    simp only [Conversation.heed, stance] at free
    cases free

theorem Found.goOn (found : Found first talk) : Found first (talk.goOn session) := by
  cases stance : talk.stance with
  | waits request =>
    have same : talk.goOn session = talk := by simp only [Conversation.goOn, stance]
    exact same.symm ▸ found
  | told request outcome =>
    simp only [Conversation.goOn, stance]
    exact ⟨found.start, fun none => absurd none (by simp)⟩
  | free =>
    have looks : Drifts first talk.look.start ∧
        (talk.look.exchanges = [] → talk.look.start = talk.look.connection.state) := by
      unfold Conversation.look
      split
      · next none => exact ⟨found.start.trans (found.silent (List.isEmpty_iff.1 none) stance),
          fun _ => rfl⟩
      · next some => exact ⟨found.start, fun none => absurd (List.isEmpty_iff.2 none) some⟩
    simp only [Conversation.goOn, stance]
    split
    · refine ⟨looks.1, fun _ free => ?_⟩
      simp only [Conversation.heed] at free
      split at free <;> cases free
    · exact ⟨looks.1, fun none _ => looks.2 none ▸ .stays _⟩

theorem Found.move (found : Found first talk) (sound : Sound session talk) (move : Move) :
    Found first (talk.move session move) := by
  cases move with
  | goOn => exact found.goOn
  | happen event =>
    cases outside : event.isOutside with
    | true =>
      rw [Conversation.move, if_pos outside]
      exact found.heed sound outside
    | false =>
      rw [Conversation.move, if_neg (Bool.eq_false_iff.1 outside)]
      exact found

theorem hold_found (session : Session α) {versions : List Version} {journal : Journal}
    {connection : Connection} (reached : Reached versions journal connection)
    (quiet : Quiet connection) (moves : List Move) :
    Found connection.state (hold session connection moves) := by
  have found : Found connection.state (.begin connection) := ⟨.stays _, fun _ _ => .stays _⟩
  have sound : Sound session (.begin connection) := hold_sound session reached quiet []
  unfold hold
  generalize Conversation.begin connection = talk at found sound
  induction moves generalizing talk with
  | nil => exact found
  | cons move rest ih => exact ih _ (found.move sound move) (sound.move move)

/-- What is known of a caller that has come to its end, and of its connection. -/
structure Concluded (session : Session α) (first : ServerState) (talk : Conversation)
    (value : α) : Prop where
  found : Drifts first talk.start
  dialogue : Dialogue session talk.start talk.exchanges (some (value, talk.state))
  fair : ∀ exchange ∈ talk.exchanges, exchange.Fair
  left : Drifts talk.state talk.connection.state
  quiet : Quiet talk.connection
  reached : ∃ versions journal, Reached versions journal talk.connection

theorem hold_concluded (sequential : ∀ start, Sequential session start) {versions : List Version}
    {journal : Journal} {connection : Connection} (reached : Reached versions journal connection)
    (quiet : Quiet connection) (moves : List Move) {value : α}
    (ended : (hold session connection moves).result session = some value) :
    Concluded session connection.state (hold session connection moves) value := by
  have sound := hold_sound session reached quiet moves
  have found := hold_found session reached quiet moves
  generalize hold session connection moves = talk at sound found ended
  have free : talk.stance = .free := by
    unfold Conversation.result at ended
    split at ended
    · assumption
    · cases ended
  have rests : Quiet talk.connection := by
    cases sound.standing with
    | free _ quiet => exact quiet
    | queued _ _ other | serving _ _ other | told _ _ other => cases free.symm.trans other
  by_cases spoke : talk.exchanges = []
  · unfold Conversation.result at ended
    split at ended
    · next done =>
      cases ended
      have dialogue := sequential talk.start talk.exchanges sound.dialogue value _ _ done
      obtain rfl : _ = talk.state := dialogue.endState_eq
      have begins : talk.state = talk.start := by rw [Conversation.state, spoke, endState]
      exact ⟨found.start, dialogue, sound.fair, begins ▸ found.silent spoke free, rests,
        sound.reached⟩
    · cases ended
  · obtain ⟨dialogue, left⟩ := sound.ended (sequential talk.start) ended spoke
    exact ⟨found.start, dialogue, sound.fair, left, rests, sound.reached⟩

end Ended

end Session
end BoltClient
