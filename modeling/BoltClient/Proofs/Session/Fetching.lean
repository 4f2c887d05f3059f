import Mathlib.Data.List.Forall2
import BoltClient.Proofs.Session.Answering
import BoltClient.Proofs.Session.Blame

/-!
Taking a whole result. The calls for it pull until a summary says that nothing is left, so
what they give is the batches of all answers in order with the last summary, and they
pull no more. They give a fault only for the first step that failed. Rows are read when
all of them have been taken.
-/

namespace BoltClient.Session

open Connection

variable {α β : Type}

/-! What has been taken. -/

/-- That pulls were answered with batches, and with summaries that said that more was left, all
but the last. -/
structure Taken (qid : Option Int64) (pulls : List Exchange)
    (answers : List (List (List Value) × SuccessMetadata)) (summary : SuccessMetadata) : Prop where
  each : List.Forall₂ (fun (pull : Exchange) answer => pull.request = .pull (.all qid) ∧
    pull.reply.outcome = .ok ⟨answer.1, .success answer.2⟩) pulls answers
  ends : ∃ front last, answers = front ++ [last] ∧
    (∀ answer ∈ front, answer.2.hasMore = some true) ∧ last.2.hasMore ≠ some true ∧
    summary = last.2

section Taken

variable {qid : Option Int64} {start : ServerState} {pulls : List Exchange}
  {answers : List (List (List Value) × SuccessMetadata)} {summary : SuccessMetadata}

theorem streaming_iff : summary.streaming = true ↔ summary.hasMore = some true := by
  rw [SuccessMetadata.streaming]
  cases summary.hasMore <;> simp

theorem result_eq_ok_iff {outcome : Outcome} {batch : List (List Value)} :
    outcome.bind Response.result = .ok (batch, summary) ↔
      outcome = .ok ⟨batch, .success summary⟩ := by
  constructor
  · intro answer
    cases outcome with
    | error fault => cases answer
    | ok response =>
      obtain ⟨records, other⟩ := response
      cases other <;> cases answer
      rfl
  · rintro rfl
    rfl

theorem Dialogue.taken {gathered records : List (List Value)} {final : ServerState}
    (dialogue : Dialogue (pullAll qid gathered).run start pulls
      (some (.ok (records, summary), final))) :
    ∃ answers, Taken qid pulls answers summary ∧ records = gathered ++ answers.flatMap Prod.fst := by
  induction pulls generalizing gathered start with
  | nil =>
    cases dialogue with
    | finish ends => cases ends []
  | cons pull rest ih =>
    obtain ⟨-, request, course⟩ := dialogue.pulling
    cases course with
    | fails reason answer goesOn =>
      cases goesOn with
      | finish ends => cases ends []
      | ask _ asks => cases asks
    | last batch other answer none goesOn =>
      obtain rfl := goesOn.of_pure
      cases goesOn with
      | finish ends =>
        cases ends []
        refine ⟨[(batch, summary)], ⟨.cons ⟨request, result_eq_ok_iff.1 answer⟩ .nil,
          [], (batch, summary), rfl, List.forall_mem_nil _, ?_, rfl⟩, by simp⟩
        exact fun more => by simp [streaming_iff.2 more] at none
    | more batch other answer some goesOn =>
      obtain ⟨answers, ⟨each, front, last, rfl, more, ends⟩, rfl⟩ := ih goesOn
      refine ⟨(batch, other) :: (front ++ [last]), ⟨.cons ⟨request, result_eq_ok_iff.1 answer⟩ each,
        (batch, other) :: front, last, rfl, ?_, ends⟩, by simp⟩
      exact List.forall_mem_cons.2 ⟨streaming_iff.1 some, more⟩

/-- When such answers are there, pulling ends with what they hold. -/
theorem Taken.pullAll_eq (taken : Taken qid pulls answers summary)
    (gathered : List (List Value)) (state : ServerState) : ∃ final,
    (pullAll qid gathered).run state (pulls.map Exchange.reply) =
      .finished (.ok (gathered ++ answers.flatMap Prod.fst, summary)) final [] := by
  obtain ⟨each, front, last, rfl, more, none, rfl⟩ := taken
  induction front generalizing gathered state pulls with
  | nil =>
    cases each with
    | @cons pull _ _ _ answered rest =>
      cases rest
      refine ⟨pull.reply.state, (after_pullAll qid gathered state _ []).trans ?_⟩
      rw [pulled_last (result_eq_ok_iff.2 answered.2) (Bool.eq_false_iff.2 fun some =>
        none (streaming_iff.1 some))]
      simp only [List.nil_append, List.flatMap_singleton]
      rfl
  | cons answer front ih =>
    cases each with
    | cons answered rest =>
      obtain ⟨here, later⟩ := List.forall_mem_cons.1 more
      obtain ⟨final, ends⟩ := ih (gathered ++ answer.1) _ rest later
      refine ⟨final, (after_pullAll qid gathered state _ _).trans ?_⟩
      rw [pulled_more (result_eq_ok_iff.2 answered.2) (streaming_iff.2 here), ends]
      simp

end Taken

/-! A result that has been taken whole. -/

/-- That the connection was prepared, the query ran, and all of its records were taken. -/
structure Fetched (settings : SessionSettings) (query : Query) (start : ServerState)
    (exchanges preparing : List Exchange) (run : Exchange) (opened : SuccessMetadata)
    (pulls : List Exchange) (answers : List (List (List Value) × SuccessMetadata))
    (result : QueryResult) : Prop where
  parts : exchanges = preparing ++ run :: pulls
  prepares : Dialogue (prepare settings).run start preparing (some (.ok (), run.state))
  request : run.request = query.request
  succeeded : run.reply.outcome.bind Response.metadata = .ok opened
  taken : Taken opened.qid pulls answers result.summary
  records : result.records = answers.flatMap Prod.fst
  fields : result.fields = opened.fields.getD []

section Fetched

variable {settings : SessionSettings} {query : Query} {start final : ServerState}
  {exchanges : List Exchange} {result : QueryResult}

theorem attempt_finished {first : Attempt α} {next : α → Attempt β} {value : α}
    {state : ServerState} {replies rest : List Reply}
    (done : first.run start replies = .finished (.ok value) state rest) :
    (first >>= next).run start replies = (next value).run state rest := by
  rw [ExceptT.run_bind]
  exact bind_finished done

theorem Dialogue.fetched (dialogue : Dialogue (fetchAll settings query).run start exchanges
      (some (.ok result, final))) :
    ∃ preparing run opened pulls answers,
      Fetched settings query start exchanges preparing run opened pulls answers result ∧
      Dialogue (pullAll opened.qid []).run run.reply.state pulls
        (some (.ok (result.records, result.summary), final)) := by
  rcases dialogue.attempt (sequential_prepare settings) with
    ⟨_, other, -⟩ | ⟨preparing, rest, _, state, rfl, prepares, runs⟩
  · cases other
  rcases runs.attempt (sequential_metadata _) with
    ⟨_, other, -⟩ | ⟨_, pulls, opened, later, rfl, ran, goesOn⟩
  · cases other
  obtain ⟨run, rfl, rfl, request, rfl, answer⟩ := ran.of_metadata
  rcases goesOn.attempt (sequential_pullAll _ _) with
    ⟨_, other, -⟩ | ⟨_, back, ⟨records, summary⟩, last, rfl, took, ends⟩
  · cases other
  obtain rfl := ends.of_pure
  cases ends with
  | finish same =>
    cases same []
    obtain ⟨answers, taken, rfl⟩ := took.taken
    have succeeded : run.reply.outcome.bind Response.metadata = .ok opened := by
      cases outcome : run.reply.outcome.bind Response.metadata with
      | ok metadata => rw [outcome] at answer; cases answer; rfl
      | error fault => rw [outcome] at answer; cases answer
    exact ⟨preparing, run, opened, _, answers, ⟨by simp, prepares, request, succeeded, taken,
      List.nil_append _, rfl⟩, took⟩

theorem Dialogue.attempt_behind {first : Attempt α} {next : α → Attempt β} {value : α}
    {state : ServerState} {rest : List Exchange} {ended : Option (Except Fault β × ServerState)}
    (done : Dialogue first.run start exchanges (some (.ok value, state)))
    (whole : Dialogue (first >>= next).run start (exchanges ++ rest) ended) :
    Dialogue (next value).run state rest ended := by
  rw [ExceptT.run_bind] at whole
  exact done.behind whole

theorem dialogue_metadata {exchange : Exchange} {metadata : SuccessMetadata}
    (succeeded : exchange.reply.outcome.bind Response.metadata = .ok metadata) :
    Dialogue (Session.metadata exchange.request).run exchange.state [exchange]
      (some (.ok metadata, exchange.reply.state)) := by
  rw [metadata_run]
  refine .ask rfl rfl (.finish fun replies => ?_)
  change Progress.finished ((exchange.reply.outcome.bind Response.metadata).mapError Fault.protocol)
    _ _ = _
  rw [succeeded]
  rfl

/-- When all this has been said, the result is there. -/
theorem Fetched.fetchAll_eq {preparing pulls : List Exchange} {run : Exchange}
    {opened : SuccessMetadata} {answers : List (List (List Value) × SuccessMetadata)}
    (fetched : Fetched settings query start exchanges preparing run opened pulls answers result) :
    ∃ final, (fetchAll settings query).run start (exchanges.map Exchange.reply) =
      .finished (.ok result) final [] := by
  obtain ⟨rfl, prepares, request, succeeded, taken, records, fields⟩ := fetched
  obtain ⟨final, took⟩ := taken.pullAll_eq [] run.reply.state
  have ran : (metadata query.request).run run.state (run.reply :: pulls.map Exchange.reply) =
      .finished (.ok opened) run.reply.state (pulls.map Exchange.reply) :=
    request ▸ (dialogue_metadata succeeded).replay _
  refine ⟨final, ?_⟩
  rw [List.map_append, List.map_cons, fetchAll, attempt_finished (prepares.replay _),
    attempt_finished ran, attempt_finished took]
  obtain ⟨_, _, _⟩ := result
  cases records
  cases fields
  rfl

/-- Behind the run of the query there are only pulls. -/
theorem Fetched.pulls_behind {preparing pulls : List Exchange} {run : Exchange}
    {opened : SuccessMetadata} {answers : List (List (List Value) × SuccessMetadata)}
    {ended : Option (Except Fault QueryResult × ServerState)}
    (fetched : Fetched settings query start exchanges preparing run opened pulls answers result)
    (dialogue : Dialogue (fetchAll settings query).run start exchanges ended) :
    ∃ ended, Dialogue (pullAll opened.qid []).run run.reply.state pulls ended := by
  obtain ⟨rfl, prepares, request, succeeded, -⟩ := fetched
  have runs := prepares.attempt_behind dialogue
  rw [← List.singleton_append] at runs
  have took := (request ▸ dialogue_metadata succeeded).attempt_behind runs
  rw [ExceptT.run_bind] at took
  rcases took.bind (sequential_pullAll _ _) with
    ⟨pulls, -⟩ | ⟨front, back, value, state, rfl, pulls, ends⟩
  · exact ⟨_, pulls⟩
  · cases value <;> obtain rfl := ends.of_pure <;> exact ⟨_, by rwa [List.append_nil]⟩

theorem Taken.last_pull {qid : Option Int64} {pulls : List Exchange}
    {answers : List (List (List Value) × SuccessMetadata)} {summary : SuccessMetadata}
    (taken : Taken qid pulls answers summary) : ∃ front last batch, pulls = front ++ [last] ∧
      last.request = .pull (.all qid) ∧ last.reply.outcome = .ok ⟨batch, .success summary⟩ ∧
      summary.streaming = false := by
  obtain ⟨each, front, ⟨batch, _⟩, rfl, -, none, rfl⟩ := taken
  have behind := List.forall₂_drop_append pulls front _ each
  generalize parts : pulls.drop front.length = rest at behind
  cases behind with
  | @cons last _ _ _ answered ends =>
    cases ends
    refine ⟨pulls.take front.length, last, batch, ?_, answered.1, answered.2,
      Bool.eq_false_iff.2 fun some => none (streaming_iff.1 some)⟩
    rw [← parts, List.take_append_drop]

end Fetched

/-! Where the connection is while records are taken. -/

/-- The state while a result is open, and the one behind it. -/
inductive Streams : ServerState → ServerState → Prop where
  | alone : Streams .streaming .ready
  | inside : Streams .txStreaming .txReady

section Streams

variable {wanted rest before after state start : ServerState} {exchange : Exchange}

theorem Streams.opened (streams : Streams wanted rest) : wanted ≠ .disconnected := by
  cases streams <;> decide

/-- A pull that was answered was written in the state of the open result; its answer keeps
that state as long as more is left. -/
theorem Streams.answered (streams : Streams wanted rest) {request : Request} {turn : Turn}
    {demand : Demand} {summary : SuccessMetadata} (held : Drifts wanted state)
    (drifts : Drifts state before) (pull : request = .pull demand)
    (written : Written before request turn)
    (leads : request.kind.nextState before (.success summary) = some after) :
    before = wanted ∧ after = if summary.streaming then wanted else rest := by
  subst pull
  rcases (held.trans drifts).eq_or_defunct streams.opened with rfl | rfl
  · cases streams <;> cases leads <;> exact ⟨rfl, rfl⟩
  · cases written.allowed

theorem Streams.last_pull (streams : Streams wanted rest) {qid : Option Int64}
    {gathered : List (List Value)} {pulls : List Exchange}
    {result : Option (Except Fault (List (List Value) × SuccessMetadata) × ServerState)}
    (dialogue : Dialogue (pullAll qid gathered).run start pulls result)
    (fair : ∀ pull ∈ pulls, pull.Fair) (held : Drifts wanted start) {front : List Exchange}
    {last : Exchange} (parts : pulls = front ++ [last]) : Drifts wanted last.state := by
  induction front generalizing gathered start pulls with
  | nil =>
    subst parts
    exact dialogue.pulling.1 ▸ held
  | cons pull front ih =>
    subst parts
    obtain ⟨rfl, request, course⟩ := dialogue.pulling
    rw [List.cons_append, List.forall_mem_cons] at fair
    cases course with
    | fails reason answer goesOn => exact absurd goesOn.of_pure (by simp)
    | last batch summary answer none goesOn => exact absurd goesOn.of_pure (by simp)
    | more batch summary answer some goesOn =>
      obtain ⟨before, after, turn, drifts, -, written, leads, later⟩ :=
        fair.1.of_response (result_eq_ok_iff.1 answer)
      obtain ⟨-, stays⟩ := streams.answered held drifts request written leads
      rw [if_pos some] at stays
      exact ih goesOn fair.2 (stays ▸ later) rfl

/-- Running a query opens a result in the state of the query. -/
theorem Exchange.Fair.runs (fair : exchange.Fair) (kind : exchange.request.kind = .run)
    (succeeded : exchange.succeeded = true) : ∃ turn wanted rest,
      exchange.turns = [turn] ∧ turn.request.kind = .run ∧ Streams wanted rest ∧
      Drifts wanted exchange.reply.state ∧
      (turn.state = .ready ∧ rest = .ready ∨ turn.state.inTransaction = true ∧ rest = .txReady) := by
  obtain ⟨before, metadata, next, turn, -, one, written, leads, later⟩ :=
    fair.of_succeeded succeeded
  have here := written.stateEq
  have same := written.kindEq.trans kind
  rw [kind] at leads
  rcases Request.Kind.whenRunning_leads leads with
    ⟨-, ⟨rfl, rfl⟩ | ⟨inside, rfl⟩⟩ | ⟨failure, -⟩
  · exact ⟨turn, .streaming, .ready, one, same, .alone, later, .inl ⟨here, rfl⟩⟩
  · exact ⟨turn, .txStreaming, .txReady, one, same, .inside, later, .inr ⟨here ▸ inside, rfl⟩⟩
  · cases failure

end Streams

/-! What is made of a result is made of it afterwards. -/

section View

variable {session : Session α} {talk : Conversation}

theorem goOn_map (session : Session α) (view : α → β) (talk : Conversation) :
    talk.goOn (view <$> session) = talk.goOn session := by
  cases stance : talk.stance with
  | waits | told => simp only [Conversation.goOn, stance]
  | free =>
    simp only [Conversation.goOn, stance]
    cases progress : session talk.look.start talk.replies with
    | finished value state rest => rw [show (view <$> session) _ _ = _ from bind_finished progress]; rfl
    | asks request => rw [show (view <$> session) _ _ = _ from bind_asks progress]
    | waits => rw [show (view <$> session) _ _ = _ from bind_waits progress]

theorem hold_map (session : Session α) (view : α → β) (connection : Connection)
    (moves : List Move) : hold (view <$> session) connection moves =
      hold session connection moves := by
  have same : Conversation.move (view <$> session) = Conversation.move session := by
    funext talk move
    cases move with
    | goOn => exact goOn_map session view talk
    | happen event => rfl
  rw [hold, hold, same]

theorem result_map (session : Session α) (view : α → β) (talk : Conversation) :
    talk.result (view <$> session) = (talk.result session).map view := by
  unfold Conversation.result
  cases talk.stance with
  | waits | told => rfl
  | free =>
    cases progress : session talk.start talk.replies with
    | finished value state rest => rw [show (view <$> session) _ _ = _ from bind_finished progress]; rfl
    | asks request => rw [show (view <$> session) _ _ = _ from bind_asks progress]; rfl
    | waits => rw [show (view <$> session) _ _ = _ from bind_waits progress]; rfl

/-- Rows are read from a result that has been taken whole. -/
theorem runQuery_run (settings : SessionSettings) (query : Query) (read : Decoder α) :
    (runQuery settings query read).run =
      (fun fetched => fetched.bind fun result =>
        (result.records.mapM fun row => read (.list row)).mapError Fault.codec) <$>
        (fetchAll settings query).run := by
  rw [runQuery, ExceptT.run_bind, map_eq_pure_bind]
  refine bind_congr fun fetched => ?_
  cases fetched with
  | error fault => rfl
  | ok result =>
    simp only [Except.bind]
    cases result.records.mapM fun row => read (.list row) <;> rfl

end View

section Whole

variable {versions : List Version} {journal : Journal} {connection : Connection}

/-- A caller that has come to its end waits for nothing, so its value is there. -/
theorem Sound.result_eq {session : Session α} {talk : Conversation} (sound : Sound session talk)
    {value : α} {state : ServerState} {rest : List Reply}
    (ended : session talk.start talk.replies = .finished value state rest) :
    talk.stance = .free ∧ talk.result session = some value := by
  have stance : talk.stance = .free := by
    cases sound.standing with
    | free stance => exact stance
    | queued _ _ _ asks | serving _ _ _ asks | told _ _ _ asks => cases ended.symm.trans asks
  refine ⟨stance, ?_⟩
  unfold Conversation.result
  rw [stance, ended]

/-- A caller that is done has written what was written for its exchanges, and nothing more. -/
theorem Sound.log_eq {session : Session α} {talk : Conversation} (sound : Sound session talk)
    (free : talk.stance = .free) : log talk.journal = talk.exchanges.flatMap Exchange.turns := by
  cases sound.standing with
  | free _ _ silent => rw [Sound.journal_eq, silent, List.append_nil]
  | queued _ _ other | serving _ _ other | told _ _ other => cases free.symm.trans other

variable {settings : SessionSettings} {query : Query} {talk : Conversation}

/-- When a request has failed there is nothing more to ask, and its fault is given. -/
theorem Sound.fetchAll_blamed (sound : Sound (fetchAll settings query).run talk) {fault : Fault}
    (blamed : Blamed talk.exchanges fault) :
    talk.result (fetchAll settings query).run = some (.error fault) := by
  have spoke : talk.exchanges ≠ [] := by
    obtain ⟨front, last, reason, parts, -⟩ := blamed
    simp [parts]
  have steady : Steady (fetchAll settings query).run talk.start fun _ _ => True :=
    fetchAll_steady settings query
  cases progress : (fetchAll settings query).run talk.start talk.replies with
  | waits =>
    have opened := sound.dialogue.opened_of_fetchAll spoke
    exact absurd progress (prompt_fetchAll settings query opened talk.replies)
  | asks request =>
    -- Had there been more to ask, nothing would have failed before.
    let next : Exchange := ⟨talk.state, request, [], ⟨.error .shutDown, .defunct⟩⟩
    have fair : next.Fair :=
      ⟨_, .defunct, .stays _, .lost _ _ (.inl rfl) (by simp [ProtocolFault.kind]), .stays _⟩
    have asked : Dialogue (fetchAll settings query).run talk.start (talk.exchanges ++ [next]) none :=
      sound.dialogue.concat progress rfl
    have straight := (steady _ _ asked (List.forall_mem_append.2
      ⟨sound.fair, List.forall_mem_singleton.2 fair⟩)).1
    have smooth := straight.smooth
    rw [List.dropLast_concat] at smooth
    exact absurd smooth blamed.not_smooth
  | finished value state rest =>
    have dialogue := sequential_fetchAll settings query _ sound.dialogue value state rest progress
    obtain ⟨-, result⟩ := sound.result_eq progress
    cases value with
    | ok value =>
      exact absurd ((steady _ _ dialogue sound.fair).2 _ _ rfl value rfl).1 blamed.not_smooth
    | error other =>
      rcases dialogue.fetchAll_failed sound.fair with ⟨-, silent, -⟩ | ⟨-, same⟩
      · exact absurd silent spoke
      · rw [result, blamed.unique same]

theorem fetchAll_failed_iff (reached : Reached versions journal connection)
    (quiet : Quiet connection) (moves : List Move) (fault : Fault) :
    (hold (fetchAll settings query).run connection moves).result (fetchAll settings query).run =
      some (.error fault) ↔
    Failed (hold (fetchAll settings query).run connection moves).start
      (hold (fetchAll settings query).run connection moves).exchanges fault := by
  have sound := hold_sound (fetchAll settings query).run reached quiet moves
  constructor
  · intro failed
    have concluded :=
      hold_concluded (fun _ => sequential_fetchAll settings query) reached quiet moves failed
    exact concluded.dialogue.fetchAll_failed concluded.fair
  · rintro (⟨lost, silent, rfl⟩ | ⟨-, blamed⟩)
    · generalize hold (fetchAll settings query).run connection moves = talk
        at sound lost silent ⊢
      have ended : (fetchAll settings query).run talk.start talk.replies =
          .finished (.error (.protocol .defunct)) .defunct [] := by
        rw [Conversation.replies, lost, silent]
        rfl
      exact (sound.result_eq ended).2
    · exact sound.fetchAll_blamed blamed

theorem fetchAll_ok_iff (reached : Reached versions journal connection)
    (quiet : Quiet connection) (moves : List Move) (result : QueryResult) :
    (hold (fetchAll settings query).run connection moves).result (fetchAll settings query).run =
      some (.ok result) ↔
    ∃ preparing run opened pulls answers, Fetched settings query
      (hold (fetchAll settings query).run connection moves).start
      (hold (fetchAll settings query).run connection moves).exchanges
      preparing run opened pulls answers result := by
  have sound := hold_sound (fetchAll settings query).run reached quiet moves
  constructor
  · intro given
    have concluded :=
      hold_concluded (fun _ => sequential_fetchAll settings query) reached quiet moves given
    obtain ⟨preparing, run, opened, pulls, answers, fetched, -⟩ := concluded.dialogue.fetched
    exact ⟨preparing, run, opened, pulls, answers, fetched⟩
  · rintro ⟨preparing, run, opened, pulls, answers, fetched⟩
    obtain ⟨final, ended⟩ := fetched.fetchAll_eq
    exact (sound.result_eq ended).2

theorem count_turns_eq_zero (kind : Request.Kind) {exchanges : List Exchange}
    (fair : ∀ exchange ∈ exchanges, exchange.Fair)
    (other : ∀ exchange ∈ exchanges, exchange.request.kind ≠ kind) :
    ((exchanges.flatMap Exchange.turns).map (·.request.kind)).count kind = 0 := by
  refine List.count_eq_zero.2 fun member => ?_
  obtain ⟨turn, among, rfl⟩ := List.mem_map.1 member
  obtain ⟨exchange, there, here⟩ := List.mem_flatMap.1 among
  obtain ⟨before, after, -, answers, -⟩ := fair exchange there
  exact other exchange there (answers.written turn here).kindEq.symm

/-- For every pull that was answered one was written. -/
theorem Taken.count_turns {qid : Option Int64} {pulls : List Exchange}
    {answers : List (List (List Value) × SuccessMetadata)} {summary : SuccessMetadata}
    (taken : Taken qid pulls answers summary) (fair : ∀ pull ∈ pulls, pull.Fair) :
    ((pulls.flatMap Exchange.turns).map (·.request.kind)).count .pull = pulls.length := by
  obtain ⟨each, -⟩ := taken
  induction each with
  | nil => rfl
  | @cons pull answer rest answers answered _ ih =>
    rw [List.forall_mem_cons] at fair
    obtain ⟨before, next, turn, -, one, written, -⟩ := fair.1.of_response answered.2
    have kind : turn.request.kind = .pull := by rw [written.kindEq, answered.1]; rfl
    simp [one, kind, ih fair.2]

/-- What is known of a connection behind a result that has been taken whole: as many pulls were
written as were answered, and the last answer was published with the state that the query left. -/
structure Exhausted (session : Session (Except Fault QueryResult)) (connection : Connection)
    (moves : List Move) (run : Exchange) (opened : SuccessMetadata) (pulls : List Exchange)
    (result : QueryResult) : Prop where
  written : ((log (hold session connection moves).journal).map (·.request.kind)).count .pull =
    pulls.length
  left : ∃ turn batch before after, run.turns = [turn] ∧ turn.request.kind = .run ∧
    Answered session connection moves (hold session connection moves).exchanges.dropLast
      (.pull (.all opened.qid)) ⟨batch, .success result.summary⟩ before after ∧
    (turn.state = .ready ∧ after = .ready ∨ turn.state.inTransaction = true ∧ after = .txReady)

theorem Fetched.exhausted (reached : Reached versions journal connection)
    (quiet : Quiet connection) (moves : List Move) {result : QueryResult}
    {preparing pulls : List Exchange} {run : Exchange} {opened : SuccessMetadata}
    {answers : List (List (List Value) × SuccessMetadata)}
    (fetched : Fetched settings query (hold (fetchAll settings query).run connection moves).start
      (hold (fetchAll settings query).run connection moves).exchanges preparing run opened pulls
      answers result) :
    Exhausted (fetchAll settings query).run connection moves run opened pulls result := by
  have sound := hold_sound (fetchAll settings query).run reached quiet moves
  have accounted := hold_accounted (fetchAll settings query).run reached quiet moves
  obtain ⟨final, ended⟩ := fetched.fetchAll_eq
  have written := sound.log_eq (sound.result_eq ended).1
  obtain ⟨_, pulling⟩ := fetched.pulls_behind sound.dialogue
  have fair := sound.fair
  obtain ⟨parts, prepares, request, succeeded, taken, -⟩ := fetched
  rw [parts, List.forall_mem_append, List.forall_mem_cons] at fair
  obtain ⟨fairFront, fairRun, fairPulls⟩ := fair
  have runKind : run.request.kind = .run := by rw [request]; rfl
  obtain ⟨turn, wanted, rest, one, kind, streams, held, lands⟩ :=
    fairRun.runs runKind (by rw [Exchange.succeeded, succeeded]; rfl)
  constructor
  · have greets := (prepare_sends settings _ preparing _ prepares fairFront).1
    have silent := count_turns_eq_zero .pull fairFront fun exchange member same => by
      simpa [same] using greets exchange member
    rw [written, parts]
    simp [silent, one, kind, taken.count_turns fairPulls]
  · obtain ⟨front, last, batch, rfl, pull, outcome, none⟩ := taken.last_pull
    have split : (hold (fetchAll settings query).run connection moves).exchanges =
        (preparing ++ run :: front) ++ last :: [] := by rw [parts]; simp
    obtain ⟨before, after, answering⟩ := accounted.said _ last [] _ split outcome
    obtain ⟨pulled, -, pulledWritten⟩ := answering.written
    have here := streams.last_pull pulling fairPulls held rfl
    obtain ⟨rfl, rfl⟩ := streams.answered here answering.first pull pulledWritten answering.leads
    rw [none] at answering
    refine ⟨turn, batch, before, rest, one, kind, ?_, lands⟩
    rw [split, List.dropLast_concat, ← pull]
    exact answering.answered

/-- A result is taken whole: it is given exactly if the connection was prepared, the query ran,
and the pulls were answered up to a summary that left nothing, and then it holds all that they
brought. Nothing is pulled beyond that, and the connection is where the query found it. Otherwise
the fault of the first failed step is given. Rows are read from the result when this
is over, and make no difference to the connection. -/
theorem takes_whole_result (settings : SessionSettings) (query : Query)
    (reached : Reached versions journal connection) (quiet : Quiet connection)
    (moves : List Move) :
    let session := (fetchAll settings query).run
    let talk := hold session connection moves
    (∀ result, talk.result session = some (.ok result) ↔ ∃ preparing run opened pulls answers,
      Fetched settings query talk.start talk.exchanges preparing run opened pulls answers result) ∧
    (∀ preparing run opened pulls answers result,
      Fetched settings query talk.start talk.exchanges preparing run opened pulls answers result →
        Exhausted session connection moves run opened pulls result) ∧
    (∀ fault, talk.result session = some (.error fault) ↔
      Failed talk.start talk.exchanges fault) ∧
    ∀ (β : Type) (read : Decoder β), let rows := (runQuery settings query read).run
      hold rows connection moves = talk ∧
      talk.result rows = (talk.result session).map fun fetched => fetched.bind fun result =>
        (result.records.mapM fun row => read (.list row)).mapError .codec := by
  refine ⟨fetchAll_ok_iff reached quiet moves, fun _ _ _ _ _ _ fetched =>
    fetched.exhausted reached quiet moves, fetchAll_failed_iff reached quiet moves, ?_⟩
  intro β read
  rw [runQuery_run]
  exact ⟨hold_map .., result_map ..⟩

/-- Two batches, the first of which leaves more; and rows that cannot be read. -/
theorem takes_two_batches :
    let settings : SessionSettings := { client := { userAgent := "a/1" } }
    let success : Bytes := [0, 3, 0xB1, 0x70, 0xA0, 0, 0]
    let named : Bytes := [0, 8, 0xB1, 0x70, 0xA1, 0x83, 0x71, 0x69, 0x64, 0, 0, 0]
    let record : Bytes := [0, 4, 0xB1, 0x71, 0x91, 1, 0, 0]
    let more : Bytes := [0, 13, 0xB1, 0x70, 0xA1, 0x88, 0x68, 0x61, 0x73, 0x5F, 0x6D, 0x6F, 0x72,
      0x65, 0xC3, 0, 0]
    let batch (last : Bytes) : List Move := [.goOn, .happen (.take .whole),
      .happen (.receive (record ++ last)), .happen .poll, .happen .poll, .goOn]
    let moves := Move.opens ++ [success, success, named].flatMap Move.answered ++
      batch more ++ batch success
    let query : Query := { text := "A" }
    let session := (fetchAll settings query).run
    let rows := (runQuery settings query Decoder.boolean).run
    let talk := hold session (.start [.current]) moves
    (∃ preparing run opened pulls answers result, Fetched settings query talk.start talk.exchanges
      preparing run opened pulls answers result ∧ result.records.length = 2 ∧
      Exhausted session (.start [.current]) moves run opened pulls result) ∧
    ((hold rows (.start [.current]) moves).result rows).map Except.isOk = some false ∧
      (hold rows (.start [.current]) moves).connection.state = .ready := by
  intro settings success named record more batch moves query session rows talk
  have reached : Reached [.current] [] (.start [.current]) := .start
  obtain ⟨given, exhausted, -, reads⟩ := takes_whole_result settings query reached ⟨rfl, rfl⟩ moves
  have two : (talk.result session).bind (fun fetched => fetched.toOption.map (·.records.length)) =
      some 2 := by decide +kernel
  have ready : talk.connection.state = .ready := by decide +kernel
  obtain ⟨fetched, ended, counted⟩ := Option.bind_eq_some_iff.1 two
  have unread : ((hold rows (.start [.current]) moves).result rows).map Except.isOk =
      some false := by decide +kernel
  refine ⟨?_, unread, (reads Bool Decoder.boolean).1.symm ▸ ready⟩
  cases fetched with
  | error fault => cases counted
  | ok result =>
    obtain ⟨preparing, run, opened, pulls, answers, took⟩ := (given result).1 ended
    exact ⟨preparing, run, opened, pulls, answers, result, took, Option.some.inj counted,
      exhausted _ _ _ _ _ _ took⟩

end Whole

end BoltClient.Session
