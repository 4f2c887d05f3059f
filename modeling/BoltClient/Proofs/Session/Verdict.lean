import BoltClient.Proofs.Session.Answering
import BoltClient.Proofs.Session.Statements

/-!
What a transaction says about itself. It gives a value only if the commit that was sent
behind its body was answered with a success, by the step that took the connection out of
the transaction. When the body has failed nothing but a rollback is sent, and what the
transaction gives is the failure of the body, whatever becomes of the rollback.
-/

namespace BoltClient

open Connection

namespace Session

variable {α : Type}

/-- The first request that is of no such kind is where it is. -/
theorem Only.split_eq {kinds : List Request.Kind} {front other rest more : List Exchange}
    {first second : Exchange} (left : Only kinds front) (right : Only kinds other)
    (outside : first.request.kind ∉ kinds) (outside' : second.request.kind ∉ kinds)
    (split : front ++ first :: rest = other ++ second :: more) :
    front = other ∧ first = second ∧ rest = more := by
  induction front generalizing other with
  | nil =>
    cases other with
    | nil => simpa using split
    | cons head tail =>
      obtain ⟨rfl, -⟩ := List.cons.inj split
      exact absurd (right first List.mem_cons_self) outside
  | cons head tail ih =>
    obtain ⟨here, among⟩ := List.forall_mem_cons.1 left
    cases other with
    | nil =>
      obtain ⟨rfl, -⟩ := List.cons.inj split
      exact absurd here outside'
    | cons head' tail' =>
      obtain ⟨rfl, later⟩ := List.cons.inj split
      obtain ⟨rfl, same⟩ := ih among (List.forall_mem_cons.1 right).2 later
      exact ⟨rfl, same⟩

/-- What is sent to open a transaction ends with the request for it to begin, if it succeeds. -/
theorem Dialogue.opened {settings : SessionSettings} {options : TransactionOptions}
    {body : Attempt α} {start : ServerState} {front rest : List Exchange} {opener : Exchange}
    {result : Option (Except Fault α × ServerState)}
    (dialogue : Dialogue (withinTransaction settings options body).run start
      (front ++ opener :: rest) result)
    (fair : ∀ exchange ∈ front ++ opener :: rest, exchange.Fair)
    (sent : Only [.hello, .logon, .reset] front) (request : opener.request = .begin options)
    (succeeded : opener.succeeded = true) :
    Dialogue (opening settings options).run start (front ++ [opener])
      (some (.ok (), opener.reply.state)) := by
  have parts : (opening settings options).run = (prepare settings).run >>= fun prepared =>
      match prepared with
      | .ok _ => (discard (metadata (.begin options))).run
      | .error fault => pure (.error fault) := by
    refine (ExceptT.run_bind ..).trans (bind_congr fun prepared => ?_)
    cases prepared <;> rfl
  have outside : opener.request.kind ∉ ([.hello, .logon, .reset] : List Request.Kind) := by
    simp [request, Request.kind]
  have mixed := dialogue
  rw [withinTransaction_run, parts, bind_assoc] at mixed
  rcases mixed.bind (sequential_prepare settings) with
    ⟨prepares, -⟩ | ⟨first, second, prepared, state, split, prepares, goesOn⟩
  · exact absurd ((prepare_sends settings start _ none prepares fair).1 opener (by simp)) outside
  · have greets : Only [.hello, .logon, .reset] first :=
      (prepare_sends settings start first _ prepares fun exchange member =>
        fair exchange (split ▸ List.mem_append_left second member)).1
    cases second with
    | nil =>
      rw [List.append_nil] at split
      exact absurd (greets opener (by simp [← split])) outside
    | cons asked later =>
      cases prepared with
      | error fault => cases goesOn with | ask _ asks => cases asks
      | ok _ =>
        cases goesOn with
        | ask same asks =>
          have begins : asked.request = .begin options := (Progress.asks.inj asks).symm
          obtain ⟨rfl, rfl, -⟩ := sent.split_eq greets outside (by simp [begins, Request.kind]) split
          obtain ⟨records, summary, outcome⟩ := Exchange.response_of_succeeded succeeded
          have begun : Dialogue (discard (metadata (.begin options))).run state [opener]
              (some (.ok (), opener.reply.state)) := by
            rw [discard_run, metadata_run]
            refine .ask same (congrArg Progress.asks begins.symm) (.finish fun replies => ?_)
            change Progress.finished (((opener.reply.outcome.bind Response.metadata).mapError
              Fault.protocol).map fun _ => ()) opener.reply.state replies = _
            rw [outcome]
            rfl
          rw [parts]
          exact prepares.append begun

section Behind

variable {settings : SessionSettings} {options : TransactionOptions} {body : Attempt α}
  {start state : ServerState} {said middle rest : List Exchange} {opener : Exchange}
  {value : Except Fault α} {result : Option (Except Fault α × ServerState)}

/-- Behind the body there is only what ends the transaction. -/
theorem Begun.behind (begun : Begun options body said opener middle (some (value, state)))
    (dialogue : Dialogue (withinTransaction settings options body).run start (said ++ rest) result)
    (fair : ∀ exchange ∈ said ++ rest, exchange.Fair) :
    Dialogue (closing value) state rest result ∧
      ∀ more, (withinTransaction settings options body).run start
        (said.map Exchange.reply ++ more) = closing value state more := by
  obtain ⟨⟨front, rfl, sent⟩, request, succeeded, bodily⟩ := begun
  rw [List.append_assoc, List.cons_append] at dialogue fair
  have opened := dialogue.opened fair sent request succeeded
  have split : front ++ opener :: (middle ++ rest) = front ++ [opener] ++ (middle ++ rest) := by simp
  rw [split, withinTransaction_run] at dialogue
  refine ⟨bodily.behind (opened.behind dialogue), fun more => ?_⟩
  have replies : (front ++ opener :: middle).map Exchange.reply ++ more =
      (front ++ [opener]).map Exchange.reply ++ (middle.map Exchange.reply ++ more) := by simp
  rw [withinTransaction_run, replies, bind_finished (opened.replay _)]
  exact bind_finished (bodily.replay more)

/-- Before the body only requests that open a transaction are written. -/
theorem Begun.opening_turns {front : List Exchange}
    (begun : Begun options body said opener middle (some (value, state)))
    (split : said = front ++ opener :: middle) (fair : ∀ exchange ∈ said, exchange.Fair) :
    ∀ turn ∈ (front ++ [opener]).flatMap Exchange.turns,
      turn.request.kind ∈ [.hello, .logon, .reset, .begin] := by
  obtain ⟨other, parts, sent⟩ := begun.parts
  obtain rfl := List.append_cancel_right (split.symm.trans parts)
  rw [split, ← List.singleton_append, ← List.append_assoc] at fair
  have only : Only [.hello, .logon, .reset, .begin] (front ++ [opener]) := by
    refine Only.append (fun exchange among => ?_) (.one (by simp [begun.request, Request.kind]))
    exact List.mem_append_left ([.begin] : List Request.Kind) (sent exchange among)
  exact only.turns (List.forall_mem_append.1 fair).1

end Behind

/-- A rollback is written only at the end of a transaction in which nothing is left to take, and
before anything has become of the connection. -/
theorem Closes.rolled_back {exchanges : List Exchange} {last : Exchange} {state : ServerState}
    (closes : Closes state .rollback exchanges last) (inside : state.inTransaction = true)
    {turn : Turn} (member : turn ∈ exchanges.flatMap Exchange.turns) :
    turn.request.kind = .rollback ∧ turn.state = .txReady ∧ state = .txReady := by
  obtain ⟨parts, ⟨before, after, drifts, answers, -⟩, same, request⟩ := closes
  rw [parts, List.flatMap_singleton] at member
  obtain ⟨kind, here, allowed⟩ := answers.written turn member
  rw [request] at kind allowed
  rw [same] at drifts
  have opened : state ≠ .disconnected := by
    rintro rfl
    cases inside
  rcases drifts.eq_or_defunct opened with rfl | rfl
  · have ready : before = .txReady := by
      cases before with
      | txReady => rfl
      | txStreaming => cases allowed
      | _ => cases inside
    exact ⟨kind, here.trans ready, ready⟩
  · cases allowed

section Closing

variable {fault : Fault} {state : ServerState}

/-- Behind a failure only a rollback is written. -/
theorem closing_turns {exchanges : List Exchange}
    (dialogue : Dialogue (closing (.error fault : Except Fault α)) state exchanges none)
    (fair : ∀ exchange ∈ exchanges, exchange.Fair) {turn : Turn}
    (member : turn ∈ exchanges.flatMap Exchange.turns) :
    turn.request.kind = .rollback ∧ turn.state = .txReady ∧ state = .txReady := by
  rcases (rollback_yields fault exchanges none dialogue fair).1 with rfl | ⟨inside, last, closes⟩
  · cases member
  · exact closes.rolled_back inside member

/-- Behind a value a commit is sent, and the value is given unless it fails. -/
theorem closing_value (value : α) : closing (.ok value) state [] = .asks .commit ∧
    ∀ reply replies, closing (.ok value) state (reply :: replies) =
      .finished (((reply.outcome.bind Response.metadata).mapError .protocol).map fun _ => value)
        reply.state replies := by
  have commits : closing (.ok value) = (metadata .commit).run >>= fun outcome =>
      pure (outcome.map fun _ => value) :=
    bind_congr fun outcome => by cases outcome <;> rfl
  rw [commits, metadata_run]
  exact ⟨rfl, fun _ _ => rfl⟩

/-- Out of the transaction there is nothing to roll back. -/
theorem closing_outside (outside : state.inTransaction = false) (replies : List Reply) :
    closing (.error fault : Except Fault α) state replies =
      .finished (.error fault) state replies := by
  refine (bind_finished rfl).trans ?_
  rw [outside]
  rfl

/-- Inside of it a rollback is sent, and it makes no difference to what is given. -/
theorem closing_inside (inside : state.inTransaction = true) :
    closing (.error fault : Except Fault α) state [] = .asks .rollback ∧ ∀ reply replies,
      closing (.error fault : Except Fault α) state (reply :: replies) =
        .finished (.error fault) reply.state replies := by
  have looks (replies : List Reply) : closing (.error fault : Except Fault α) state replies =
      ((discard (metadata .rollback).run) >>= fun _ => pure (.error fault)) state replies := by
    refine (bind_finished rfl).trans ?_
    rw [inside]
    rfl
  rw [metadata_run] at looks
  exact ⟨looks [], fun reply replies => looks (reply :: replies)⟩

end Closing

/-- That a commit was sent last, in the state in which it may be sent, and answered with a
success; the step that gave the answer left the connection ready. -/
structure Committed (session : Session α) (connection : Connection) (moves : List Move)
    (said : List Exchange) (last : Exchange) : Prop where
  request : last.request = .commit
  written : ∃ turn, last.turns = [turn] ∧ turn.request.kind = .commit ∧ turn.state = .txReady
  answered : ∃ records metadata, last.reply.outcome = .ok ⟨records, .success metadata⟩ ∧
    Answered session connection moves said .commit ⟨records, .success metadata⟩ .txReady .ready

/-- How a transaction goes on behind a body that failed in a state. -/
structure Undone (session : Session (Except Fault α)) (talk : Conversation)
    (said back : List Exchange) (opener : Exchange) (middle : List Exchange) (fault : Fault)
    (state : ServerState) : Prop where
  /-- out of the transaction it ends at once -/
  ends : state.inTransaction = false → ∀ more,
    session talk.start (said.map Exchange.reply ++ more) = .finished (.error fault) state more
  /-- inside it a rollback is sent, and any reply to it is the end -/
  rollsBack : state.inTransaction = true →
    session talk.start (said.map Exchange.reply) = .asks .rollback ∧ ∀ reply more,
      session talk.start (said.map Exchange.reply ++ reply :: more) =
        .finished (.error fault) reply.state more
  result : ∀ result, talk.result session = some result → result = .error fault
  /-- no commit is written before the body or behind it -/
  uncommitted : ∀ front, said = front ++ opener :: middle →
    ∀ turn ∈ (front ++ [opener]).flatMap Exchange.turns ++
      log (back.flatMap Exchange.seen ++ talk.seen), turn.request.kind ≠ .commit
  /-- a rollback is written if the connection was ready for it when the body had ended and when
  its turn came -/
  rollback : (∃ turn ∈ log (back.flatMap Exchange.seen ++ talk.seen),
      turn.request.kind = .rollback) ↔
    state = .txReady ∧ ∃ turn ∈ collect Notes.turns (back.flatMap Exchange.seen ++ talk.seen),
      turn.request.kind = .rollback ∧ turn.state = .txReady

section Verdict

variable {settings : SessionSettings} {options : TransactionOptions} {body : Attempt α}
  {versions : List Version} {journal : Journal} {connection : Connection}

theorem committed_of_value (sequential : ∀ state, Sequential body.run state)
    (reached : Reached versions journal connection) (quiet : Quiet connection)
    (moves : List Move) {value : α}
    (given : (hold (withinTransaction settings options body).run connection moves).result
      (withinTransaction settings options body).run = some (.ok value)) :
    ∃ said opener middle last,
      (hold (withinTransaction settings options body).run connection moves).exchanges =
        said ++ [last] ∧
      Begun options body said opener middle (some (.ok value, .txReady)) ∧
      Committed (withinTransaction settings options body).run connection moves said last := by
  have concluded := hold_concluded
    (fun _ => sequential_withinTransaction settings options sequential) reached quiet moves given
  have accounted := hold_accounted (withinTransaction settings options body).run reached quiet moves
  generalize hold (withinTransaction settings options body).run connection moves = talk
    at given concluded accounted ⊢
  rcases concluded.dialogue.transaction_course sequential concluded.fair with
    ⟨-, failed⟩ | ⟨_, _, -, other⟩ | ⟨said, opener, middle, result, state, back, split, begun, closes⟩
  · cases failed _ _ rfl
  · cases other
  · have fair : ∀ exchange ∈ back, exchange.Fair := fun exchange member =>
      concluded.fair exchange (split ▸ List.mem_append_right said member)
    cases result with
    | error fault => cases ((rollback_yields fault back _ closes fair).2 _ _ rfl).1
    | ok other =>
      obtain ⟨last, sent, -, succeeded, same⟩ := (commit_yields other back _ closes fair).2 _ _ rfl
      cases same value rfl
      obtain ⟨records, metadata, outcome⟩ := Exchange.response_of_succeeded succeeded.symm
      rw [sent.parts] at split
      obtain ⟨before, after, answering⟩ := accounted.said said last [] _ split outcome
      obtain ⟨turn, one, written⟩ := answering.written
      have kind : last.request.kind = .commit := by rw [sent.request]; rfl
      have leads := answering.leads
      rw [kind] at leads
      obtain ⟨rfl, rfl⟩ := Request.Kind.closing_leads (.inl rfl) rfl leads
      have state : state = .txReady :=
        sent.state.symm.trans (answering.first.eq_of_inTransaction rfl)
      refine ⟨said, opener, middle, last, split, state ▸ begun, sent.request, ?_, ?_⟩
      · exact ⟨turn, one, written.kindEq.trans kind, written.stateEq⟩
      · exact ⟨records, metadata, outcome, sent.request ▸ answering.answered⟩

theorem undone_of_failure (sequential : ∀ state, Sequential body.run state)
    (reached : Reached versions journal connection) (quiet : Quiet connection)
    (moves : List Move) {said middle back : List Exchange} {opener : Exchange} {fault : Fault}
    {state : ServerState}
    (split : (hold (withinTransaction settings options body).run connection moves).exchanges =
      said ++ back)
    (begun : Begun options body said opener middle (some (.error fault, state))) :
    Undone (withinTransaction settings options body).run
      (hold (withinTransaction settings options body).run connection moves) said back opener
      middle fault state := by
  have sound := hold_sound (withinTransaction settings options body).run reached quiet moves
  have concluded (result : Except Fault α) := @hold_concluded _ _
    (fun _ => sequential_withinTransaction settings options sequential) _ _ _ reached quiet moves
    result
  generalize hold (withinTransaction settings options body).run connection moves = talk
    at split sound concluded ⊢
  obtain ⟨more, dialogue, fair, turns⟩ := sound.pending
  have spoken := sound.fair
  rw [split] at dialogue spoken
  have whole : ∀ exchange ∈ said ++ (back ++ more), exchange.Fair := by
    rw [← List.append_assoc]
    exact List.forall_mem_append.2 ⟨spoken, fair⟩
  rw [List.append_assoc] at dialogue
  obtain ⟨closes, replay⟩ := begun.behind dialogue whole
  have rollback {turn : Turn} (member : turn ∈ log (back.flatMap Exchange.seen ++ talk.seen)) :
      turn.request.kind = .rollback ∧ turn.state = .txReady ∧ state = .txReady := by
    rw [log_append, log_flatMap, turns, ← List.flatMap_append] at member
    exact closing_turns closes (List.forall_mem_append.1 whole).2 member
  constructor
  · exact fun outside more => (replay more).trans (closing_outside outside more)
  · intro inside
    have begins := replay []
    rw [List.append_nil] at begins
    exact ⟨begins.trans (closing_inside inside).1, fun reply more =>
      (replay (reply :: more)).trans ((closing_inside inside).2 reply more)⟩
  · intro result given
    have ended := (concluded result given).dialogue
    rw [split] at ended
    exact ((rollback_yields fault back _ (begun.behind ended spoken).1
      (List.forall_mem_append.1 spoken).2).2 result _ rfl).1
  · intro front same turn member
    rcases List.mem_append.1 member with early | late
    · have among := begun.opening_turns same (List.forall_mem_append.1 whole).1 turn early
      intro commits
      simp [commits] at among
    · simp [(rollback late).1]
  · constructor
    · rintro ⟨turn, member, -⟩
      obtain ⟨kind, here, ready⟩ := rollback member
      exact ⟨ready, turn, (List.mem_filter.1 member).1, kind, here⟩
    · rintro ⟨-, turn, among, kind, here⟩
      refine ⟨turn, List.mem_filter.2 ⟨among, ?_⟩, kind⟩
      rw [Turn.isAllowed, kind, here]
      rfl

/-- A transaction tells how it ended. It gives a value only if its body gave that value in a
transaction that had begun, and the commit behind the body succeeded in that transaction. If the
body fails, its failure is given, whatever becomes of the rollback, and the rollback is
written exactly if the connection was ready for it. -/
theorem tells_how_it_ended (settings : SessionSettings) (options : TransactionOptions)
    {body : Attempt α} (sequential : ∀ state, Sequential body.run state)
    (reached : Reached versions journal connection) (quiet : Quiet connection)
    (moves : List Move) :
    let session := (withinTransaction settings options body).run
    let talk := hold session connection moves
    (∀ value, talk.result session = some (.ok value) → ∃ said opener middle last,
      talk.exchanges = said ++ [last] ∧
      Begun options body said opener middle (some (.ok value, .txReady)) ∧
      Committed session connection moves said last) ∧
    (∀ said opener middle back value state, talk.exchanges = said ++ back →
      Begun options body said opener middle (some (.ok value, state)) →
        session talk.start (said.map Exchange.reply) = .asks .commit ∧ ∀ reply more,
          session talk.start (said.map Exchange.reply ++ reply :: more) =
            .finished (((reply.outcome.bind Response.metadata).mapError .protocol).map
              fun _ => value) reply.state more) ∧
    ∀ said opener middle back fault state, talk.exchanges = said ++ back →
      Begun options body said opener middle (some (.error fault, state)) →
        Undone session talk said back opener middle fault state := by
  intro session talk
  have sound : Sound session talk := hold_sound session reached quiet moves
  refine ⟨fun value => committed_of_value sequential reached quiet moves, ?_,
    fun _ _ _ _ _ _ => undone_of_failure sequential reached quiet moves⟩
  intro said opener middle back value state split begun
  have spoken := sound.fair
  have dialogue := sound.dialogue
  rw [split] at spoken dialogue
  obtain ⟨-, replay⟩ := begun.behind dialogue spoken
  have begins := replay []
  rw [List.append_nil] at begins
  exact ⟨begins.trans (closing_value value).1, fun reply more =>
    (replay (reply :: more)).trans ((closing_value value).2 reply more)⟩

/-- A transaction that takes a record and is committed, and one whose body fails behind the record
and whose rollback is answered with a failure of the server. -/
theorem told_amid_failed_rollback :
    let settings : SessionSettings := { client := { userAgent := "a/1" } }
    let success : Bytes := [0, 3, 0xB1, 0x70, 0xA0, 0, 0]
    let named : Bytes := [0, 8, 0xB1, 0x70, 0xA1, 0x83, 0x71, 0x69, 0x64, 0, 0, 0]
    let record : Bytes := [0, 4, 0xB1, 0x71, 0x91, 1, 0, 0]
    let failure : Bytes := [0, 20, 0xB1, 0x7F, 0xA2, 0x84, 0x63, 0x6F, 0x64, 0x65, 0x81, 0x63,
      0x87, 0x6D, 0x65, 0x73, 0x73, 0x61, 0x67, 0x65, 0x81, 0x6D, 0, 0]
    let stop : Fault := .settings (.reported "stop")
    let body (result : Except Fault Nat) : Body Nat :=
      .call (.fetchAll { text := "R" }) fun _ => .finish result
    let session (result : Except Fault Nat) :=
      (withinTransaction settings {} ((body result).program settings)).run
    let taken := Move.opens ++ [success, success, success, named].flatMap Move.answered ++
      [.goOn, .happen (.take .whole), .happen (.receive (record ++ success)), .happen .poll,
        .happen .poll, .goOn]
    let commits := taken ++ Move.answered success
    let fails := taken ++ Move.answered failure
    let first := hold (session (.ok 1)) (.start [.current]) commits
    let second := hold (session (.error stop)) (.start [.current]) fails
    (first.result (session (.ok 1)) = some (.ok 1) ∧ ∃ said last,
      first.exchanges = said ++ [last] ∧
        Committed (session (.ok 1)) (.start [.current]) commits said last) ∧
    (second.result (session (.error stop)) = some (.error stop) ∧
      (log second.journal).map (·.request.kind) = [.hello, .logon, .begin, .run, .pull, .rollback] ∧
      ∃ said opener middle back state, second.exchanges = said ++ back ∧
        Undone (session (.error stop)) second said back opener middle stop state) := by
  intro settings success named record failure stop body session taken commits fails first second
  have sequential (result : Except Fault Nat) (state : ServerState) :
      Sequential ((body result).program settings).run state :=
    sequential_body settings _ state
  have committed : first.result (session (.ok 1)) = some (.ok 1) := by decide +kernel
  have failed : second.result (session (.error stop)) = some (.error stop) := by decide +kernel
  have written : (log second.journal).map (·.request.kind) =
      [.hello, .logon, .begin, .run, .pull, .rollback] := by decide +kernel
  have requests : second.exchanges.map (·.request.kind) =
      [.hello, .logon, .begin, .run, .pull, .rollback] := by decide +kernel
  refine ⟨⟨committed, ?_⟩, failed, written, ?_⟩
  · obtain ⟨said, opener, middle, last, split, -, commits⟩ :=
      (tells_how_it_ended settings {} (sequential (.ok 1)) .start ⟨rfl, rfl⟩ commits).1 1 committed
    exact ⟨said, last, split, commits⟩
  · have concluded := hold_concluded (fun _ => sequential_withinTransaction settings {}
      (sequential (.error stop))) .start ⟨rfl, rfl⟩ fails failed
    have sent {kind : Request.Kind} : (∃ exchange ∈ second.exchanges,
        exchange.request.kind = kind) ↔
          kind ∈ ([.hello, .logon, .begin, .run, .pull, .rollback] : List _) :=
      requests ▸ List.mem_map.symm
    rcases concluded.dialogue.transaction_course (sequential (.error stop)) concluded.fair with
      ⟨only, -⟩ | ⟨_, _, -, other⟩ | ⟨said, opener, middle, result, state, back, split, begun, closes⟩
    · obtain ⟨last, member, kind⟩ := sent.2 (show Request.Kind.rollback ∈ _ by decide)
      have among := only last member
      simp [kind] at among
    · cases other
    · have undone (fault : Fault) := (tells_how_it_ended settings {} (sequential (.error stop))
        .start ⟨rfl, rfl⟩ fails).2.2 said opener middle back fault state split
      cases result with
      | ok value =>
        obtain ⟨last, commits, -⟩ := (commit_yields value back _ closes fun exchange member =>
          concluded.fair exchange (split ▸ List.mem_append_right said member)).2 _ _ rfl
        have none := sent.1 ⟨last, split ▸ by simp [commits.parts], by rw [commits.request]⟩
        cases (show Request.Kind.commit ∉ _ by decide) none
      | error fault =>
        have told := undone fault begun
        cases told.result _ failed
        exact ⟨said, opener, middle, back, state, split, told⟩

end Verdict

end Session
end BoltClient
