import Mathlib.Control.Lawful
import BoltClient.Proofs.Session.Dialogue
import BoltClient.Session.Call

/-!
The programs of a session as callers: how they are made of parts, and that each of
them takes the replies to its own requests and no others.
-/

namespace BoltClient.Session

variable {α β : Type}

theorem bind_pure_id (session : Session α) :
    session >>= (fun value => pure (id value)) = session := by
  funext state replies
  dsimp only [Bind.bind]
  cases session state replies <;> rfl

instance : LawfulMonad Session :=
  .mk' _ bind_pure_id (fun _ _ => rfl) fun session first second => by
    funext state replies
    dsimp only [Bind.bind]
    cases session state replies <;> rfl

theorem discard_run (attempt : Attempt α) :
    (discard attempt).run = (fun result => result.map fun _ => ()) <$> attempt.run :=
  ExceptT.run_map (Function.const α ()) attempt

theorem metadata_run (request : Request) : (metadata request).run =
    (fun outcome => (outcome.bind Response.metadata).mapError Fault.protocol) <$> ask request := by
  simp only [metadata, ExceptT.run_bind, ExceptT.run_monadLift, map_eq_pure_bind, bind_assoc,
    pure_bind]
  congr 1
  funext outcome
  cases outcome.bind Response.metadata <;> rfl

theorem perform_run (request : Request) : (perform request).run =
    (fun outcome => (outcome.bind request.kind.output).mapError Fault.protocol) <$>
      ask request := by
  simp only [perform, ExceptT.run_bind, ExceptT.run_monadLift, map_eq_pure_bind, bind_assoc,
    pure_bind]
  congr 1
  funext outcome
  cases outcome.bind request.kind.output <;> rfl

/-- What comes of pulling once. -/
def pulled (qid : Option Int64) (gathered : List (List Value)) (outcome : Outcome) :
    Attempt (List (List Value) × SuccessMetadata) :=
  match outcome.bind Response.result with
  | .error fault => throw (.protocol fault)
  | .ok (batch, summary) =>
    if summary.streaming then pullAll qid (gathered ++ batch)
    else return (gathered ++ batch, summary)

section Pulled

variable {qid : Option Int64} {gathered batch : List (List Value)} {outcome : Outcome}
  {summary : SuccessMetadata}

theorem pulled_error {fault : ProtocolFault}
    (failed : outcome.bind Response.result = .error fault) :
    pulled qid gathered outcome = throw (.protocol fault) := by
  rw [pulled, failed]

theorem pulled_more (answer : outcome.bind Response.result = .ok (batch, summary))
    (more : summary.streaming = true) :
    pulled qid gathered outcome = pullAll qid (gathered ++ batch) := by
  rw [pulled, answer]
  exact if_pos more

theorem pulled_last (answer : outcome.bind Response.result = .ok (batch, summary))
    (last : summary.streaming = false) :
    pulled qid gathered outcome = pure (gathered ++ batch, summary) := by
  rw [pulled, answer]
  exact if_neg (Bool.eq_false_iff.1 last)

end Pulled

/-- Pulling goes on as long as more is left. -/
theorem pullAll_run (qid : Option Int64) (gathered : List (List Value)) :
    (pullAll qid gathered).run =
      ask (.pull (.all qid)) >>= fun outcome => (pulled qid gathered outcome).run := by
  funext state replies
  cases replies with
  | nil => rfl
  | cons reply rest =>
    change pullAll.pullFrom qid gathered state (reply :: rest) =
      (pulled qid gathered reply.outcome).run reply.state rest
    cases answer : reply.outcome.bind Response.result with
    | error fault =>
      rw [pullAll.pullFrom, answer, pulled_error answer]
      rfl
    | ok answered =>
      obtain ⟨batch, summary⟩ := answered
      cases more : summary.streaming with
      | true =>
        rw [pullAll.pullFrom, answer, pulled_more answer more]
        exact if_pos more
      | false =>
        rw [pullAll.pullFrom, answer, pulled_last answer more]
        exact if_neg (Bool.eq_false_iff.1 more)

/-- Behind a reply, pulling goes on with what comes of it. -/
theorem after_pullAll (qid : Option Int64) (gathered : List (List Value)) (start : ServerState)
    (reply : Reply) (replies : List Reply) :
    (pullAll qid gathered).run.after start reply reply.state replies =
      (pulled qid gathered reply.outcome).run reply.state replies :=
  congrFun (congrFun (pullAll_run qid gathered) start) (reply :: replies)

/-- What can become of one pull: it fails, it takes the last records, or more are left. -/
inductive Pulling (qid : Option Int64) (gathered : List (List Value)) (exchange : Exchange)
    (rest : List Exchange)
    (result : Option (Except Fault (List (List Value) × SuccessMetadata) × ServerState)) : Prop where
  | fails (reason : ProtocolFault)
    (answer : exchange.reply.outcome.bind Response.result = .error reason)
    (goesOn : Dialogue (throw (.protocol reason) : Attempt _).run exchange.reply.state rest result)
  | last (batch : List (List Value)) (summary : SuccessMetadata)
    (answer : exchange.reply.outcome.bind Response.result = .ok (batch, summary))
    (none : summary.streaming = false)
    (goesOn : Dialogue (pure (gathered ++ batch, summary) : Attempt _).run exchange.reply.state
      rest result)
  | more (batch : List (List Value)) (summary : SuccessMetadata)
    (answer : exchange.reply.outcome.bind Response.result = .ok (batch, summary))
    (some : summary.streaming = true)
    (goesOn : Dialogue (pullAll qid (gathered ++ batch)).run exchange.reply.state rest result)

theorem Dialogue.pulling {qid : Option Int64} {gathered : List (List Value)} {start : ServerState}
    {exchange : Exchange} {rest : List Exchange}
    {result : Option (Except Fault (List (List Value) × SuccessMetadata) × ServerState)}
    (dialogue : Dialogue (pullAll qid gathered).run start (exchange :: rest) result) :
    exchange.state = start ∧ exchange.request = .pull (.all qid) ∧
      Pulling qid gathered exchange rest result := by
  cases dialogue with
  | ask same asks later =>
    refine ⟨same, (Progress.asks.inj asks).symm, ?_⟩
    replace later := later.congr (after_pullAll qid gathered start exchange.reply)
    cases answer : exchange.reply.outcome.bind Response.result with
    | error fault =>
      rw [pulled_error answer] at later
      exact .fails fault answer later
    | ok answered =>
      obtain ⟨batch, summary⟩ := answered
      cases more : summary.streaming with
      | true =>
        rw [pulled_more answer more] at later
        exact .more batch summary answer more later
      | false =>
        rw [pulled_last answer more] at later
        exact .last batch summary answer more later

/-- What a connection in a state needs before it can take a query. -/
def preparing (settings : SessionSettings) : ServerState → Attempt Unit
  | .negotiation => do
    discard (metadata (.hello settings.client))
    discard (metadata (.logon settings.auth))
  | .authentication => discard (metadata (.logon settings.auth))
  | .failed | .interrupted => discard (metadata .reset)
  | .defunct => throw (.protocol .defunct)
  | _ => return ()

theorem prepare_run (settings : SessionSettings) : (prepare settings).run =
    awaitOpening >>= fun _ => current >>= fun now => (preparing settings now).run := by
  simp only [prepare, ExceptT.run_bind, ExceptT.run_monadLift, map_eq_pure_bind, bind_assoc,
    pure_bind]
  refine bind_congr fun _ => bind_congr fun now => ?_
  cases now <;> rfl

/-- What comes before the body of a transaction. -/
def opening (settings : SessionSettings) (options : TransactionOptions) : Attempt Unit := do
  prepare settings
  discard (metadata (.begin options))

/-- What comes behind the body of a transaction. -/
def closing : Except Fault α → Session (Except Fault α)
  | .ok value => do
    match ← (metadata .commit).run with
    | .ok _ => return .ok value
    | .error fault => return .error fault
  | .error fault => do
    if (← current).inTransaction then discard (metadata .rollback).run
    return .error fault

theorem reportTransaction_eq (settings : SessionSettings) (options : TransactionOptions)
    (body : Session (β × Except Fault α)) : reportTransaction settings options body =
      (opening settings options).run >>= fun opened => match opened with
        | .error fault => pure (none, .error fault)
        | .ok () => body >>= fun ended =>
          (fun result => (some ended.1, result)) <$> closing ended.2 := by
  rw [reportTransaction]
  congr 1
  funext opened
  cases opened with
  | error fault => rfl
  | ok _ =>
    refine bind_congr fun ⟨report, result⟩ => ?_
    cases result with
    | ok value =>
      simp only [closing, map_eq_pure_bind, bind_assoc]
      refine bind_congr fun outcome => ?_
      cases outcome <;> rfl
    | error fault =>
      simp only [closing, map_eq_pure_bind, bind_assoc]
      refine bind_congr fun state => ?_
      cases state.inTransaction <;> simp

theorem withinTransaction_run (settings : SessionSettings) (options : TransactionOptions)
    (body : Attempt α) : (withinTransaction settings options body).run =
      (opening settings options).run >>= fun opened => match opened with
        | .error fault => pure (.error fault)
        | .ok () => body.run >>= closing := by
  rw [withinTransaction, ExceptT.run_mk, reportTransaction_eq, bind_assoc]
  congr 1
  funext opened
  cases opened with
  | error fault => rfl
  | ok _ => simp only [map_eq_pure_bind, bind_assoc, pure_bind, bind_pure]

section Sequential

variable {start : ServerState} {session : Session α} {attempt : Attempt α}

theorem Sequential.lift (sequential : Sequential session start) :
    Sequential (liftM session : Attempt α).run start :=
  sequential.map Except.ok

theorem Sequential.discard (sequential : Sequential attempt.run start) :
    Sequential (discard attempt).run start := by
  rw [discard_run]
  exact sequential.map _

theorem sequential_metadata (request : Request) : Sequential (metadata request).run start := by
  rw [metadata_run]
  exact (sequential_ask request).map _

theorem sequential_perform (request : Request) : Sequential (perform request).run start := by
  rw [perform_run]
  exact (sequential_ask request).map _

theorem sequential_goodbye : Sequential goodbye.run start := by
  refine (sequential_ask .goodbye).lift.attempt fun outcome state => ?_
  cases outcome with
  | ok response => exact sequential_pure _
  | error fault =>
    cases closed : fault.isConnectionClosed with
    | true => simpa [closed] using sequential_pure _
    | false => simpa [closed] using sequential_pure _

theorem sequential_prepare (settings : SessionSettings) :
    Sequential (prepare settings).run start := by
  rw [prepare_run]
  refine sequential_awaitOpening.bind fun _ state => sequential_current.bind fun now state => ?_
  cases now with
  | negotiation =>
    exact (sequential_metadata _).discard.attempt fun _ _ => (sequential_metadata _).discard
  | authentication | failed | interrupted => exact (sequential_metadata _).discard
  | disconnected | defunct | ready | streaming | txReady | txStreaming => exact sequential_pure _

theorem sequential_pullAll (qid : Option Int64) (gathered : List (List Value)) :
    Sequential (pullAll qid gathered).run start := by
  intro exchanges dialogue value state rest done
  induction exchanges generalizing gathered start with
  | nil => cases done
  | cons exchange rest ih =>
    obtain ⟨before, request, seen, outcome, now⟩ := exchange
    cases dialogue with
    | ask same asks later =>
      have goesOn := after_pullAll qid gathered start ⟨outcome, now⟩
      refine .ask same asks (Dialogue.congr ?_ fun replies => (goesOn replies).symm)
      replace later := later.congr goesOn
      replace done := (goesOn _).symm.trans done
      cases answer : outcome.bind Response.result with
      | error fault =>
        rw [pulled_error answer] at later done ⊢
        exact sequential_pure _ rest later value state _ done
      | ok answered =>
        obtain ⟨batch, summary⟩ := answered
        cases more : summary.streaming with
        | true =>
          rw [pulled_more answer more] at later done ⊢
          exact ih _ later done
        | false =>
          rw [pulled_last answer more] at later done ⊢
          exact sequential_pure _ rest later value state _ done

theorem sequential_fetchAll (settings : SessionSettings) (query : Query) :
    Sequential (fetchAll settings query).run start := by
  refine (sequential_prepare settings).attempt fun _ state => ?_
  refine (sequential_metadata _).attempt fun run state => ?_
  exact (sequential_pullAll _ _).attempt fun _ _ => sequential_pure _

theorem sequential_runQuery (settings : SessionSettings) (query : Query) (read : Decoder α) :
    Sequential (runQuery settings query read).run start := by
  refine (sequential_fetchAll settings query).attempt fun result state => ?_
  cases result.records.mapM fun row => read (.list row) with
  | ok rows => exact sequential_pure _
  | error fault => exact sequential_pure _

theorem sequential_execute (settings : SessionSettings) (query : Query) :
    Sequential (execute settings query).run start := by
  refine (sequential_prepare settings).attempt fun _ state => ?_
  exact (sequential_metadata _).attempt fun run state => sequential_metadata _

theorem sequential_opening (settings : SessionSettings) (options : TransactionOptions) :
    Sequential (opening settings options).run start :=
  (sequential_prepare settings).attempt fun _ _ => (sequential_metadata _).discard

theorem sequential_closing (result : Except Fault α) : Sequential (closing result) start := by
  cases result with
  | ok value =>
    refine (sequential_metadata _).bind fun outcome state => ?_
    cases outcome <;> exact sequential_pure _
  | error fault =>
    refine sequential_current.bind fun now state => ?_
    cases now.inTransaction with
    | true => exact ((sequential_metadata _).map _).bind fun _ _ => sequential_pure _
    | false => exact sequential_pure _

theorem sequential_reportTransaction (settings : SessionSettings) (options : TransactionOptions)
    {body : Session (β × Except Fault α)} (sequential : ∀ state, Sequential body state) :
    Sequential (reportTransaction settings options body) start := by
  rw [reportTransaction_eq]
  refine (sequential_opening settings options).bind fun opened state => ?_
  cases opened with
  | error fault => exact sequential_pure _
  | ok _ => exact (sequential state).bind fun ended _ => (sequential_closing ended.2).map _

theorem sequential_withinTransaction (settings : SessionSettings) (options : TransactionOptions)
    {body : Attempt α} (sequential : ∀ state, Sequential body.run state) :
    Sequential (withinTransaction settings options body).run start := by
  rw [withinTransaction_run]
  refine (sequential_opening settings options).bind fun opened state => ?_
  cases opened with
  | error fault => exact sequential_pure _
  | ok _ => exact (sequential state).bind fun result _ => sequential_closing result

mutual

theorem sequential_program (settings : SessionSettings) :
    ∀ (call : Call) (start : ServerState), Sequential (call.program settings) start
  | .request request, start => by
    cases request with
    | goodbye => exact sequential_goodbye.map _
    | _ => exact (sequential_perform _).map _
  | .prepare, start => (sequential_prepare settings).map _
  | .execute query, start => (sequential_execute settings query).map _
  | .fetchAll query, start => (sequential_fetchAll settings query).map _
  | .runQuery query read, start => (sequential_runQuery settings query read).map _
  | .state, start => sequential_current.map _
  | .transaction options body abort, start => by
    refine (sequential_reportTransaction settings options fun state => ?_).bind
      fun _ _ => sequential_pure _
    exact (sequential_inOrder settings body state).bind fun _ _ => sequential_pure _
termination_by structural call => call

theorem sequential_inOrder (settings : SessionSettings) :
    ∀ (calls : List Call) (start : ServerState), Sequential (Call.inOrder settings calls) start
  | [], start => sequential_pure _
  | call :: rest, start => by
    refine (sequential_program settings call start).bind fun result state => ?_
    have goesOn := (sequential_inOrder settings rest state).bind fun ended _ =>
      sequential_pure (some result :: ended.1, ended.2)
    cases result with
    | failed fault => exact sequential_pure _
    | transaction body result =>
      cases result with
      | ok count => exact goesOn
      | error fault => exact sequential_pure _
    | _ => exact goesOn
termination_by structural calls => calls

end

end Sequential

namespace Yields

variable {start : ServerState} {Trace : List Exchange → Prop}

/-- What a request gives to whoever looks at the summary. -/
theorem metadata {request : Request}
    {Post : List Exchange → Except Fault SuccessMetadata → ServerState → Prop} (silent : Trace [])
    (answered : ∀ exchange : Exchange, exchange.Fair → exchange.state = start →
      exchange.request = request → Trace [exchange] ∧
        Post [exchange] ((exchange.reply.outcome.bind Response.metadata).mapError .protocol)
          exchange.reply.state) :
    Yields (Session.metadata request).run start Trace Post := by
  rw [metadata_run]
  exact (Yields.ask silent answered).map (sequential_ask request)

theorem discard {attempt : Attempt α}
    {Post : List Exchange → Except Fault Unit → ServerState → Prop}
    (yields : Yields attempt.run start Trace fun exchanges result =>
      Post exchanges (result.map fun _ => ()))
    (sequential : Sequential attempt.run start) :
    Yields (discard attempt).run start Trace Post := by
  rw [discard_run]
  exact yields.map sequential

theorem awaitOpening {Post : List Exchange → Unit → ServerState → Prop} (silent : Trace [])
    (opened : start ≠ .disconnected → Post [] () start) :
    Yields Session.awaitOpening start Trace Post := by
  by_cases early : start = .disconnected
  · intro exchanges result dialogue _
    have waits : ∀ replies, Session.awaitOpening start replies = .waits := fun _ => if_pos early
    cases dialogue with
    | pending => exact ⟨silent, fun _ _ => nofun⟩
    | finish ends => exact absurd ((waits []).symm.trans (ends [])) nofun
    | ask _ asks => exact absurd ((waits []).symm.trans asks) nofun
  · exact .of_ends (awaitOpening_eq early) silent (opened early)

/-- What is true of what the state needs is true of the preparation. -/
theorem prepareFrom {settings : SessionSettings}
    {Post : List Exchange → Except Fault Unit → ServerState → Prop} (silent : Trace [])
    (prepares : start ≠ .disconnected → Yields (preparing settings start).run start Trace Post) :
    Yields (Session.prepare settings).run start Trace Post := by
  have opens : Yields Session.awaitOpening start Trace fun exchanges _ state =>
      exchanges = [] ∧ state = start ∧ start ≠ .disconnected :=
    .awaitOpening silent fun opened => ⟨rfl, rfl, opened⟩
  rw [prepare_run]
  refine opens.bind sequential_awaitOpening fun exchanges _ state ready => ?_
  obtain ⟨rfl, rfl, opened⟩ := ready
  have looks : Yields Session.current state Trace fun exchanges now later =>
      exchanges = [] ∧ now = state ∧ later = state := .current silent ⟨rfl, rfl, rfl⟩
  refine looks.bind sequential_current fun exchanges now later same => ?_
  obtain ⟨rfl, rfl, rfl⟩ := same
  exact prepares opened

theorem prepare {settings : SessionSettings}
    {Post : List Exchange → Except Fault Unit → ServerState → Prop} (silent : Trace [])
    (prepares : ∀ state, Yields (preparing settings state).run state Trace Post) :
    Yields (Session.prepare settings).run start Trace Post :=
  prepareFrom silent fun _ => prepares start

end Yields

/-- That only requests of certain kinds are sent. -/
def Only (kinds : List Request.Kind) (exchanges : List Exchange) : Prop :=
  ∀ exchange ∈ exchanges, exchange.request.kind ∈ kinds

theorem Only.nil (kinds : List Request.Kind) : Only kinds [] := List.forall_mem_nil _

theorem Only.one {kinds : List Request.Kind} {exchange : Exchange}
    (among : exchange.request.kind ∈ kinds) : Only kinds [exchange] :=
  List.forall_mem_singleton.2 among

theorem Only.append {kinds : List Request.Kind} {first second : List Exchange}
    (left : Only kinds first) (right : Only kinds second) : Only kinds (first ++ second) :=
  List.forall_mem_append.2 ⟨left, right⟩

/-- That a caller sends only requests of certain kinds, wherever it starts. -/
def Sends (kinds : List Request.Kind) (session : Session α) : Prop :=
  ∀ start, Yields session start (Only kinds) fun exchanges _ _ => Only kinds exchanges

namespace Sends

variable {kinds : List Request.Kind} {session : Session α} {attempt : Attempt α}

theorem pure (value : α) : Sends kinds (Pure.pure value : Session α) :=
  fun _ => .pure (.nil kinds) (.nil kinds)

theorem bind {next : α → Session β} (first : Sends kinds session)
    (sequential : ∀ start, Sequential session start) (later : ∀ value, Sends kinds (next value)) :
    Sends kinds (session >>= next) :=
  fun start => (first start).bind (sequential start) fun _ value state sent =>
    (later value state).mono (fun _ more => sent.append more) fun _ _ _ more _ => sent.append more

theorem andThen {next : α → Attempt β} (first : Sends kinds attempt.run)
    (sequential : ∀ start, Sequential attempt.run start)
    (later : ∀ value, Sends kinds (next value).run) : Sends kinds (attempt >>= next).run :=
  first.bind sequential fun result => match result with
    | .ok value => later value
    | .error fault => pure (Except.error fault)

theorem metadata {request : Request} (among : request.kind ∈ kinds) :
    Sends kinds (metadata request).run :=
  fun _ => .metadata (.nil kinds) fun _ _ _ same =>
    ⟨.one (same ▸ among), .one (same ▸ among)⟩

theorem map {view : α → β} (sends : Sends kinds session)
    (sequential : ∀ start, Sequential session start) : Sends kinds (view <$> session) :=
  fun start => (sends start).map (sequential start)

theorem discard (sends : Sends kinds attempt.run)
    (sequential : ∀ start, Sequential attempt.run start) :
    Sends kinds (discard attempt).run := by
  rw [discard_run]
  exact sends.map sequential

end Sends

/-- Before a query only greetings and resets are sent. -/
theorem prepare_sends (settings : SessionSettings) :
    Sends [.hello, .logon, .reset] (prepare settings).run := by
  have single (request : Request) (among : request.kind ∈ [.hello, .logon, .reset]) :
      Sends [.hello, .logon, .reset] (discard (metadata request)).run :=
    (Sends.metadata among).discard fun _ => sequential_metadata request
  have logs := single (.logon settings.auth) (by simp [Request.kind])
  refine fun _ => .prepare (.nil _) fun state => ?_
  cases state with
  | negotiation =>
    have greets := single (.hello settings.client) (by simp [Request.kind])
    exact greets.andThen (fun _ => (sequential_metadata _).discard) (fun _ => logs) _
  | authentication => exact logs _
  | failed | interrupted => exact single .reset (by simp [Request.kind]) _
  | disconnected | defunct | ready | streaming | txReady | txStreaming => exact Sends.pure _ _

end BoltClient.Session
