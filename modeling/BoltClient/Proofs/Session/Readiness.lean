import BoltClient.Proofs.Session.Conversation
import BoltClient.Proofs.Session.Programs

/-!
Whether a session that has been prepared can run a query. The calls that a session offers for
queries leave their connection at rest, and from rest the preparation makes it ready; with one
exception. A call that drops the records of its result asks for that once, and does not look
at whether the server has kept some. If it has, the result stays open: the preparation lets
the connection be, no query may be sent, and no call that a session offers for queries ends it.
-/

namespace BoltClient

/-- That no result is open and no transaction goes on. -/
def ServerState.isAtRest (state : ServerState) : Bool :=
  state ≠ .streaming && !state.inTransaction

theorem Summary.streaming_of_failure {summary : Summary} (failure : summary.isSuccess = false) :
    summary.streaming = false := by
  cases summary with
  | success => cases failure
  | failure | ignored => rfl

namespace Request.Kind

variable {kind : Kind} {state next : ServerState} {summary : Summary}

/-- No answer leads back to a connection that is not opened. -/
theorem leads_opened (allowed : kind.isAllowed state = true)
    (leads : kind.nextState state summary = some next) : next ≠ .disconnected := by
  cases passage allowed leads with
  | hello | logon | logoff => cases summary.isSuccess <;> decide
  | other _ _ later =>
    rintro rfl
    rcases later with inside | lost
    · cases inside
    · cases lost

theorem isAtRest_of_isBroken (broken : state.isBroken = true) : state.isAtRest = true := by
  cases state <;> first | rfl | cases broken

end Request.Kind

open Connection

namespace Session

variable {α β : Type}

/-- That a connection is in a state, unless it has been lost. -/
def IsOrLost (wanted state : ServerState) : Prop := state = wanted ∨ state = .defunct

theorem IsOrLost.drifts {wanted first second : ServerState} (held : IsOrLost wanted first)
    (opened : wanted ≠ .disconnected) (drifts : Drifts first second) : IsOrLost wanted second := by
  rcases held with rfl | rfl
  · exact drifts.eq_or_defunct opened
  · exact .inr drifts.of_defunct

theorem IsOrLost.isAtRest {wanted state : ServerState} (held : IsOrLost wanted state)
    (rests : wanted.isAtRest = true) : state.isAtRest = true := by
  rcases held with rfl | rfl
  · exact rests
  · rfl

theorem Drifts.isAtRest {first second : ServerState} (drifts : Drifts first second)
    (rests : first.isAtRest = true) : second.isAtRest = true := by
  cases drifts with
  | stays => exact rests
  | lost | agreed => rfl

namespace Exchange

/-- That the request was refused for the state of the connection. -/
def isForbidden (exchange : Exchange) : Bool :=
  match exchange.reply.outcome with
  | .ok _ => false
  | .error fault => fault.isForbidden

/-- That the server has more records behind its answer. -/
def moreLeft (exchange : Exchange) : Bool :=
  match exchange.reply.outcome with
  | .ok response => response.summary.streaming
  | .error _ => false

/-- That records were to be dropped, and the server has kept some. -/
def leavesOpen (exchange : Exchange) : Bool :=
  exchange.request.kind = .discard && exchange.moreLeft

/-- What becomes of a request in a state in which it may be sent, unless the connection is lost. -/
inductive Met (wanted : ServerState) (exchange : Exchange) : Prop where
  | unpacked (reason : CodecFault) (broken : exchange.request.encode = .error reason)
    (outcome : exchange.reply.outcome = .error (.codec reason))
    (stays : IsOrLost wanted exchange.reply.state)
  | responded (response : Response) (next : ServerState)
    (leads : exchange.request.kind.nextState wanted response.summary = some next)
    (outcome : exchange.reply.outcome = .ok response)
    (lands : IsOrLost next exchange.reply.state)
  | lost (fault : ProtocolFault) (other : fault.kind ≠ .forbidden)
    (outcome : exchange.reply.outcome = .error fault) (defunct : exchange.reply.state = .defunct)

theorem Fair.met {exchange : Exchange} {wanted : ServerState} (fair : exchange.Fair)
    (held : IsOrLost wanted exchange.state) (opened : wanted ≠ .disconnected)
    (allowed : exchange.request.kind.isAllowed wanted = true) : exchange.Met wanted := by
  obtain ⟨state, request, seen, outcome, final⟩ := exchange
  change IsOrLost wanted state at held
  have known : state ≠ .disconnected := by
    rcases held with rfl | rfl
    · exact opened
    · decide
  obtain ⟨after, answers, later⟩ := fair.answers known
  change Answers state request (log seen) outcome after at answers
  generalize log seen = turns at answers
  rcases held with rfl | rfl
  · cases answers with
    | unpacked reason broken => exact .unpacked reason broken rfl (later.eq_or_defunct opened)
    | forbidden barred => exact absurd allowed (by simp [barred])
    | responded turn response next written leads =>
      exact .responded response after leads rfl
        (later.eq_or_defunct (Request.Kind.leads_opened allowed leads))
    | lost _ fault _ other => exact .lost fault other rfl later.of_defunct
  · obtain ⟨-, ⟨fault, other, rfl⟩, rfl⟩ := answers.of_defunct
    exact .lost fault other rfl later.of_defunct

end Exchange

/-- That records that were to be dropped have been kept by the server. -/
def leftOpen (exchanges : List Exchange) : Bool := exchanges.any Exchange.leavesOpen

/-- That no request was refused for the state of the connection, until a result was left open. -/
def Heard (exchanges : List Exchange) : Prop :=
  ∀ exchange ∈ exchanges.takeWhile (!·.leavesOpen), exchange.isForbidden = false

/-- That no request was refused for the state of the connection, and no result is left open. -/
structure Clean (exchanges : List Exchange) : Prop where
  closed : leftOpen exchanges = false
  heard : Heard exchanges

/-- How requests leave their connection: at rest, or for good with a result open. -/
structure Poised (exchanges : List Exchange) (state : ServerState) : Prop where
  heard : Heard exchanges
  streams : leftOpen exchanges = true → IsOrLost .streaming state
  rests : leftOpen exchanges = false → state.isAtRest = true

section Poised

variable {exchange : Exchange} {first second : List Exchange} {state : ServerState}

theorem leftOpen_append : leftOpen (first ++ second) = (leftOpen first || leftOpen second) :=
  List.any_append

theorem heard_cons : Heard (exchange :: second) ↔
    exchange.leavesOpen = true ∨ exchange.isForbidden = false ∧ Heard second := by
  cases leaves : exchange.leavesOpen <;> simp [Heard, leaves]

theorem Heard.nil : Heard [] := List.forall_mem_nil _

theorem Heard.one (heard : exchange.isForbidden = false) : Heard [exchange] :=
  heard_cons.2 (.inr ⟨heard, .nil⟩)

/-- Behind a result that is left open nothing more is promised. -/
theorem Heard.append (left : Heard first) (right : leftOpen first = false → Heard second) :
    Heard (first ++ second) := by
  induction first with
  | nil => exact right rfl
  | cons exchange rest ih =>
    rcases heard_cons.1 left with leaves | ⟨heard, left⟩
    · exact heard_cons.2 (.inl leaves)
    · cases leaves : exchange.leavesOpen with
      | true => exact heard_cons.2 (.inl leaves)
      | false =>
        refine heard_cons.2 (.inr ⟨heard, ih left fun closed => right ?_⟩)
        rw [leftOpen, List.any_cons, leaves, Bool.false_or]
        exact closed

theorem Clean.nil : Clean [] := ⟨rfl, .nil⟩

theorem Clean.one (closed : exchange.leavesOpen = false) (heard : exchange.isForbidden = false) :
    Clean [exchange] :=
  ⟨by rw [leftOpen, List.any_cons, closed]; rfl, .one heard⟩

theorem Clean.append (left : Clean first) (right : Clean second) : Clean (first ++ second) :=
  ⟨by rw [leftOpen_append, left.closed, right.closed]; rfl, left.heard.append fun _ => right.heard⟩

theorem Clean.poised (clean : Clean first) (rests : state.isAtRest = true) : Poised first state :=
  ⟨clean.heard, fun still => absurd still (by simp [clean.closed]), fun _ => rests⟩

theorem Clean.before (clean : Clean first) (poised : Poised second state) :
    Poised (first ++ second) state := by
  have same : leftOpen (first ++ second) = leftOpen second := by
    rw [leftOpen_append, clean.closed, Bool.false_or]
  exact ⟨clean.heard.append fun _ => poised.heard, same ▸ poised.streams, same ▸ poised.rests⟩

theorem Poised.drifts {later : ServerState} (poised : Poised first state)
    (drifts : Drifts state later) : Poised first later :=
  ⟨poised.heard, fun still => (poised.streams still).drifts (by decide) drifts,
    fun closed => drifts.isAtRest (poised.rests closed)⟩

end Poised

/-- That a caller is refused nothing and leaves no result open: when it fails its connection is
at rest, and when it gives a value something is known of both. -/
def Keeps (session : Session (Except Fault α)) (start : ServerState)
    (Post : α → ServerState → Prop) : Prop :=
  Yields session start (fun _ => True) fun exchanges result state => Clean exchanges ∧
    match result with
    | .ok value => Post value state
    | .error _ => state.isAtRest = true

/-- That a caller leaves its connection at rest, or with a result open. -/
def Settles (session : Session α) (start : ServerState) : Prop :=
  Yields session start (fun _ => True) fun exchanges _ state => Poised exchanges state

namespace Keeps

variable {start : ServerState} {first : Attempt α} {next : α → Attempt β}
  {Mid : α → ServerState → Prop} {Post : β → ServerState → Prop}

theorem pure {value : β} (post : Post value start) : Keeps (Pure.pure (.ok value)) start Post :=
  Yields.pure trivial ⟨.nil, post⟩

theorem fails {fault : Fault} (rests : start.isAtRest = true) :
    Keeps (Pure.pure (.error fault)) start Post :=
  Yields.pure trivial ⟨.nil, rests⟩

theorem attempt (keeps : Keeps first.run start Mid) (sequential : Sequential first.run start)
    (later : ∀ value state, Mid value state → Keeps (next value).run state Post) :
    Keeps (first >>= next).run start Post := by
  refine Yields.attempt sequential keeps (fun _ _ _ ended => ⟨trivial, ended⟩) ?_
  rintro exchanges value state ⟨clean, middle⟩
  exact Yields.mono (later value state middle) (fun _ _ => trivial)
    fun _ _ _ _ ended => ⟨clean.append ended.1, ended.2⟩

theorem settles {attempt : Attempt α}
    (keeps : Keeps attempt.run start fun _ state => state.isAtRest = true) :
    Settles attempt.run start := by
  refine Yields.mono keeps (fun _ _ => trivial) ?_
  rintro exchanges result state - ⟨clean, post⟩
  cases result with
  | ok | error => exact clean.poised post

/-- Only what comes last may leave a result open. -/
theorem before (keeps : Keeps first.run start Mid) (sequential : Sequential first.run start)
    (later : ∀ value state, Mid value state → Settles (next value).run state) :
    Settles (first >>= next).run start := by
  refine Yields.attempt sequential keeps ?_ ?_
  · rintro exchanges fault state ⟨clean, rests⟩
    exact ⟨trivial, clean.poised rests⟩
  · rintro exchanges value state ⟨clean, middle⟩
    exact Yields.mono (later value state middle) (fun _ _ => trivial)
      fun _ _ _ _ poised => clean.before poised

theorem discard {attempt : Attempt α} {Post : ServerState → Prop}
    (keeps : Keeps attempt.run start fun _ => Post) (sequential : Sequential attempt.run start) :
    Keeps (discard attempt).run start fun _ => Post := by
  refine Yields.discard (Yields.mono keeps (fun _ _ => trivial) ?_) sequential
  rintro exchanges result state - ⟨clean, post⟩
  cases result with
  | ok | error => exact ⟨clean, post⟩

/-- A request of the calls that run queries, where a success leads from one state to another
and everything else to rest. -/
theorem metadata {request : Request} {wanted target : ServerState} (held : IsOrLost wanted start)
    (opened : wanted ≠ .disconnected) (allowed : request.kind.isAllowed wanted = true)
    (unrested : request.kind ≠ .discard) (rests : wanted.isAtRest = true)
    (leads : ∀ summary next, request.kind.nextState wanted summary = some next →
      summary.isSuccess = true ∧ next = target ∨
        summary.isSuccess = false ∧ next.isAtRest = true) :
    Keeps (Session.metadata request).run start fun _ state => IsOrLost target state := by
  refine Yields.metadata trivial fun exchange fair state same => ⟨trivial, ?_⟩
  subst state same
  have closed : exchange.leavesOpen = false := by simp [Exchange.leavesOpen, unrested]
  cases fair.met held opened allowed with
  | unpacked reason broken outcome stays =>
    refine ⟨.one closed (by rw [Exchange.isForbidden, outcome]; rfl), ?_⟩
    rw [outcome]
    exact stays.isAtRest rests
  | lost fault other outcome defunct =>
    refine ⟨.one closed ?_, ?_⟩
    · rw [Exchange.isForbidden, outcome]
      exact decide_eq_false other
    · rw [outcome, defunct]
      rfl
  | responded response next led outcome lands =>
    refine ⟨.one closed (by rw [Exchange.isForbidden, outcome]), ?_⟩
    rw [outcome]
    obtain ⟨records, summary⟩ := response
    rcases leads summary next led with ⟨success, rfl⟩ | ⟨failure, rests⟩
    · cases summary with
      | success metadata => exact lands
      | failure | ignored => cases success
    · cases summary with
      | success metadata => cases failure
      | failure | ignored => exact lands.isAtRest rests

end Keeps

section Calls

variable {start : ServerState} {demand : Demand}

/-- At rest there is nothing that the preparation does not repair. -/
theorem prepare_keeps (settings : SessionSettings) (rests : start.isAtRest = true) :
    Keeps (prepare settings).run start fun _ state => IsOrLost .ready state := by
  have logs {state : ServerState} (held : IsOrLost .authentication state) :
      Keeps (discard (metadata (.logon settings.auth))).run state
        fun _ state => IsOrLost .ready state := by
    refine .discard (.metadata held (by decide) rfl (by simp [Request.kind]) rfl ?_)
      (sequential_metadata _)
    intro summary next leads
    cases leads
    cases summary.isSuccess <;> simp [ServerState.isAtRest, ServerState.inTransaction]
  have resets {state : ServerState} (broken : state.isBroken = true) :
      Keeps (discard (metadata .reset)).run state fun _ state => IsOrLost .ready state := by
    refine .discard (.metadata (.inl rfl) ?_ ?_ (by decide)
      (Request.Kind.isAtRest_of_isBroken broken) ?_) (sequential_metadata _)
    · rintro rfl
      cases broken
    · cases state <;> first | rfl | cases broken
    · intro summary next leads
      cases leads
      cases summary.isSuccess <;> simp [ServerState.isAtRest, ServerState.inTransaction]
  refine Yields.prepareFrom trivial fun opened => ?_
  cases start with
  | negotiation =>
    have greets : Keeps (discard (metadata (.hello settings.client))).run .negotiation
        fun _ state => IsOrLost .authentication state := by
      refine .discard (.metadata (.inl rfl) (by decide) rfl (by simp [Request.kind]) rfl ?_)
        (sequential_metadata _)
      intro summary next leads
      cases leads
      cases summary.isSuccess <;> simp [ServerState.isAtRest, ServerState.inTransaction]
    exact greets.attempt (sequential_metadata _).discard fun _ _ held => logs held
  | authentication => exact logs (.inl rfl)
  | failed | interrupted => exact resets rfl
  | defunct => exact Keeps.fails rfl
  | ready => exact Keeps.pure (.inl rfl)
  | disconnected => exact absurd rfl opened
  | streaming | txReady | txStreaming => cases rests

theorem run_keeps (query : Query) (held : IsOrLost .ready start) :
    Keeps (metadata query.request).run start fun _ state => IsOrLost .streaming state := by
  refine .metadata held (by decide) rfl (by simp [Query.request, Request.kind]) rfl ?_
  intro summary next leads
  rcases Request.Kind.whenRunning_leads leads with ⟨success, ⟨-, rfl⟩ | ⟨inside, -⟩⟩ |
    ⟨failure, broken⟩
  · exact .inl ⟨success, rfl⟩
  · cases inside
  · exact .inr ⟨failure, Request.Kind.isAtRest_of_isBroken broken⟩

section Taken

variable {exchange : Exchange}

theorem Exchange.moreLeft_of_error {fault : ProtocolFault}
    (failed : exchange.reply.outcome.bind Response.result = .error fault) :
    exchange.moreLeft = false := by
  rw [moreLeft]
  cases outcome : exchange.reply.outcome with
  | error other => rfl
  | ok response =>
    obtain ⟨records, summary⟩ := response
    cases summary with
    | success metadata => rw [outcome] at failed; cases failed
    | failure | ignored => rfl

theorem Exchange.moreLeft_of_result {batch : List (List Value)} {summary : SuccessMetadata}
    (answer : exchange.reply.outcome.bind Response.result = .ok (batch, summary)) :
    exchange.moreLeft = summary.streaming := by
  rw [moreLeft]
  cases outcome : exchange.reply.outcome with
  | error fault => rw [outcome] at answer; cases answer
  | ok response =>
    obtain ⟨records, summary⟩ := response
    cases summary <;> rw [outcome] at answer <;> cases answer
    rfl

/-- A request for records, or to drop them, while a result is open. -/
theorem Exchange.Fair.taken (fair : exchange.Fair)
    (takes : exchange.request = .pull demand ∨ exchange.request = .discard demand)
    (held : IsOrLost .streaming exchange.state) : exchange.isForbidden = false ∧
      (exchange.moreLeft = true → IsOrLost .streaming exchange.reply.state) ∧
      (exchange.moreLeft = false → exchange.reply.state.isAtRest = true) := by
  have allowed : exchange.request.kind.isAllowed .streaming = true := by
    rcases takes with same | same <;> rw [same] <;> rfl
  cases fair.met held (by decide) allowed with
  | unpacked reason broken =>
    have packs : ∃ payload, exchange.request.encode = .ok payload := by
      obtain ⟨count, _ | qid⟩ := demand <;> rcases takes with same | same <;> rw [same] <;>
        exact ⟨_, rfl⟩
    obtain ⟨payload, packed⟩ := packs
    cases broken.symm.trans packed
  | lost fault other outcome defunct =>
    rw [isForbidden, moreLeft, outcome]
    exact ⟨decide_eq_false other, nofun, fun _ => defunct ▸ rfl⟩
  | responded response next leads outcome lands =>
    have streams : Request.Kind.whileStreaming .streaming response.summary = some next := by
      rcases takes with same | same <;> rw [same] at leads <;> exact leads
    rw [isForbidden, moreLeft, outcome]
    rcases Request.Kind.whileStreaming_leads streams with ⟨-, ⟨-, rfl⟩ | ⟨inside, -⟩⟩ |
      ⟨failure, broken⟩
    · refine ⟨rfl, fun more => ?_, fun last => ?_⟩
      · rwa [if_pos more] at lands
      · rw [if_neg (by simp [last])] at lands
        exact lands.isAtRest rfl
    · cases inside
    · have last : response.summary.streaming = false := Summary.streaming_of_failure failure
      exact ⟨rfl, fun more => absurd more (by simp [last]),
        fun _ => lands.isAtRest (Request.Kind.isAtRest_of_isBroken broken)⟩

end Taken

theorem discard_settles (demand : Demand) (held : IsOrLost .streaming start) :
    Settles (metadata (.discard demand)).run start := by
  refine Yields.metadata trivial fun exchange fair state same => ⟨trivial, ?_⟩
  subst state
  obtain ⟨heard, streams, rests⟩ := fair.taken (.inr same) held
  have leaves : leftOpen [exchange] = exchange.moreLeft := by
    simp [leftOpen, Exchange.leavesOpen, same, Request.kind]
  exact ⟨.one heard, leaves ▸ streams, leaves ▸ rests⟩

/-- Pulling ends only when no records are left. -/
theorem pullAll_keeps (qid : Option Int64) (gathered : List (List Value))
    (held : IsOrLost .streaming start) :
    Keeps (pullAll qid gathered).run start fun _ state => state.isAtRest = true := by
  intro exchanges result dialogue fair
  induction exchanges generalizing gathered start with
  | nil =>
    cases dialogue with
    | pending => exact ⟨trivial, fun _ _ => nofun⟩
    | finish ends => cases ends []
  | cons exchange rest ih =>
    obtain ⟨rfl, pull, course⟩ := dialogue.pulling
    rw [List.forall_mem_cons] at fair
    obtain ⟨heard, streams, rests⟩ := fair.1.taken (.inl pull) held
    have clean : Clean [exchange] :=
      .one (by simp [Exchange.leavesOpen, pull, Request.kind]) heard
    refine ⟨trivial, fun value state ends => ?_⟩
    have ending {session : Session (Except Fault (List (List Value) × SuccessMetadata))}
        (keeps : Keeps session exchange.reply.state fun _ state => state.isAtRest = true)
        (goesOn : Dialogue session exchange.reply.state rest result) :=
      (keeps rest result goesOn fair.2).2 value state ends
    cases course with
    | fails fault answer goesOn =>
      obtain ⟨kept, post⟩ := ending (.fails (rests (Exchange.moreLeft_of_error answer))) goesOn
      exact ⟨clean.append kept, post⟩
    | last batch summary answer none goesOn =>
      have left := (Exchange.moreLeft_of_result answer).trans none
      obtain ⟨kept, post⟩ := ending (.pure (rests left)) goesOn
      exact ⟨clean.append kept, post⟩
    | more batch summary answer some goesOn =>
      have left := (Exchange.moreLeft_of_result answer).trans some
      obtain ⟨kept, post⟩ := (ih _ (streams left) goesOn fair.2).2 value state ends
      exact ⟨clean.append kept, post⟩

end Calls

/-- The calls for queries, each with the query that it runs, if there is one. -/
inductive Helper (settings : SessionSettings) : Option Query → {α : Type} → Attempt α → Prop where
  | prepare : Helper settings none (prepare settings)
  | execute (query : Query) : Helper settings (some query) (execute settings query)
  | fetchAll (query : Query) : Helper settings (some query) (fetchAll settings query)
  | runQuery {α : Type} (query : Query) (read : Decoder α) :
    Helper settings (some query) (runQuery settings query read)

/-- Why a query is not sent while a result is open. -/
def Refuses (query : Query) (fault : Fault) (state : ServerState) : Prop :=
  fault = .protocol (.forbidden "RUN" .streaming) ∨
    (∃ reason, query.request.encode = .error reason ∧ fault = .protocol (.codec reason)) ∨
    state = .defunct

/-- That a caller fails before its query is written, and nothing becomes of the open result. -/
def Barred (query : Query) (session : Session (Except Fault α)) (start : ServerState) : Prop :=
  Yields session start (fun _ => True) fun exchanges result state =>
    IsOrLost .streaming state ∧ exchanges.flatMap Exchange.turns = [] ∧
      ∃ fault, result = .error fault ∧ Refuses query fault state

section Open

variable {settings : SessionSettings} {query : Query} {start : ServerState}

/-- The preparation takes an open result for a connection that needs nothing. -/
theorem prepare_streaming (held : IsOrLost .streaming start) :
    Yields (prepare settings).run start (fun _ => True) fun exchanges result state =>
      exchanges = [] ∧ state = start ∧ (state = .defunct ↔ ∃ fault, result = .error fault) := by
  refine Yields.prepareFrom trivial fun _ => ?_
  rcases held with rfl | rfl
  · exact .pure trivial ⟨rfl, rfl, by simp⟩
  · exact .pure trivial ⟨rfl, rfl, by simp⟩

theorem run_barred : Barred query (metadata query.request).run .streaming := by
  refine Yields.metadata trivial fun exchange fair state same => ⟨trivial, ?_⟩
  obtain ⟨after, answers, later⟩ := fair.answers (by simp [state])
  rw [state, same] at answers
  have barred : query.request.kind.isAllowed .streaming = false := rfl
  rw [List.flatMap_singleton]
  generalize exchange.turns = turns at answers
  generalize exchange.reply.outcome = outcome at answers
  cases answers with
  | unpacked reason broken =>
    exact ⟨later.eq_or_defunct (by decide), rfl, _, rfl, .inr (.inl ⟨reason, broken, rfl⟩)⟩
  | forbidden => exact ⟨later.eq_or_defunct (by decide), rfl, _, rfl, .inl rfl⟩
  | responded _ _ _ written => exact absurd written.allowed (by simp [barred])
  | lost _ fault part =>
    rcases part with rfl | ⟨turn, -, written⟩
    · exact ⟨.inr later.of_defunct, rfl, _, rfl, .inr (.inr later.of_defunct)⟩
    · exact absurd written.allowed (by simp [barred])

theorem Barred.attempt {first : Attempt α} {next : α → Attempt β}
    (barred : Barred query first.run start) (sequential : Sequential first.run start) :
    Barred query (first >>= next).run start := by
  refine Yields.attempt sequential barred ?_ ?_
  · rintro exchanges fault state ⟨held, unwritten, other, same, refuses⟩
    cases same
    exact ⟨trivial, held, unwritten, fault, rfl, refuses⟩
  · rintro exchanges value state ⟨-, -, fault, same, -⟩
    cases same

theorem query_barred (held : IsOrLost .streaming start) (next : SuccessMetadata → Attempt α) :
    Barred query (prepare settings >>= fun _ => metadata query.request >>= next).run start := by
  refine Yields.attempt (sequential_prepare settings) (prepare_streaming held) ?_ ?_
  · rintro exchanges fault state ⟨rfl, rfl, fails⟩
    have lost := fails.2 ⟨fault, rfl⟩
    exact ⟨trivial, held, rfl, fault, rfl, .inr (.inr lost)⟩
  · rintro exchanges _ state ⟨rfl, rfl, fails⟩
    have streaming : state = .streaming := held.resolve_right fun lost => by simp [lost] at fails
    rw [streaming]
    exact run_barred.attempt (sequential_metadata _)

theorem Helper.barred {attempt : Attempt α} (helps : Helper settings (some query) attempt)
    (held : IsOrLost .streaming start) : Barred query attempt.run start := by
  cases helps with
  | execute => exact query_barred held _
  | fetchAll => exact query_barred held _
  | runQuery =>
    have fetches : Barred query (Session.fetchAll settings query).run start :=
      query_barred held _
    exact fetches.attempt (sequential_fetchAll settings query)

end Open

section Helper

variable {settings : SessionSettings} {query? : Option Query} {start : ServerState}
  {attempt : Attempt α}

theorem Helper.sequential (helps : Helper settings query? attempt) (start : ServerState) :
    Sequential attempt.run start := by
  cases helps with
  | prepare => exact sequential_prepare settings
  | execute query => exact sequential_execute settings query
  | fetchAll query => exact sequential_fetchAll settings query
  | runQuery query read => exact sequential_runQuery settings query read

theorem fetchAll_keeps (query : Query) (rests : start.isAtRest = true) :
    Keeps (fetchAll settings query).run start fun _ state => state.isAtRest = true := by
  refine (prepare_keeps settings rests).attempt (sequential_prepare settings) fun _ _ ready => ?_
  refine (run_keeps query ready).attempt (sequential_metadata _) fun run _ streaming => ?_
  exact (pullAll_keeps run.qid [] streaming).attempt (sequential_pullAll _ _) fun _ _ rests =>
    Keeps.pure rests

theorem Helper.settles (helps : Helper settings query? attempt) (rests : start.isAtRest = true) :
    Settles attempt.run start := by
  cases helps with
  | prepare =>
    refine Keeps.settles (Yields.mono (prepare_keeps settings rests) (fun _ _ => trivial) ?_)
    rintro exchanges result state - ⟨clean, post⟩
    cases result with
    | ok => exact ⟨clean, post.isAtRest rfl⟩
    | error => exact ⟨clean, post⟩
  | execute query =>
    refine (prepare_keeps settings rests).before (sequential_prepare settings) fun _ _ ready => ?_
    exact (run_keeps query ready).before (sequential_metadata _) fun run _ => discard_settles _
  | fetchAll query => exact (fetchAll_keeps query rests).settles
  | runQuery query read =>
    refine ((fetchAll_keeps query rests).attempt (sequential_fetchAll _ _) ?_).settles
    intro result state rests
    cases result.records.mapM fun row => read (.list row) with
    | ok rows => exact Keeps.pure rests
    | error fault => exact Keeps.fails rests

/-- An open result stays open whatever is called. -/
theorem Helper.streams (helps : Helper settings query? attempt) (held : IsOrLost .streaming start) :
    Yields attempt.run start (fun _ => True) fun _ _ state => IsOrLost .streaming state := by
  cases query? with
  | none =>
    cases helps
    refine (prepare_streaming held).mono (fun _ _ => trivial) ?_
    rintro exchanges result state - ⟨-, rfl, -⟩
    exact held
  | some query =>
    exact Yields.mono (helps.barred held) (fun _ _ => trivial) fun _ _ _ _ barred => barred.1

end Helper

/-- Calls for queries, one after the other, on a connection that is theirs from before it is
opened: the requests of all of them, and the connection behind the last. -/
inductive Course (settings : SessionSettings) (versions : List Version) :
    List Exchange → Connection → Prop where
  | begins : Course settings versions [] (.start versions)
  | call {exchanges : List Exchange} {connection : Connection}
    (course : Course settings versions exchanges connection) {α : Type} {query? : Option Query}
    {attempt : Attempt α} (helps : Helper settings query? attempt) (moves : List Move)
    {result : Except Fault α}
    (ended : (hold attempt.run connection moves).result attempt.run = some result) :
    Course settings versions (exchanges ++ (hold attempt.run connection moves).exchanges)
      (hold attempt.run connection moves).connection

section Course

variable {settings : SessionSettings} {versions : List Version} {exchanges : List Exchange}
  {connection : Connection}

/-- How the calls so far have left their connection. -/
structure Settled (exchanges : List Exchange) (connection : Connection) : Prop where
  reached : ∃ versions journal, Reached versions journal connection
  quiet : Quiet connection
  poised : Poised exchanges connection.state

theorem Settled.call (settled : Settled exchanges connection) {query? : Option Query}
    {attempt : Attempt α} (helps : Helper settings query? attempt) (moves : List Move)
    {result : Except Fault α}
    (ended : (hold attempt.run connection moves).result attempt.run = some result) :
    Settled (exchanges ++ (hold attempt.run connection moves).exchanges)
      (hold attempt.run connection moves).connection := by
  obtain ⟨⟨versions, journal, reached⟩, quiet, poised⟩ := settled
  have concluded := hold_concluded helps.sequential reached quiet moves ended
  generalize hold attempt.run connection moves = talk at concluded
  refine ⟨concluded.reached, concluded.quiet, ?_⟩
  cases still : leftOpen exchanges with
  | true =>
    have held : IsOrLost .streaming talk.start :=
      (poised.streams still).drifts (by decide) concluded.found
    have stays := (helps.streams held _ _ concluded.dialogue concluded.fair).2 result _ rfl
    have whole : leftOpen (exchanges ++ talk.exchanges) = true := by
      rw [leftOpen_append, still, Bool.true_or]
    exact ⟨poised.heard.append fun closed => absurd still (by simp [closed]),
      fun _ => stays.drifts (by decide) concluded.left,
      fun closed => absurd whole (by simp [closed])⟩
  | false =>
    have rests : talk.start.isAtRest = true := concluded.found.isAtRest (poised.rests still)
    have later := (helps.settles rests _ _ concluded.dialogue concluded.fair).2 result _ rfl
    exact Clean.before ⟨still, poised.heard⟩ (later.drifts concluded.left)

theorem course_settled (course : Course settings versions exchanges connection) :
    Settled exchanges connection := by
  induction course with
  | begins => exact ⟨⟨versions, [], .start⟩, ⟨rfl, rfl⟩, .nil, nofun, fun _ => rfl⟩
  | call _ helps moves ended ih => exact ih.call helps moves ended

theorem Settled.ready (settled : Settled exchanges connection)
    (closed : leftOpen exchanges = false) (moves : List Move)
    (ended : (hold (prepare settings).run connection moves).result (prepare settings).run =
      some (.ok ())) :
    IsOrLost .ready (hold (prepare settings).run connection moves).connection.state := by
  obtain ⟨⟨versions, journal, reached⟩, quiet, poised⟩ := settled
  have concluded :=
    hold_concluded (fun _ => sequential_prepare settings) reached quiet moves ended
  generalize hold (prepare settings).run connection moves = talk at concluded
  have rests : talk.start.isAtRest = true := concluded.found.isAtRest (poised.rests closed)
  have ready : IsOrLost .ready talk.state :=
    ((prepare_keeps settings rests _ _ concluded.dialogue concluded.fair).2 _ _ rfl).2
  exact ready.drifts (by decide) concluded.left

theorem Settled.refuses (settled : Settled exchanges connection)
    (still : leftOpen exchanges = true) {query : Query} {attempt : Attempt α}
    (helps : Helper settings (some query) attempt) (moves : List Move) {result : Except Fault α}
    (ended : (hold attempt.run connection moves).result attempt.run = some result) :
    (hold attempt.run connection moves).exchanges.flatMap Exchange.turns = [] ∧
      ∃ fault, result = .error fault ∧
        Refuses query fault (hold attempt.run connection moves).connection.state := by
  obtain ⟨⟨versions, journal, reached⟩, quiet, poised⟩ := settled
  have concluded := hold_concluded helps.sequential reached quiet moves ended
  generalize hold attempt.run connection moves = talk at concluded
  have held : IsOrLost .streaming talk.start :=
    (poised.streams still).drifts (by decide) concluded.found
  obtain ⟨-, unwritten, fault, same, refuses⟩ :=
    (helps.barred held _ _ concluded.dialogue concluded.fair).2 _ _ rfl
  refine ⟨unwritten, fault, same, ?_⟩
  rcases refuses with forbidden | unpacked | lost
  · exact .inl forbidden
  · exact .inr (.inl unpacked)
  · have left := concluded.left
    rw [lost] at left
    exact .inr (.inr left.of_defunct)

end Course

/-- As long as no call has left a result open, no request is refused, and a connection that has
been prepared may be sent a query unless it has been lost. Once a result is left open, the
state stays, and every query fails before it is written. -/
theorem ready_unless_left_open {settings : SessionSettings} {versions : List Version}
    {exchanges : List Exchange} {connection : Connection}
    (course : Course settings versions exchanges connection) :
    Heard exchanges ∧
    (leftOpen exchanges = false → ∀ moves,
      let talk := hold (prepare settings).run connection moves
      talk.result (prepare settings).run = some (.ok ()) →
        Request.Kind.run.isAllowed talk.connection.state = true ∨
          talk.connection.state = .defunct) ∧
    (leftOpen exchanges = true → (connection.state = .streaming ∨ connection.state = .defunct) ∧
      ∀ (α : Type) (query : Query) (attempt : Attempt α), Helper settings (some query) attempt →
        ∀ moves result,
        let talk := hold attempt.run connection moves
        talk.result attempt.run = some result → talk.exchanges.flatMap Exchange.turns = [] ∧
          ∃ fault, result = .error fault ∧ Refuses query fault talk.connection.state) := by
  have settled := course_settled course
  refine ⟨settled.poised.heard, ?_, ?_⟩
  · intro closed moves talk ended
    rcases settled.ready closed moves ended with ready | lost
    · exact .inl (ready ▸ rfl)
    · exact .inr lost
  · intro still
    refine ⟨settled.poised.streams still, ?_⟩
    intro α query attempt helps moves result talk ended
    exact settled.refuses still helps moves ended

/-- A query whose records are dropped leaves a connection that can be prepared for the next. -/
theorem ready_behind_dropped_records :
    let settings : SessionSettings := { client := { userAgent := "a/1" } }
    let success : Bytes := [0, 3, 0xB1, 0x70, 0xA0, 0, 0]
    let executes : Attempt SuccessMetadata := execute settings { text := "A" }
    let first := hold executes.run (.start [.current])
      (Move.opens ++ (List.replicate 4 (Move.answered success)).flatten)
    let second := hold (prepare settings).run first.connection [.goOn]
    (first.result executes.run).map Except.isOk = some true ∧ leftOpen first.exchanges = false ∧
      (second.result (prepare settings).run).map Except.isOk = some true ∧
      Request.Kind.run.isAllowed second.connection.state = true := by
  intro settings success executes first second
  have ran : (first.result executes.run).map Except.isOk = some true := by decide +kernel
  have closed : leftOpen first.exchanges = false := by decide +kernel
  have prepared : (second.result (prepare settings).run).map Except.isOk = some true := by
    decide +kernel
  have alive : second.connection.state ≠ .defunct := by decide +kernel
  obtain ⟨result, ended, -⟩ := Option.map_eq_some_iff.1 ran
  obtain ⟨_ | ⟨⟩, prepares, isOk⟩ := Option.map_eq_some_iff.1 prepared
  · cases isOk
  have course : Course settings [.current] ([] ++ first.exchanges) first.connection :=
    .call .begins (.execute _) _ ended
  have ready := (ready_unless_left_open course).2.1 closed [.goOn] prepares
  exact ⟨ran, closed, prepared, ready.resolve_right alive⟩

/-- A server that keeps records that were to be dropped: the connection counts as prepared, and
every further query is refused. -/
theorem refused_behind_kept_records :
    let settings : SessionSettings := { client := { userAgent := "a/1" } }
    let success : Bytes := [0, 3, 0xB1, 0x70, 0xA0, 0, 0]
    let more : Bytes := [0, 13, 0xB1, 0x70, 0xA1, 0x88, 0x68, 0x61, 0x73, 0x5F, 0x6D, 0x6F, 0x72,
      0x65, 0xC3, 0, 0]
    let executes : Attempt SuccessMetadata := execute settings { text := "A" }
    let first := hold executes.run (.start [.current])
      (Move.opens ++ [success, success, success, more].flatMap Move.answered)
    let second := hold (prepare settings).run first.connection [.goOn]
    let third := hold executes.run second.connection Move.refused
    (first.result executes.run).map Except.isOk = some true ∧
      (second.result (prepare settings).run).map Except.isOk = some true ∧
      Request.Kind.run.isAllowed second.connection.state = false ∧
      (third.result executes.run).map Except.isOk = some false ∧
      third.exchanges.map Exchange.isForbidden = [true] := by
  decide +kernel

end Session
end BoltClient
