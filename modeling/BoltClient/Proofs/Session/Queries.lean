import BoltClient.Proofs.Session.Programs

/-!
What the calls that run queries send. Each of them first sends what the connection
needs, and stops at the first request that fails. So a query is never run on a failed
server, and a server is reset only behind a failure.
-/

namespace BoltClient.Session

variable {α β : Type}

/-- The requests that make a connection ready, and those for a query and its records. -/
def queryKinds : List Request.Kind := [.hello, .logon, .reset] ++ [.run, .pull, .discard]

theorem mem_queryKinds {kind : Request.Kind} : kind ∈ queryKinds ↔ kind = .hello ∨
    kind = .logon ∨ kind = .reset ∨ kind = .run ∨ kind = .pull ∨ kind = .discard := by
  simp [queryKinds]

/-- A request as the calls that run queries send it. -/
structure Orderly (exchange : Exchange) : Prop where
  kind : exchange.request.kind ∈ queryKinds
  run : exchange.request.kind = .run → exchange.state ≠ .failed
  reset : exchange.request.kind = .reset →
    exchange.state = .failed ∨ exchange.state = .interrupted

/-- That every request succeeded. -/
def Smooth (exchanges : List Exchange) : Prop := ∀ exchange ∈ exchanges, exchange.succeeded = true

/-- That every request was orderly and nothing was sent behind a failure. -/
structure Straight (exchanges : List Exchange) : Prop where
  orderly : ∀ exchange ∈ exchanges, Orderly exchange
  smooth : Smooth exchanges.dropLast

section Trace

variable {exchange : Exchange} {first second : List Exchange}

theorem Smooth.nil : Smooth [] := List.forall_mem_nil _

theorem Smooth.one (succeeded : exchange.succeeded = true) : Smooth [exchange] :=
  List.forall_mem_singleton.2 succeeded

theorem Smooth.append (left : Smooth first) (right : Smooth second) : Smooth (first ++ second) :=
  List.forall_mem_append.2 ⟨left, right⟩

theorem Straight.nil : Straight [] := ⟨List.forall_mem_nil _, .nil⟩

theorem Straight.one (orderly : Orderly exchange) : Straight [exchange] :=
  ⟨List.forall_mem_singleton.2 orderly, .nil⟩

theorem Straight.append (left : Straight first) (smooth : Smooth first) (right : Straight second) :
    Straight (first ++ second) := by
  constructor
  · exact List.forall_mem_append.2 ⟨left.orderly, right.orderly⟩
  · cases second with
    | nil => simpa only [List.append_nil] using left.smooth
    | cons next rest =>
      rw [List.dropLast_append_of_ne_nil (by simp)]
      exact smooth.append right.smooth

end Trace

/-- That a caller sends orderly requests, nothing behind a failure, and gives a value only
when nothing has failed. -/
def Steady (session : Session (Except Fault α)) (start : ServerState)
    (Post : α → ServerState → Prop) : Prop :=
  Yields session start Straight fun exchanges result state =>
    ∀ value, result = .ok value → Smooth exchanges ∧ Post value state

namespace Steady

variable {start : ServerState}

theorem pure {value : α} {Post : α → ServerState → Prop} (post : Post value start) :
    Steady (Pure.pure (.ok value)) start Post := by
  refine Yields.pure .nil fun other same => ?_
  cases same
  exact ⟨.nil, post⟩

theorem fails {fault : Fault} {Post : α → ServerState → Prop} :
    Steady (Pure.pure (.error fault)) start Post :=
  Yields.pure .nil fun _ => nofun

theorem attempt {first : Attempt α} {next : α → Attempt β} {Mid : α → ServerState → Prop}
    {Post : β → ServerState → Prop} (steady : Steady first.run start Mid)
    (sequential : Sequential first.run start)
    (later : ∀ value state, Mid value state → Steady (next value).run state Post) :
    Steady (first >>= next).run start Post := by
  have kept : Yields first.run start Straight fun exchanges result state => Straight exchanges ∧
      ∀ value, result = .ok value → Smooth exchanges ∧ Mid value state :=
    Yields.mono steady (fun _ straight => straight) fun _ _ _ straight post => ⟨straight, post⟩
  refine Yields.attempt sequential kept ?_ ?_
  · rintro exchanges fault state ⟨straight, -⟩
    exact ⟨straight, fun _ => nofun⟩
  · rintro exchanges value state ⟨straight, post⟩
    obtain ⟨smooth, middle⟩ := post value rfl
    exact Yields.mono (later value state middle) (fun _ right => straight.append smooth right)
      fun _ _ _ _ post value same =>
        ⟨smooth.append (post value same).1, (post value same).2⟩

theorem metadata {request : Request} {Post : SuccessMetadata → ServerState → Prop}
    (orderly : ∀ exchange : Exchange, exchange.state = start → exchange.request = request →
      Orderly exchange)
    (post : ∀ exchange : Exchange, exchange.Fair → exchange.request = request →
      exchange.succeeded = true → ∀ value, Post value exchange.reply.state) :
    Steady (Session.metadata request).run start Post := by
  refine Yields.metadata .nil fun exchange fair state same => ?_
  refine ⟨.one (orderly exchange state same), fun value answer => ?_⟩
  have succeeded : exchange.succeeded = true := by
    rw [Exchange.succeeded]
    cases result : exchange.reply.outcome.bind Response.metadata with
    | ok metadata => rfl
    | error fault =>
      rw [result] at answer
      cases answer
  exact ⟨.one succeeded, post exchange fair same succeeded value⟩

theorem discard {attempt : Attempt α} {Post : ServerState → Prop}
    (steady : Steady attempt.run start fun _ => Post) (sequential : Sequential attempt.run start) :
    Steady (discard attempt).run start fun _ => Post := by
  refine Yields.discard (Yields.mono steady (fun _ straight => straight) ?_) sequential
  intro exchanges result state _ post value same
  cases result with
  | ok value => exact post value rfl
  | error fault => cases same

end Steady

section Calls

variable {start : ServerState}

/-- Behind the requests of the opening and behind a reset the server is not failed. -/
theorem Exchange.Fair.not_failed {exchange : Exchange} (fair : exchange.Fair)
    (kind : exchange.request.kind ∈ ([.hello, .logon, .reset] : List Request.Kind))
    (succeeded : exchange.succeeded = true) : exchange.reply.state ≠ .failed := by
  obtain ⟨before, metadata, next, turn, -, -, -, leads, later⟩ := fair.of_succeeded succeeded
  have passed : next = .authentication ∨ next = .ready := by
    generalize exchange.request.kind = kind at *
    simp only [List.mem_cons, List.not_mem_nil, or_false] at kind
    rcases kind with rfl | rfl | rfl <;> cases leads <;> simp [Summary.isSuccess]
  rcases passed with rfl | rfl <;> rcases later.eq_or_defunct (by decide) with same | same <;>
    rw [same] <;> decide

/-- A connection that has been prepared is not failed. -/
theorem prepare_steady (settings : SessionSettings) :
    Steady (prepare settings).run start fun _ state => state ≠ .failed := by
  have single (request : Request) {state : ServerState}
      (kind : request.kind ∈ ([.hello, .logon, .reset] : List Request.Kind))
      (reset : request.kind = .reset → state = .failed ∨ state = .interrupted) :
      Steady (discard (metadata request)).run state fun _ state => state ≠ .failed := by
    refine .discard (.metadata ?_ ?_) (sequential_metadata request)
    · rintro exchange rfl rfl
      have opens : exchange.request.kind ≠ .run := by
        intro run
        simp [run] at kind
      exact ⟨List.mem_append_left _ kind, fun run => absurd run opens, reset⟩
    · rintro exchange fair rfl succeeded -
      exact fair.not_failed kind succeeded
  have logs (state : ServerState) :
      Steady (discard (metadata (.logon settings.auth))).run state fun _ state => state ≠ .failed :=
    single (.logon settings.auth) (by simp [Request.kind]) (by simp [Request.kind])
  have ready {state : ServerState} (unfailed : state ≠ .failed) :
      Steady (Pure.pure (.ok ())) state fun _ state => state ≠ .failed := .pure unfailed
  refine Yields.prepare .nil fun state => ?_
  cases state with
  | negotiation =>
    have greets : Steady (discard (metadata (.hello settings.client))).run .negotiation
        fun _ state => state ≠ .failed :=
      single (.hello settings.client) (by simp [Request.kind]) (by simp [Request.kind])
    exact greets.attempt (sequential_metadata _).discard fun _ state _ => logs state
  | authentication => exact logs .authentication
  | failed => exact single .reset (by decide) fun _ => .inl rfl
  | interrupted => exact single .reset (by decide) fun _ => .inr rfl
  | defunct => exact Steady.fails
  | disconnected | ready | streaming | txReady | txStreaming => exact ready (by decide)

theorem run_steady (query : Query) (unfailed : start ≠ .failed) :
    Steady (metadata query.request).run start fun _ _ => True := by
  refine .metadata ?_ fun _ _ _ _ _ => trivial
  rintro exchange rfl same
  have kind : exchange.request.kind = .run := by rw [same]; rfl
  exact ⟨by simp [queryKinds, kind], fun _ => unfailed, by simp [kind]⟩

theorem succeeded_of_result {exchange : Exchange} {answered : List (List Value) × SuccessMetadata}
    (answer : exchange.reply.outcome.bind Response.result = .ok answered) :
    exchange.succeeded = true := by
  obtain ⟨state, request, seen, outcome, final⟩ := exchange
  cases outcome with
  | error fault => cases answer
  | ok response =>
    change response.result = .ok answered at answer
    change (response.result.map Prod.snd).isOk = true
    rw [answer]
    rfl

theorem pullAll_steady (qid : Option Int64) (gathered : List (List Value)) :
    Steady (pullAll qid gathered).run start fun _ _ => True := by
  intro exchanges result dialogue fair
  induction exchanges generalizing gathered start with
  | nil =>
    cases dialogue with
    | pending => exact ⟨.nil, fun _ _ => nofun⟩
    | finish ends => cases ends []
  | cons exchange rest ih =>
    obtain ⟨-, pull, course⟩ := dialogue.pulling
    have one : Straight [exchange] :=
      .one ⟨by simp [queryKinds, pull, Request.kind], by simp [pull, Request.kind],
        by simp [pull, Request.kind]⟩
    replace fair := (List.forall_mem_cons.1 fair).2
    have goesWell (succeeded : exchange.succeeded = true)
        (later : Straight rest ∧ ∀ value state, result = some (value, state) →
          ∀ gathered, value = .ok gathered → Smooth rest ∧ True) :
        Straight (exchange :: rest) ∧ ∀ value state, result = some (value, state) →
          ∀ gathered, value = .ok gathered → Smooth (exchange :: rest) ∧ True :=
      ⟨one.append (.one succeeded) later.1, fun value state ends gathered same =>
        ⟨.append (.one succeeded) (later.2 value state ends gathered same).1, trivial⟩⟩
    cases course with
    | fails fault answer goesOn =>
      obtain rfl := goesOn.of_pure
      refine ⟨one, fun value state ends other same => ?_⟩
      subst ends same
      cases goesOn with
      | finish ends => cases ends []
    | last batch summary answer none goesOn =>
      exact goesWell (succeeded_of_result answer) (Steady.pure trivial rest result goesOn fair)
    | more batch summary answer some goesOn =>
      exact goesWell (succeeded_of_result answer) (ih _ goesOn fair)

theorem fetchAll_steady (settings : SessionSettings) (query : Query) :
    Steady (fetchAll settings query).run start fun _ _ => True := by
  refine (prepare_steady settings).attempt (sequential_prepare settings) fun _ state unfailed => ?_
  refine (run_steady query unfailed).attempt (sequential_metadata _) fun run state _ => ?_
  exact (pullAll_steady run.qid []).attempt (sequential_pullAll _ _) fun _ _ _ => .pure trivial

theorem runQuery_steady (settings : SessionSettings) (query : Query) (read : Decoder α) :
    Steady (runQuery settings query read).run start fun _ _ => True := by
  refine (fetchAll_steady settings query).attempt (sequential_fetchAll _ _) fun result state _ => ?_
  cases result.records.mapM fun row => read (.list row) with
  | ok rows => exact .pure trivial
  | error fault => exact .fails

theorem execute_steady (settings : SessionSettings) (query : Query) :
    Steady (execute settings query).run start fun _ _ => True := by
  refine (prepare_steady settings).attempt (sequential_prepare settings) fun _ state unfailed => ?_
  refine (run_steady query unfailed).attempt (sequential_metadata _) fun run state _ => ?_
  refine .metadata ?_ fun _ _ _ _ _ => trivial
  rintro exchange - same
  have kind : exchange.request.kind = .discard := by rw [same]; rfl
  exact ⟨by simp [queryKinds, kind], by simp [kind], by simp [kind]⟩

/-- A call that runs a query. -/
inductive Call.RunsQuery : Call → Prop where
  | execute (query : Query) : RunsQuery (.execute query)
  | fetchAll (query : Query) : RunsQuery (.fetchAll query)
  | runQuery (query : Query) (read : Decoder Value) : RunsQuery (.runQuery query read)

/-- A call that runs a query sends nothing behind a failure, and fails behind one. -/
theorem program_straight (settings : SessionSettings) {made : Call} (runs : made.RunsQuery) :
    Yields (made.program settings) start Straight fun exchanges result _ =>
      (∀ fault, result ≠ .failed fault) → Smooth exchanges := by
  have viewed {α : Type} {attempt : Attempt α} (view : α → Call.Result)
      (steady : Steady attempt.run start fun _ _ => True)
      (sequential : Sequential attempt.run start) :
      Yields (Call.Result.ofExcept view <$> attempt.run) start Straight fun exchanges result _ =>
        (∀ fault, result ≠ .failed fault) → Smooth exchanges := by
    refine .map (Yields.mono steady (fun _ straight => straight) ?_) sequential
    intro exchanges result state _ post unfailed
    cases result with
    | ok value => exact (post value rfl).1
    | error fault => exact absurd rfl (unfailed fault)
  cases runs with
  | execute query => exact viewed _ (execute_steady settings query) (sequential_execute _ _)
  | fetchAll query => exact viewed _ (fetchAll_steady settings query) (sequential_fetchAll _ _)
  | runQuery query read =>
    exact viewed _ (runQuery_steady settings query read) (sequential_runQuery _ _ _)

end Calls

end BoltClient.Session
