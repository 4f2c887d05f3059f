import BoltClient.Proofs.Session.Queries

/-!
What a fault is told for. Callers of a query ask for one thing after the other and stop at the
first answer that is a fault, so the fault that they give is the one of their last request. A
connection that was lost before is told of without any.
-/

namespace BoltClient.Session

variable {α β : Type}

/-! Callers step by step: what a finished part has said, and that no part waits in between. -/

section Parts

variable {start final : ServerState} {exchanges : List Exchange}

theorem Dialogue.attempt {first : Attempt α} {next : α → Attempt β} {result : Except Fault β}
    (sequential : Sequential first.run start)
    (dialogue : Dialogue (first >>= next).run start exchanges (some (result, final))) :
    (∃ fault, result = .error fault ∧
      Dialogue first.run start exchanges (some (.error fault, final))) ∨
    ∃ front back value state, exchanges = front ++ back ∧
      Dialogue first.run start front (some (.ok value, state)) ∧
      Dialogue (next value).run state back (some (result, final)) := by
  rw [ExceptT.run_bind] at dialogue
  rcases dialogue.bind sequential with ⟨-, none⟩ | ⟨front, back, value, state, rfl, ended, goesOn⟩
  · cases none
  · cases value with
    | ok value => exact .inr ⟨front, back, value, state, rfl, ended, goesOn⟩
    | error fault =>
      cases goesOn with
      | finish ends =>
        cases ends []
        exact .inl ⟨fault, rfl, by rwa [List.append_nil]⟩
      | ask _ asks => cases asks

theorem Dialogue.of_metadata {request : Request} {result : Except Fault SuccessMetadata}
    (dialogue : Dialogue (metadata request).run start exchanges (some (result, final))) :
    ∃ exchange : Exchange, exchanges = [exchange] ∧ exchange.state = start ∧
      exchange.request = request ∧ final = exchange.reply.state ∧
      result = (exchange.reply.outcome.bind Response.metadata).mapError .protocol := by
  rw [metadata_run] at dialogue
  cases dialogue with
  | finish ends => cases ends []
  | @ask _ _ exchange _ _ same asks later =>
    cases later with
    | finish ends =>
      cases ends []
      exact ⟨exchange, rfl, same, (Progress.asks.inj asks).symm, rfl, rfl⟩
    | ask _ asks => cases asks

/-- That a caller always asks for something or has come to its end. -/
def Prompt (session : Session α) (start : ServerState) : Prop :=
  ∀ replies, session start replies ≠ .waits

theorem Prompt.bind {session : Session α} {next : α → Session β} (first : Prompt session start)
    (later : ∀ value state, Prompt (next value) state) : Prompt (session >>= next) start := by
  intro replies waits
  cases progress : session start replies with
  | finished value state rest =>
    exact later value state rest ((bind_finished progress).symm.trans waits)
  | asks request => cases (bind_asks progress).symm.trans waits
  | waits => exact first replies progress

theorem prompt_pure (value : α) : Prompt (pure value) start := fun _ => nofun

theorem Prompt.attempt {first : Attempt α} {next : α → Attempt β} (prompt : Prompt first.run start)
    (later : ∀ value state, Prompt (next value).run state) : Prompt (first >>= next).run start := by
  refine prompt.bind fun result state => ?_
  cases result with
  | ok value => exact later value state
  | error fault => exact prompt_pure _

theorem Prompt.map {session : Session α} (prompt : Prompt session start) (view : α → β) :
    Prompt (view <$> session) start :=
  prompt.bind fun value _ => prompt_pure (view value)

theorem prompt_metadata (request : Request) : Prompt (metadata request).run start := by
  have asks : Prompt (ask request) start := fun replies => by cases replies <;> nofun
  rw [metadata_run]
  exact asks.map _

theorem prompt_pullAll (qid : Option Int64) (gathered : List (List Value)) :
    Prompt (pullAll qid gathered).run start := by
  intro replies
  induction replies generalizing gathered start with
  | nil => nofun
  | cons reply rest ih =>
    have goesOn := after_pullAll qid gathered start reply rest
    intro waits
    have stays := goesOn.symm.trans waits
    cases answer : reply.outcome.bind Response.result with
    | error fault => rw [pulled_error answer] at stays; cases stays
    | ok answered =>
      obtain ⟨batch, summary⟩ := answered
      cases more : summary.streaming with
      | true => rw [pulled_more answer more] at stays; exact ih _ stays
      | false => rw [pulled_last answer more] at stays; cases stays

/-- Only before the connection has been opened is there anything to wait for. -/
theorem prompt_prepare (settings : SessionSettings) (opened : start ≠ .disconnected) :
    Prompt (prepare settings).run start := by
  have one (request : Request) {state : ServerState} :
      Prompt (discard (metadata request)).run state := by
    rw [discard_run]
    exact (prompt_metadata request).map _
  have looks : Prompt (current >>= fun now => (preparing settings now).run) start := by
    have current : Prompt current start := fun _ => nofun
    refine current.bind fun now state => ?_
    cases now with
    | negotiation => exact (one _).attempt fun _ _ => one _
    | authentication | failed | interrupted => exact one _
    | disconnected | defunct | ready | streaming | txReady | txStreaming => exact prompt_pure _
  rw [prepare_run]
  exact fun replies waits =>
    looks replies ((bind_finished (awaitOpening_eq opened replies)).symm.trans waits)

theorem prompt_fetchAll (settings : SessionSettings) (query : Query)
    (opened : start ≠ .disconnected) : Prompt (fetchAll settings query).run start :=
  (prompt_prepare settings opened).attempt fun _ _ => (prompt_metadata _).attempt fun _ _ =>
    (prompt_pullAll _ _).attempt fun _ _ => prompt_pure _

/-- Nothing is said before the connection has been opened. -/
theorem Dialogue.opened_of_fetchAll {settings : SessionSettings} {query : Query}
    {result : Option (Except Fault QueryResult × ServerState)}
    (dialogue : Dialogue (fetchAll settings query).run start exchanges result)
    (spoke : exchanges ≠ []) : start ≠ .disconnected := by
  rintro rfl
  cases dialogue with
  | pending | finish => exact spoke rfl
  | ask _ asks => cases asks

end Parts

/-! The last request and its fault. -/

/-- That the last request failed, and with this fault. -/
def Blamed (exchanges : List Exchange) (fault : Fault) : Prop :=
  ∃ front last reason, exchanges = front ++ [last] ∧
    last.reply.outcome.bind Response.metadata = .error reason ∧ fault = .protocol reason

/-- That a caller gives a fault only for its last request. -/
def Blames (session : Session (Except Fault α)) (start : ServerState) : Prop :=
  Yields session start (fun _ => True) fun exchanges result _ =>
    ∀ fault, result = .error fault → Blamed exchanges fault

section Blame

variable {start : ServerState} {exchanges : List Exchange} {fault : Fault}

theorem Blamed.append (blamed : Blamed exchanges fault) (before : List Exchange) :
    Blamed (before ++ exchanges) fault := by
  obtain ⟨front, last, reason, rfl, failed, rfl⟩ := blamed
  exact ⟨before ++ front, last, reason, (List.append_assoc ..).symm, failed, rfl⟩

theorem Blamed.unique {other : Fault} (blamed : Blamed exchanges fault)
    (blamed' : Blamed exchanges other) : fault = other := by
  obtain ⟨front, last, reason, rfl, failed, rfl⟩ := blamed
  obtain ⟨front', last', reason', same, failed', rfl⟩ := blamed'
  obtain ⟨-, one⟩ := List.append_inj' same rfl
  cases one
  cases failed.symm.trans failed'
  rfl

theorem Blamed.not_smooth (blamed : Blamed exchanges fault) : ¬ Smooth exchanges := by
  obtain ⟨front, last, reason, rfl, failed, rfl⟩ := blamed
  intro smooth
  have succeeded := smooth last (by simp)
  rw [Exchange.succeeded, failed] at succeeded
  cases succeeded

namespace Blames

theorem metadata (request : Request) : Blames (metadata request).run start := by
  refine Yields.metadata trivial fun exchange _ _ _ => ⟨trivial, fun fault failed => ?_⟩
  cases outcome : exchange.reply.outcome.bind Response.metadata with
  | ok metadata => rw [outcome] at failed; cases failed
  | error reason =>
    rw [outcome] at failed
    cases failed
    exact ⟨[], exchange, reason, rfl, outcome, rfl⟩

theorem pure (value : α) : Blames (Pure.pure (.ok value)) start :=
  Yields.pure trivial fun _ => nofun

theorem attempt {first : Attempt α} {next : α → Attempt β} (blames : Blames first.run start)
    (sequential : Sequential first.run start)
    (later : ∀ value state, Blames (next value).run state) :
    Blames (first >>= next).run start := by
  refine Yields.attempt sequential blames (fun _ fault _ blamed => ⟨trivial, ?_⟩) ?_
  · rintro _ ⟨⟩
    exact blamed fault rfl
  · exact fun front value state _ => (later value state).mono (fun _ _ => trivial)
      fun _ _ _ _ blamed fault same => (blamed fault same).append front

theorem discard {attempt : Attempt α} (blames : Blames attempt.run start)
    (sequential : Sequential attempt.run start) : Blames (discard attempt).run start := by
  refine Yields.discard (blames.mono (fun _ _ => trivial) ?_) sequential
  rintro exchanges (fault | value) state - blamed other same
  · cases same
    exact blamed fault rfl
  · cases same

end Blames

theorem metadata_of_result {outcome : Outcome} {reason : ProtocolFault}
    (failed : outcome.bind Response.result = .error reason) :
    outcome.bind Response.metadata = .error reason := by
  cases outcome with
  | error other =>
    cases failed
    rfl
  | ok response =>
    have same : response.result = .error reason := failed
    exact congrArg (Except.map Prod.snd) same

theorem pullAll_blames (qid : Option Int64) (gathered : List (List Value)) :
    Blames (pullAll qid gathered).run start := by
  intro exchanges result dialogue fair
  refine ⟨trivial, ?_⟩
  rintro value state rfl fault rfl
  induction exchanges generalizing gathered start with
  | nil =>
    cases dialogue with
    | finish ends => cases ends []
  | cons exchange rest ih =>
    obtain ⟨-, -, course⟩ := dialogue.pulling
    cases course with
    | fails reason answer goesOn =>
      obtain rfl := goesOn.of_pure
      cases goesOn with
      | finish ends =>
        cases ends []
        exact ⟨[], exchange, reason, rfl, metadata_of_result answer, rfl⟩
    | last batch summary answer none goesOn =>
      cases goesOn with
      | finish ends => cases ends []
      | ask _ asks => cases asks
    | more batch summary answer some goesOn =>
      exact (ih _ (List.forall_mem_cons.1 fair).2 goesOn).append [exchange]

/-- The preparation fails with its last request, or at once on a connection that was lost. -/
theorem prepare_blames (settings : SessionSettings) (alive : start ≠ .defunct) :
    Blames (prepare settings).run start := by
  have one (request : Request) {state : ServerState} :
      Blames (discard (metadata request)).run state :=
    (Blames.metadata request).discard (sequential_metadata request)
  refine Yields.prepareFrom trivial fun opened => ?_
  cases start with
  | negotiation => exact (one _).attempt (sequential_metadata _).discard fun _ _ => one _
  | authentication | failed | interrupted => exact one _
  | defunct => exact absurd rfl alive
  | disconnected | ready | streaming | txReady | txStreaming => exact Blames.pure ()

/-- A result is not given because the connection was lost before, or for the first request that
failed. -/
def Failed (start : ServerState) (exchanges : List Exchange) (fault : Fault) : Prop :=
  start = .defunct ∧ exchanges = [] ∧ fault = .protocol .defunct ∨
    Smooth exchanges.dropLast ∧ Blamed exchanges fault

theorem Dialogue.fetchAll_failed {settings : SessionSettings} {query : Query}
    {final : ServerState}
    (dialogue : Dialogue (fetchAll settings query).run start exchanges
      (some (.error fault, final)))
    (fair : ∀ exchange ∈ exchanges, exchange.Fair) : Failed start exchanges fault := by
  by_cases lost : start = .defunct
  · subst lost
    have fails (replies : List Reply) : (fetchAll settings query).run .defunct replies =
        .finished (.error (.protocol .defunct)) .defunct replies := rfl
    cases dialogue with
    | finish ends =>
      cases (fails []).symm.trans (ends [])
      exact .inl ⟨rfl, rfl, rfl⟩
    | ask _ asks => cases (fails []).symm.trans asks
  · have blames : Blames (fetchAll settings query).run start :=
      (prepare_blames settings lost).attempt (sequential_prepare settings) fun _ _ =>
        (Blames.metadata _).attempt (sequential_metadata _) fun run _ =>
          (pullAll_blames run.qid []).attempt (sequential_pullAll _ _) fun _ _ => .pure _
    have steady := (fetchAll_steady settings query exchanges _ dialogue fair).1
    exact .inr ⟨steady.smooth, (blames exchanges _ dialogue fair).2 _ _ rfl fault rfl⟩

end Blame

end BoltClient.Session
