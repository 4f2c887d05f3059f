import BoltClient.Proofs.Session.Exchange

/-!
A caller and the replies to it, request by request. A dialogue is a part of what a
caller can say when it has certain replies. The dialogue of a caller that is made of
parts is made of theirs, if each part takes the replies to its own requests and leaves
the others; `Sequential` says so, and every caller that a session offers is sequential.
-/

namespace BoltClient.Session

variable {α β : Type}

/-- What a caller does when it has had a reply. -/
def after (session : Session α) (start : ServerState) (reply : Reply) : Session α :=
  fun _ replies => session start (reply :: replies)

/-- The requests of a caller that starts in a state, one by one with their replies; and the
value and the state in the end, when it has come to its end. -/
inductive Dialogue :
    Session α → ServerState → List Exchange → Option (α × ServerState) → Prop where
  | pending (session : Session α) (start : ServerState) : Dialogue session start [] none
  | finish {session : Session α} {start : ServerState} {value : α}
    (ends : ∀ replies, session start replies = .finished value start replies) :
    Dialogue session start [] (some (value, start))
  | ask {session : Session α} {start : ServerState} {exchange : Exchange} {rest : List Exchange}
    {result : Option (α × ServerState)} (same : exchange.state = start)
    (asks : session start [] = .asks exchange.request)
    (later : Dialogue (session.after start exchange.reply) exchange.reply.state rest result) :
    Dialogue session start (exchange :: rest) result

/-- The state in which a caller goes on behind its exchanges. -/
def endState (start : ServerState) : List Exchange → ServerState
  | [] => start
  | exchange :: rest => endState exchange.reply.state rest

@[simp] theorem endState_concat (start : ServerState) (exchanges : List Exchange)
    (exchange : Exchange) : endState start (exchanges ++ [exchange]) = exchange.reply.state := by
  induction exchanges generalizing start with
  | nil => rfl
  | cons _ _ ih => exact ih _

/-- That a caller takes no more replies than it has asked for, and goes on in the state of the
last of them. -/
def Sequential (session : Session α) (start : ServerState) : Prop :=
  ∀ exchanges, Dialogue session start exchanges none → ∀ value state rest,
    session start (exchanges.map Exchange.reply) = .finished value state rest →
      Dialogue session start exchanges (some (value, state))

section Parts

variable {session : Session α} {next : α → Session β} {start : ServerState} {value : α}
  {exchange : Exchange} {exchanges : List Exchange} {request : Request}

theorem bind_finished {state : ServerState} {replies rest : List Reply}
    (done : session start replies = .finished value state rest) :
    (session >>= next) start replies = next value state rest := by
  dsimp only [Bind.bind]
  rw [done]

theorem bind_asks {replies : List Reply} (asks : session start replies = .asks request) :
    (session >>= next) start replies = .asks request := by
  dsimp only [Bind.bind]
  rw [asks]

theorem bind_waits {replies : List Reply} (waits : session start replies = .waits) :
    (session >>= next) start replies = .waits := by
  dsimp only [Bind.bind]
  rw [waits]

/-- Only what a caller does from its own start on matters. -/
theorem Dialogue.congr {other : Session α} {result : Option (α × ServerState)}
    (dialogue : Dialogue session start exchanges result)
    (same : ∀ replies, session start replies = other start replies) :
    Dialogue other start exchanges result := by
  cases dialogue with
  | pending => exact .pending other start
  | finish ends => exact .finish fun replies => (same replies).symm.trans (ends replies)
  | @ask _ _ exchange _ _ state asks later =>
    have rest : session.after start exchange.reply = other.after start exchange.reply :=
      funext fun _ => funext fun replies => same (exchange.reply :: replies)
    exact .ask state ((same []).symm.trans asks) (rest ▸ later)

theorem Dialogue.finished_nil {state : ServerState}
    (dialogue : Dialogue session start [] (some (value, state))) :
    state = start ∧ ∀ replies, session start replies = .finished value start replies := by
  cases dialogue with
  | finish ends => exact ⟨rfl, ends⟩

/-- A caller that gives a value at once asks for nothing. -/
theorem Dialogue.of_pure {result : Option (α × ServerState)}
    (dialogue : Dialogue (pure value) start exchanges result) : exchanges = [] := by
  cases dialogue with
  | pending | finish => rfl
  | ask _ asks => cases asks

theorem Sequential.finishes (sequential : Sequential session start) {state : ServerState}
    {rest : List Reply} (done : session start [] = .finished value state rest) :
    state = start ∧ ∀ replies, session start replies = .finished value start replies :=
  (sequential [] (.pending session start) value state rest done).finished_nil

theorem Sequential.later (sequential : Sequential session start) (same : exchange.state = start)
    (asks : session start [] = .asks exchange.request) :
    Sequential (session.after start exchange.reply) exchange.reply.state := by
  intro exchanges dialogue value state rest done
  cases sequential (exchange :: exchanges) (.ask same asks dialogue) value state rest done with
  | ask _ _ later => exact later

/-- A dialogue of two parts is one of the first part, or it goes on with the second. -/
theorem Dialogue.bind {result : Option (β × ServerState)} (sequential : Sequential session start)
    (dialogue : Dialogue (session >>= next) start exchanges result) :
    Dialogue session start exchanges none ∧ result = none ∨
      ∃ first second value state, exchanges = first ++ second ∧
        Dialogue session start first (some (value, state)) ∧
        Dialogue (next value) state second result := by
  induction exchanges generalizing session start with
  | nil =>
    cases begins : session start [] with
    | finished value state rest =>
      obtain ⟨-, ends⟩ := sequential.finishes begins
      have later := dialogue.congr fun replies => bind_finished (ends replies)
      exact .inr ⟨[], [], value, start, rfl, .finish ends, later⟩
    | asks request =>
      cases dialogue with
      | pending => exact .inl ⟨.pending session start, rfl⟩
      | finish ends => cases (bind_asks begins).symm.trans (ends [])
    | waits =>
      cases dialogue with
      | pending => exact .inl ⟨.pending session start, rfl⟩
      | finish ends => cases (bind_waits begins).symm.trans (ends [])
  | cons exchange rest ih =>
    cases begins : session start [] with
    | finished value state replies =>
      obtain ⟨-, ends⟩ := sequential.finishes begins
      have later := dialogue.congr fun replies => bind_finished (ends replies)
      exact .inr ⟨[], exchange :: rest, value, start, rfl, .finish ends, later⟩
    | asks request =>
      cases dialogue with
      | ask same asks later =>
        cases (bind_asks begins).symm.trans asks
        rcases ih (sequential.later same begins) later with
          ⟨first, none⟩ | ⟨first, second, value, state, rfl, done, goesOn⟩
        · exact .inl ⟨.ask same begins first, none⟩
        · exact .inr ⟨exchange :: first, second, value, state, rfl, .ask same begins done, goesOn⟩
    | waits =>
      cases dialogue with
      | ask same asks later => cases (bind_waits begins).symm.trans asks

/-- A dialogue that goes on behind one that has ended. -/
theorem Dialogue.append {second : List Exchange} {state : ServerState}
    {result : Option (β × ServerState)}
    (first : Dialogue session start exchanges (some (value, state)))
    (goesOn : Dialogue (next value) state second result) :
    Dialogue (session >>= next) start (exchanges ++ second) result := by
  generalize ending : some (value, state) = ended at first
  induction first with
  | pending => cases ending
  | finish ends =>
    cases ending
    exact goesOn.congr fun replies => (bind_finished (ends replies)).symm
  | ask same asks later ih => exact .ask same (bind_asks asks) (ih ending)

/-- What is said behind a part that has ended is said by what follows it. -/
theorem Dialogue.behind {rest : List Exchange} {state : ServerState}
    {result : Option (β × ServerState)}
    (first : Dialogue session start exchanges (some (value, state)))
    (whole : Dialogue (session >>= next) start (exchanges ++ rest) result) :
    Dialogue (next value) state rest result := by
  generalize ending : some (value, state) = ended at first
  induction first with
  | pending => cases ending
  | finish ends =>
    cases ending
    exact whole.congr fun replies => bind_finished (ends replies)
  | ask _ asks _ ih =>
    cases whole with
    | ask _ _ later => exact ih later ending

/-- One more request, with its reply. -/
theorem Dialogue.concat (dialogue : Dialogue session start exchanges none)
    (asks : session start (exchanges.map Exchange.reply) = .asks exchange.request)
    (same : exchange.state = endState start exchanges) :
    Dialogue session start (exchanges ++ [exchange]) none := by
  induction exchanges generalizing session start with
  | nil => exact .ask same asks (.pending _ _)
  | cons first rest ih =>
    cases dialogue with
    | ask here begins later => exact .ask here begins (ih later asks same)

theorem Dialogue.endState_eq {state : ServerState}
    (dialogue : Dialogue session start exchanges (some (value, state))) :
    state = endState start exchanges := by
  generalize ending : some (value, state) = ended at dialogue
  induction dialogue with
  | pending => cases ending
  | finish =>
    cases ending
    rfl
  | ask _ _ _ ih => exact ih ending

/-- Replies beyond those that a caller asked for are left. -/
theorem Dialogue.replay {state : ServerState}
    (dialogue : Dialogue session start exchanges (some (value, state))) (more : List Reply) :
    session start (exchanges.map Exchange.reply ++ more) = .finished value state more := by
  generalize ending : some (value, state) = ended at dialogue
  induction dialogue with
  | pending => cases ending
  | finish ends =>
    cases ending
    exact ends more
  | ask _ _ _ ih => exact ih ending

end Parts

/-! Which callers are sequential. -/

section Sequential

variable {session : Session α} {next : α → Session β} {start : ServerState}

theorem sequential_of_ends {value : α}
    (ends : ∀ replies, session start replies = .finished value start replies) :
    Sequential session start := by
  intro exchanges dialogue other state rest done
  cases dialogue with
  | pending =>
    cases (ends []).symm.trans done
    exact .finish ends
  | ask _ asks => cases (ends []).symm.trans asks

theorem sequential_pure (value : α) : Sequential (pure value) start :=
  sequential_of_ends fun _ => rfl

theorem sequential_current : Sequential current start := sequential_of_ends fun _ => rfl

theorem sequential_ask (request : Request) : Sequential (ask request) start := by
  intro exchanges dialogue outcome state rest done
  cases dialogue with
  | pending => cases done
  | ask same asks later =>
    cases later with
    | pending =>
      cases done
      exact .ask same asks (.finish fun _ => rfl)
    | ask _ asks => cases asks

theorem awaitOpening_eq (opened : start ≠ .disconnected) (replies : List Reply) :
    awaitOpening start replies = .finished () start replies :=
  if_neg opened

theorem sequential_awaitOpening : Sequential awaitOpening start := by
  intro exchanges dialogue value state rest done
  by_cases early : start = .disconnected
  · have waits : ∀ replies, awaitOpening start replies = .waits := fun _ => if_pos early
    exact absurd ((waits _).symm.trans done) nofun
  · exact sequential_of_ends (awaitOpening_eq early) exchanges dialogue value state rest done

theorem Sequential.bind (sequential : Sequential session start)
    (later : ∀ value state, Sequential (next value) state) :
    Sequential (session >>= next) start := by
  intro exchanges dialogue value state rest done
  rcases dialogue.bind sequential with
    ⟨first, -⟩ | ⟨first, second, middle, between, rfl, ended, goesOn⟩
  · cases begins : session start (exchanges.map Exchange.reply) with
    | finished middle between left =>
      have ended := sequential exchanges first middle between left begins
      have all := ended.replay []
      rw [List.append_nil, begins] at all
      cases all
      rw [bind_finished begins] at done
      have goesOn := later middle between [] (.pending _ _) value state rest done
      have whole := ended.append goesOn
      rwa [List.append_nil] at whole
    | asks request => cases (bind_asks begins).symm.trans done
    | waits => cases (bind_waits begins).symm.trans done
  · rw [List.map_append, bind_finished (ended.replay _)] at done
    exact ended.append (later middle between second goesOn value state rest done)

theorem Sequential.map (sequential : Sequential session start) (view : α → β) :
    Sequential (view <$> session) start :=
  sequential.bind fun value _ => sequential_pure (view value)

theorem Sequential.attempt {attempt : Attempt α} {next : α → Attempt β}
    (sequential : Sequential attempt.run start)
    (later : ∀ value state, Sequential (next value).run state) :
    Sequential (attempt >>= next).run start := by
  refine sequential.bind fun result state => ?_
  cases result with
  | ok value => exact later value state
  | error fault => exact sequential_pure _

end Sequential

/-! What is true of everything that a caller says. -/

/-- That all dialogues in which the answers are fair have a trace of one kind, and that those
that have come to an end have an outcome of one kind. -/
def Yields (session : Session α) (start : ServerState) (Trace : List Exchange → Prop)
    (Post : List Exchange → α → ServerState → Prop) : Prop :=
  ∀ exchanges result, Dialogue session start exchanges result →
    (∀ exchange ∈ exchanges, exchange.Fair) →
      Trace exchanges ∧ ∀ value state, result = some (value, state) → Post exchanges value state

namespace Yields

variable {session : Session α} {start : ServerState} {Trace Other : List Exchange → Prop}
  {Mid : List Exchange → α → ServerState → Prop} {Post : List Exchange → β → ServerState → Prop}

theorem mono {Wider : List Exchange → α → ServerState → Prop}
    (yields : Yields session start Trace Mid)
    (traces : ∀ exchanges, Trace exchanges → Other exchanges)
    (outcomes : ∀ exchanges value state, Trace exchanges → Mid exchanges value state →
      Wider exchanges value state) : Yields session start Other Wider := by
  intro exchanges result dialogue fair
  obtain ⟨trace, outcome⟩ := yields exchanges result dialogue fair
  exact ⟨traces exchanges trace, fun value state ends =>
    outcomes exchanges value state trace (outcome value state ends)⟩

theorem of_ends {value : α}
    (ends : ∀ replies, session start replies = .finished value start replies) (trace : Trace [])
    (outcome : Mid [] value start) : Yields session start Trace Mid := by
  intro exchanges result dialogue _
  cases dialogue with
  | pending => exact ⟨trace, fun _ _ => nofun⟩
  | finish same =>
    cases (ends []).symm.trans (same [])
    refine ⟨trace, fun other state same => ?_⟩
    cases same
    exact outcome
  | ask _ asks => cases (ends []).symm.trans asks

theorem pure {value : α} (trace : Trace []) (outcome : Mid [] value start) :
    Yields (Pure.pure value) start Trace Mid :=
  of_ends (fun _ => rfl) trace outcome

theorem current {Mid : List Exchange → ServerState → ServerState → Prop} (trace : Trace [])
    (outcome : Mid [] start start) : Yields Session.current start Trace Mid :=
  of_ends (fun _ => rfl) trace outcome

theorem ask {request : Request} {Mid : List Exchange → Outcome → ServerState → Prop}
    (silent : Trace [])
    (answered : ∀ exchange : Exchange, exchange.Fair → exchange.state = start →
      exchange.request = request →
        Trace [exchange] ∧ Mid [exchange] exchange.reply.outcome exchange.reply.state) :
    Yields (Session.ask request) start Trace Mid := by
  intro exchanges result dialogue fair
  cases dialogue with
  | pending => exact ⟨silent, fun _ _ => nofun⟩
  | finish ends => cases ends []
  | @ask _ _ exchange _ _ same asks later =>
    cases asks
    obtain ⟨trace, outcome⟩ := answered exchange (fair exchange (by simp)) same rfl
    cases later with
    | pending => exact ⟨trace, fun _ _ => nofun⟩
    | finish ends =>
      cases ends []
      refine ⟨trace, fun value state same => ?_⟩
      cases same
      exact outcome
    | ask _ asks => cases asks

theorem bind {next : α → Session β} (sequential : Sequential session start)
    (first : Yields session start Trace Mid)
    (later : ∀ exchanges value state, Mid exchanges value state →
      Yields (next value) state (fun more => Trace (exchanges ++ more))
        fun more => Post (exchanges ++ more)) :
    Yields (session >>= next) start Trace Post := by
  intro exchanges result dialogue fair
  rcases dialogue.bind sequential with
    ⟨begun, rfl⟩ | ⟨front, back, value, state, rfl, ended, goesOn⟩
  · exact ⟨(first exchanges none begun fair).1, fun _ _ => nofun⟩
  · have middle := (first front _ ended fun exchange member =>
      fair exchange (List.mem_append_left back member)).2 value state rfl
    exact later front value state middle back result goesOn fun exchange member =>
      fair exchange (List.mem_append_right front member)

theorem map {view : α → β}
    (yields : Yields session start Trace fun exchanges value => Post exchanges (view value))
    (sequential : Sequential session start) :
    Yields (view <$> session) start Trace Post := by
  have kept : Yields session start Trace fun exchanges value state =>
      Trace exchanges ∧ Post exchanges (view value) state :=
    yields.mono (fun _ trace => trace) fun _ _ _ trace post => ⟨trace, post⟩
  refine bind sequential kept fun exchanges value state both => ?_
  exact pure (by rw [List.append_nil]; exact both.1) (by rw [List.append_nil]; exact both.2)

theorem attempt {attempt : Attempt α} {next : α → Attempt β}
    {Mid : List Exchange → Except Fault α → ServerState → Prop}
    {Post : List Exchange → Except Fault β → ServerState → Prop}
    (sequential : Sequential attempt.run start) (first : Yields attempt.run start Trace Mid)
    (fails : ∀ exchanges fault state, Mid exchanges (.error fault) state →
      Trace exchanges ∧ Post exchanges (.error fault) state)
    (later : ∀ exchanges value state, Mid exchanges (.ok value) state →
      Yields (next value).run state (fun more => Trace (exchanges ++ more))
        fun more => Post (exchanges ++ more)) :
    Yields (attempt >>= next).run start Trace Post := by
  refine bind sequential first fun exchanges result state middle => ?_
  cases result with
  | ok value => exact later exchanges value state middle
  | error fault =>
    obtain ⟨trace, post⟩ := fails exchanges fault state middle
    exact pure (by rwa [List.append_nil]) (by rwa [List.append_nil])

end Yields

end BoltClient.Session
