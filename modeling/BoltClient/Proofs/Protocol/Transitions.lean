import BoltClient.Message.Request

/-!
What an answer does to the state of the server. Each request that may be sent belongs to one part
of a conversation: the greeting, the logging on, or the session behind it. Inside a session the
states of an explicit transaction are entered by a successful BEGIN alone, and kept by successful
requests for a query or its records.
-/

namespace BoltClient

/-- Whether the client is logged on. -/
def ServerState.inSession : ServerState → Bool
  | ready | streaming | txReady | txStreaming | failed | interrupted => true
  | _ => false

/-- The states in which a request is ignored. -/
def ServerState.isBroken (state : ServerState) : Bool := state = failed || state = interrupted

namespace Request.Kind

open ServerState

variable {kind : Kind} {state next : ServerState} {summary : Summary}

theorem isAllowed_defunct (kind : Kind) : kind.isAllowed .defunct = false := by
  cases kind <;> decide

/-! Where each sort of request leads when it succeeds, and that it breaks the session otherwise. -/

theorem whenRunning_leads (leads : whenRunning state summary = some next) :
    summary.isSuccess = true ∧ (state = ready ∧ next = streaming ∨
      state.inTransaction = true ∧ next = txStreaming) ∨
    summary.isSuccess = false ∧ next.isBroken = true := by
  cases summary with
  | success metadata =>
    refine .inl ⟨rfl, ?_⟩
    cases state <;> simp_all [whenRunning, inTransaction]
  | failure => cases state <;> cases leads <;> exact .inr ⟨rfl, rfl⟩
  | ignored => cases state <;> cases leads <;> exact .inr ⟨rfl, rfl⟩

theorem whileStreaming_leads (leads : whileStreaming state summary = some next) :
    summary.isSuccess = true ∧
      (state = streaming ∧ next = (if summary.streaming then streaming else ready) ∨
        state = txStreaming ∧ next = (if summary.streaming then txStreaming else txReady)) ∨
    summary.isSuccess = false ∧ next.isBroken = true := by
  cases summary with
  | success metadata =>
    cases state <;> cases leads
    · exact .inl ⟨rfl, .inl ⟨rfl, rfl⟩⟩
    · exact .inl ⟨rfl, .inr ⟨rfl, rfl⟩⟩
  | failure => cases state <;> cases leads <;> exact .inr ⟨rfl, rfl⟩
  | ignored => cases state <;> cases leads <;> exact .inr ⟨rfl, rfl⟩

theorem whenClosing_leads (leads : whenClosing state summary = some next) :
    summary.isSuccess = true ∧ state = txReady ∧ next = ready ∨
    summary.isSuccess = false ∧ next.isBroken = true := by
  cases summary with
  | success metadata =>
    cases state <;> cases leads
    exact .inl ⟨rfl, rfl, rfl⟩
  | failure =>
    cases state <;> cases leads
    exact .inr ⟨rfl, rfl⟩
  | ignored => cases state <;> cases leads <;> exact .inr ⟨rfl, rfl⟩

theorem whenBeginning_leads (leads : whenBeginning state summary = some next) :
    summary.isSuccess = true ∧ next = txReady ∨
    summary.isSuccess = false ∧ next.isBroken = true := by
  cases summary with
  | success metadata => cases state <;> cases leads <;> exact .inl ⟨rfl, rfl⟩
  | failure =>
    cases state <;> cases leads
    exact .inr ⟨rfl, rfl⟩
  | ignored => cases state <;> cases leads <;> exact .inr ⟨rfl, rfl⟩

theorem whenRouting_leads (leads : whenRouting state summary = some next) :
    summary.isSuccess = true ∧ next = ready ∨ summary.isSuccess = false ∧ next.isBroken = true := by
  cases summary with
  | success metadata =>
    cases state <;> cases leads
    exact .inl ⟨rfl, rfl⟩
  | failure =>
    cases state <;> cases leads
    exact .inr ⟨rfl, rfl⟩
  | ignored =>
    cases state <;> cases leads
    exact .inr ⟨rfl, rfl⟩

theorem inSession_of_isBroken (broken : state.isBroken = true) : state.inSession = true := by
  cases state <;> first | rfl | cases broken

theorem outside_of_isBroken (broken : state.isBroken = true) : state.inTransaction = false := by
  cases state <;> first | rfl | cases broken

/-! ## Parts of a conversation -/

/-- Where a request that may be sent stands in a conversation, and where its answer leads. -/
inductive Passage (summary : Summary) : Kind → ServerState → ServerState → Prop where
  | hello : Passage summary hello negotiation
      (if summary.isSuccess then authentication else defunct)
  | logon : Passage summary logon authentication (if summary.isSuccess then ready else defunct)
  | logoff {state : ServerState} (inside : state.inSession = true) :
    Passage summary logoff state (if summary.isSuccess then authentication else defunct)
  | other {kind : Kind} {state next : ServerState} (working : kind ≠ .hello ∧ kind ≠ .logon ∧
      kind ≠ .logoff) (inside : state.inSession = true)
    (leads : next.inSession = true ∨ next = defunct) : Passage summary kind state next

private theorem inSession_in_all : ∀ kind ∈ all, kind ≠ .hello → kind ≠ .logon →
    ∀ state ∈ ServerState.all, kind.isAllowed state = true → state.inSession = true := by
  decide

theorem inSession_of_isAllowed (later : kind ≠ .hello) (logged : kind ≠ .logon)
    (allowed : kind.isAllowed state = true) : state.inSession = true :=
  inSession_in_all kind (mem_all kind) later logged state (ServerState.mem_all state) allowed

theorem isAllowed_hello : hello.isAllowed state = true ↔ state = negotiation := by
  cases state <;> decide

theorem isAllowed_logon : logon.isAllowed state = true ↔ state = authentication := by
  cases state <;> decide

/-- A request that works on the session leads on in the session, or out of everything. -/
theorem leads_inSession (working : kind ≠ .hello ∧ kind ≠ .logon ∧ kind ≠ .logoff)
    (leads : kind.nextState state summary = some next) :
    next.inSession = true ∨ next = defunct := by
  cases kind with
  | hello => exact absurd rfl working.1
  | logon => exact absurd rfl working.2.1
  | logoff => exact absurd rfl working.2.2
  | goodbye => exact .inr (Option.some.inj leads).symm
  | reset =>
    obtain rfl := Option.some.inj leads
    cases summary.isSuccess
    · exact .inr rfl
    · exact .inl rfl
  | telemetry =>
    obtain rfl := Option.some.inj leads
    cases summary.isSuccess <;> exact .inl rfl
  | run =>
    rcases whenRunning_leads leads with ⟨-, ⟨-, rfl⟩ | ⟨-, rfl⟩⟩ | ⟨-, broken⟩
    · exact .inl rfl
    · exact .inl rfl
    · exact .inl (inSession_of_isBroken broken)
  | discard | pull =>
    rcases whileStreaming_leads leads with ⟨-, ⟨-, rfl⟩ | ⟨-, rfl⟩⟩ | ⟨-, broken⟩
    · left
      split <;> rfl
    · left
      split <;> rfl
    · exact .inl (inSession_of_isBroken broken)
  | begin =>
    rcases whenBeginning_leads leads with ⟨-, rfl⟩ | ⟨-, broken⟩
    · exact .inl rfl
    · exact .inl (inSession_of_isBroken broken)
  | commit | rollback =>
    rcases whenClosing_leads leads with ⟨-, -, rfl⟩ | ⟨-, broken⟩
    · exact .inl rfl
    · exact .inl (inSession_of_isBroken broken)
  | route =>
    rcases whenRouting_leads leads with ⟨-, rfl⟩ | ⟨-, broken⟩
    · exact .inl rfl
    · exact .inl (inSession_of_isBroken broken)

/-- Every answer to a request that may be sent is one of these passages. -/
theorem passage (allowed : kind.isAllowed state = true)
    (leads : kind.nextState state summary = some next) : Passage summary kind state next := by
  by_cases hello : kind = .hello
  · subst hello
    obtain rfl := isAllowed_hello.1 allowed
    obtain rfl := Option.some.inj leads
    exact .hello
  by_cases logon : kind = .logon
  · subst logon
    obtain rfl := isAllowed_logon.1 allowed
    obtain rfl := Option.some.inj leads
    exact .logon
  by_cases logoff : kind = .logoff
  · subst logoff
    obtain rfl := Option.some.inj leads
    exact .logoff (inSession_of_isAllowed hello logon allowed)
  · have working : kind ≠ .hello ∧ kind ≠ .logon ∧ kind ≠ .logoff := ⟨hello, logon, logoff⟩
    exact .other working (inSession_of_isAllowed hello logon allowed)
      (leads_inSession working leads)

/-! ## Explicit transactions -/

/-- Requests that are made inside a transaction, for a query or its records. -/
def isQuery (kind : Kind) : Bool := kind = run || kind = pull || kind = discard

/-- A transaction is entered by a successful BEGIN and kept by successful queries. -/
theorem inTransaction_iff (leads : kind.nextState state summary = some next) :
    next.inTransaction = true ↔ summary.isSuccess = true ∧
      (kind = .begin ∨ kind.isQuery = true ∧ state.inTransaction = true) := by
  cases kind with
  | hello | goodbye | logon | logoff | reset | telemetry =>
    obtain rfl := Option.some.inj leads
    cases summary.isSuccess <;> simp [isQuery, inTransaction]
  | run =>
    rcases whenRunning_leads leads with ⟨success, ⟨rfl, rfl⟩ | ⟨inside, rfl⟩⟩ | ⟨failure, broken⟩
    · simp [isQuery, inTransaction]
    · simpa [isQuery, inTransaction, success] using inside
    · simp [failure, outside_of_isBroken broken]
  | discard | pull =>
    rcases whileStreaming_leads leads with ⟨success, ⟨rfl, rfl⟩ | ⟨rfl, rfl⟩⟩ | ⟨failure, broken⟩
    · split <;> simp [isQuery, inTransaction]
    · split <;> simp [isQuery, inTransaction, success]
    · simp [failure, outside_of_isBroken broken]
  | begin =>
    rcases whenBeginning_leads leads with ⟨success, rfl⟩ | ⟨failure, broken⟩
    · simp [inTransaction, success]
    · simp [failure, outside_of_isBroken broken]
  | commit | rollback =>
    rcases whenClosing_leads leads with ⟨-, -, rfl⟩ | ⟨failure, broken⟩
    · simp [isQuery, inTransaction]
    · simp [failure, outside_of_isBroken broken]
  | route =>
    rcases whenRouting_leads leads with ⟨-, rfl⟩ | ⟨failure, broken⟩
    · simp [isQuery, inTransaction]
    · simp [failure, outside_of_isBroken broken]

/-- In which of its states an answer leaves a transaction. -/
theorem inTransaction_leads (leads : kind.nextState state summary = some next)
    (inside : next.inTransaction = true) :
    kind = .begin ∧ next = txReady ∨ kind = .run ∧ next = txStreaming ∨
      (kind = .pull ∨ kind = .discard) ∧
        next = if summary.streaming then txStreaming else txReady := by
  have kept := (inTransaction_iff leads).1 inside
  have records (taking : whileStreaming state summary = some next)
      (within : state.inTransaction = true) :
      next = if summary.streaming then txStreaming else txReady := by
    rcases whileStreaming_leads taking with ⟨-, ⟨rfl, -⟩ | ⟨-, here⟩⟩ | ⟨failure, -⟩
    · cases within
    · exact here
    · rw [kept.1] at failure
      cases failure
  obtain ⟨success, rfl | ⟨query, within⟩⟩ := kept
  · rcases whenBeginning_leads leads with ⟨-, here⟩ | ⟨failure, -⟩
    · exact .inl ⟨rfl, here⟩
    · rw [success] at failure
      cases failure
  · cases kind <;> cases query
    · rcases whenRunning_leads leads with ⟨-, ⟨rfl, -⟩ | ⟨-, here⟩⟩ | ⟨failure, -⟩
      · cases within
      · exact .inr (.inl ⟨rfl, here⟩)
      · rw [success] at failure
        cases failure
    · exact .inr (.inr ⟨.inr rfl, records leads within⟩)
    · exact .inr (.inr ⟨.inl rfl, records leads within⟩)

/-- A transaction that is closed was at rest, and the connection is ready again. -/
theorem closing_leads (closes : kind = .commit ∨ kind = .rollback)
    (success : summary.isSuccess = true) (leads : kind.nextState state summary = some next) :
    state = txReady ∧ next = ready := by
  have closing : whenClosing state summary = some next := by
    rcases closes with rfl | rfl <;> exact leads
  rcases whenClosing_leads closing with ⟨-, here⟩ | ⟨failure, -⟩
  · exact here
  · rw [success] at failure
    cases failure

theorem whenClosing_outside (leads : whenClosing state summary = some next) :
    next.inTransaction = false := by
  rcases whenClosing_leads leads with ⟨-, -, rfl⟩ | ⟨-, broken⟩
  · rfl
  · exact outside_of_isBroken broken

/-- Running a query leads out of a transaction only with a failure. -/
theorem whenRunning_inside (inside : state.inTransaction = true)
    (leads : whenRunning state summary = some next) :
    next.inTransaction = true ∨ summary.isSuccess = false ∧ next = .failed := by
  have named (metadata : SuccessMetadata)
      (named : (if metadata.qid.isSome then some ServerState.txStreaming else none) = some next) :
      next.inTransaction = true := by
    split at named <;> cases named
    rfl
  cases state <;> cases inside <;> cases summary with
  | success metadata => exact .inl (named metadata leads)
  | failure => exact .inr ⟨rfl, (Option.some.inj leads).symm⟩
  | ignored => cases leads

/-- Taking records leads out of a transaction only with a failure. -/
theorem whileStreaming_inside (inside : state.inTransaction = true)
    (leads : whileStreaming state summary = some next) :
    next.inTransaction = true ∨ summary.isSuccess = false ∧ next = .failed := by
  cases state <;> cases inside
  · cases summary <;> cases leads
  · cases summary with
    | success metadata =>
      rw [← Option.some.inj leads]
      cases metadata.streaming <;> exact .inl rfl
    | failure => exact .inr ⟨rfl, (Option.some.inj leads).symm⟩
    | ignored => cases leads

/-- Behind a failure there are no records. -/
theorem whileStreaming_failed (leads : whileStreaming .failed summary = some next) :
    next = .failed := by
  cases summary <;> cases leads
  rfl

end Request.Kind
end BoltClient
