import BoltClient.Proofs.Connection.History
import BoltClient.Proofs.Connection.Publishing

/-!
The published state says whether an explicit transaction is open. The state is one of a handful
and the history has no bound, yet the two agree: a transaction is open when a BEGIN has succeeded
and nothing but successful queries has been answered since. Requests that are refused for the
state leave no trace in the history, so they open and close nothing.
-/

namespace BoltClient.Connection

/-- That a BEGIN has succeeded, and that all that was answered since is a RUN, PULL or DISCARD
that has succeeded too. -/
def OpenTransaction (history : History) : Prop :=
  ∃ before begun after, history = before ++ begun :: after ∧ Succeeded .begin begun ∧
    ∀ exchange ∈ after, exchange.1.isQuery = true ∧ exchange.2.isSuccess = true

theorem not_openTransaction_nil : ¬ OpenTransaction [] := by
  rintro ⟨before, begun, after, shape, -⟩
  simpa using congrArg List.length shape

/-- One more exchange opens a transaction, or leaves the one that is open as it is. -/
theorem openTransaction_concat {history : History} {kind : Request.Kind} {summary : Summary} :
    OpenTransaction (history ++ [(kind, summary)]) ↔ summary.isSuccess = true ∧
      (kind = .begin ∨ kind.isQuery = true ∧ OpenTransaction history) := by
  constructor
  · rintro ⟨before, begun, after, shape, succeeded, queries⟩
    rcases concat_eq_append_cons shape with ⟨-, rfl, -⟩ | ⟨inside, rfl, rfl⟩
    · exact ⟨succeeded.2, .inl succeeded.1⟩
    · obtain ⟨query, success⟩ :=
        queries (kind, summary) (List.mem_append_right inside (List.mem_singleton_self _))
      refine ⟨success, .inr ⟨query, before, begun, inside, rfl, succeeded, ?_⟩⟩
      intro exchange member
      exact queries exchange (List.mem_append_left _ member)
  · rintro ⟨success, begins | ⟨query, before, begun, after, rfl, succeeded, queries⟩⟩
    · refine ⟨history, (kind, summary), [], rfl, ⟨begins, success⟩, ?_⟩
      intro exchange member
      cases member
    · refine ⟨before, begun, after ++ [(kind, summary)], by simp, succeeded, ?_⟩
      intro exchange member
      rcases List.mem_append.1 member with earlier | last
      · exact queries exchange earlier
      · rw [List.mem_singleton.1 last]
        exact ⟨query, success⟩

/-- In a conversation the state tells whether a transaction is open. -/
theorem Conversed.inTransaction_iff {history : History} {state : ServerState}
    (conversed : Conversed history state) :
    state.inTransaction = true ↔ OpenTransaction history := by
  induction conversed with
  | start => simp [ServerState.inTransaction, not_openTransaction_nil]
  | step _ _ leads ih => rw [Request.Kind.inTransaction_iff leads, openTransaction_concat, ih]

theorem Reached.inTransaction_iff {versions : List Version} {journal : Journal}
    {connection : Connection} (reached : Reached versions journal connection) :
    connection.state.inTransaction = true ↔
      connection.state ≠ .defunct ∧ OpenTransaction (collect Notes.heard journal) := by
  have tracked := reached.tracked
  cases phase : connection.phase with
  | connecting | negotiating =>
    obtain ⟨start, -, -, silent⟩ := tracked.opening (by simp [phase])
    simp [start, silent, ServerState.start, ServerState.inTransaction, not_openTransaction_nil]
  | idle watching | serving ticket kind =>
    have running : connection.phase.isRunning = true := by simp [phase]
    rw [(reached.conversed running).inTransaction_iff]
    exact (and_iff_right (tracked.ne_defunct running)).symm
  | closing | stopped =>
    have defunct := (tracked.closed (by simp [phase])).1
    simp [defunct, ServerState.inTransaction]

/-- How the replies to requests go together with the history. -/
structure Replied (journal : Journal) (connection : Connection) : Prop where
  opening : connection.phase.isOpening = true → collect Notes.replies journal = []
  running : connection.phase.isRunning = true →
    (collect Notes.given journal).map (fun (_, response) => response.summary) =
      (collect Notes.heard journal).map Prod.snd ∧
    ∀ ticket outcome, (ticket, outcome) ∈ collect Notes.replies journal →
      (∃ response, outcome = .ok response) ∨
        ∃ fault, outcome = .error fault ∧ fault.kind = .forbidden

theorem Reached.replied {versions : List Version} {journal : Journal} {connection : Connection}
    (reached : Reached versions journal connection) : Replied journal connection := by
  refine Reached.keeps Replied ?_ ?_ reached
  · constructor <;> simp [Connection.start]
  · intro journal connection after event seen reached before rule
    obtain ⟨opening, running⟩ := before
    cases rule with
    | still | refuse | accept | receive | hangUp => exact ⟨by simpa, by simpa⟩
    | unopened | disagree | desert | cut | lose | spoil | stray => constructor <;> simp
    | greet greeting phase => exact ⟨fun _ => by simpa using opening (by simp [phase]), by simp⟩
    | agree version rest phase =>
      have none := opening (by simp [phase])
      have given := (reached.attributed.opening (by simp [phase])).1
      have silent := (reached.tracked.opening (by simp [phase])).2.2.2
      exact ⟨by simp, by simp [none, given, silent]⟩
    | glance phase | send _ _ _ phase =>
      exact ⟨by simp, fun _ => by simpa using running (by simp [phase])⟩
    | forbid watching next rest delivery phase =>
      obtain ⟨given, replies⟩ := running (by simp [phase])
      refine ⟨by simp, fun _ => ⟨by simpa using given, ?_⟩⟩
      intro ticket outcome member
      rw [collect_concat] at member
      rcases List.mem_append.1 member with earlier | last
      · exact replies ticket outcome earlier
      · cases List.mem_singleton.1 last
        exact .inr ⟨_, rfl, rfl⟩
    | record ticket kind payload rest fields phase =>
      exact ⟨by simp [phase], by simpa using running⟩
    | conclude ticket kind payload rest summary next phase =>
      obtain ⟨given, replies⟩ := running (by simp [phase])
      refine ⟨by cases next.isTerminal <;> simp, fun _ => ⟨by simp [given], ?_⟩⟩
      intro asked outcome member
      rw [collect_concat] at member
      rcases List.mem_append.1 member with earlier | last
      · exact replies asked outcome earlier
      · cases List.mem_singleton.1 last
        exact .inl ⟨_, rfl⟩
    | drain phase => exact ⟨by simp, by simp⟩

/-- A COMMIT or ROLLBACK that succeeds finds the transaction at rest and leaves none. -/
theorem ready_of_closing {connection : Connection} {event : Event} {kind : Request.Kind}
    {summary : Summary} (heard : (kind, summary) ∈ (connection.notes event).heard)
    (closes : kind = .commit ∨ kind = .rollback) (success : summary.isSuccess = true)
    (alive : (connection.step event).1.state ≠ .defunct) :
    connection.state = .txReady ∧ (connection.step event).1.state = .ready := by
  have rule := step_stride connection event
  generalize connection.notes event = seen at rule heard
  generalize (connection.step event).1 = after at rule alive
  cases rule with
  | stray => exact absurd rfl alive
  | conclude ticket _ payload rest _ next phase found message leads =>
    cases List.mem_singleton.1 heard
    exact Request.Kind.closing_leads closes success leads
  | _ => cases heard

/-- In every run the published state is one of an explicit transaction if and only if the connection
is not defunct, a BEGIN was answered SUCCESS, and every request answered since is a RUN, PULL or
DISCARD answered SUCCESS. A COMMIT or ROLLBACK that is answered SUCCESS without making the
connection defunct ends such a transaction, and the connection is ready. What counts as answered
is what the server has answered: while the connection is not defunct all other requests that had
their turn were forbidden. -/
theorem inTransaction_iff_open (versions : List Version) (events : List Event) :
    let connection := ((start versions).run events).1
    let journal := (start versions).journal events
    let history := collect Notes.heard journal
    let known := (published (start versions).status ((start versions).run events).2).state
    ((known = .txReady ∨ known = .txStreaming) ↔ known ≠ .defunct ∧ OpenTransaction history) ∧
    (∀ event kind summary, (kind, summary) ∈ (connection.notes event).heard →
      kind = .commit ∨ kind = .rollback → summary.isSuccess = true →
        (connection.step event).1.state ≠ .defunct →
          OpenTransaction history ∧ (connection.step event).1.state = .ready ∧
          ¬ OpenTransaction (history ++ (connection.notes event).heard)) ∧
    (known ≠ .defunct →
      (collect Notes.given journal).map (fun (_, response) => response.summary) =
        history.map Prod.snd ∧
      ∀ ticket outcome, (ticket, outcome) ∈ collect Notes.replies journal →
        (∃ response, outcome = .ok response) ∨
          ∃ fault, outcome = .error fault ∧ fault.kind = .forbidden) := by
  intro connection journal history known
  have reached : Reached versions journal connection := reached_run versions events
  have same : known = connection.state := congrArg Status.state (published_run _ events)
  rw [same]
  refine ⟨?_, ?_, ?_⟩
  · rw [← reached.inTransaction_iff, ServerState.inTransaction]
    simp
  · intro event kind summary heard closes success alive
    obtain ⟨before, after⟩ := ready_of_closing heard closes success alive
    have later := (reached.step event).inTransaction_iff
    rw [collect_concat, after] at later
    refine ⟨(reached.inTransaction_iff.1 (by rw [before]; rfl)).2, after, ?_⟩
    intro opened
    cases later.2 ⟨by decide, opened⟩
  · intro alive
    cases phase : connection.phase with
    | connecting | negotiating =>
      have none := reached.replied.opening (by simp [phase])
      have given := (reached.attributed.opening (by simp [phase])).1
      have silent := (reached.tracked.opening (by simp [phase])).2.2.2
      simp [history, none, given, silent]
    | idle watching | serving ticket kind => exact reached.replied.running (by simp [phase])
    | closing | stopped => exact absurd (reached.tracked.closed (by simp [phase])).1 alive

/-- A transaction in which a PULL was forbidden and a RUN was answered SUCCESS. -/
theorem open_behind_forbidden :
    let success : Bytes := [0xB1, 0x70, 0xA0]
    let result : Bytes := [0xB1, 0x70, 0xA1, 0x83, 0x71, 0x69, 0x64, 0]
    let events := [.submit 0 (.hello { userAgent := "a/1" }), .submit 1 (.logon .anonymous),
      .submit 2 (.begin {}), .submit 3 (.pull (.all none)), .submit 4 (.run "R" [] {})] ++
      opening ++ answered success ++ answered success ++ answered success ++ [.take .whole] ++
      answered result
    let journal := (start [.current]).journal events
    (published (start [.current]).status ((start [.current]).run events).2).state = .txStreaming ∧
    (collect Notes.replies journal).length = 5 ∧ (collect Notes.heard journal).length = 4 ∧
    OpenTransaction (collect Notes.heard journal) := by
  intro success result events journal
  have streaming : (published (start [.current]).status
      ((start [.current]).run events).2).state = .txStreaming := by decide +kernel
  have replies : (collect Notes.replies journal).length = 5 := by decide +kernel
  have heard : (collect Notes.heard journal).length = 4 := by decide +kernel
  obtain ⟨opened, -⟩ := inTransaction_iff_open [.current] events
  exact ⟨streaming, replies, heard, (opened.1 (.inr streaming)).2⟩

end BoltClient.Connection
