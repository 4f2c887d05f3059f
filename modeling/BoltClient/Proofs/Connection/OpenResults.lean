import BoltClient.Proofs.Connection.Bracketing
import BoltClient.Proofs.Connection.Exchanges

/-!
Several results can be open in one transaction, while the client keeps one state for all of them.
That state follows the last answer alone: it lets records be taken as long as the last request
opened a result or left more of one. When the last request has taken all that was left of one
result, no records can be taken of any other until the next result is opened.
-/

namespace BoltClient

/-- How much of which result a request asks for. -/
def Request.demand? : Request → Option Demand
  | pull demand | discard demand => some demand
  | _ => none

theorem Request.exists_demand {request : Request} :
    (∃ demand, request.demand? = some demand) ↔
      request.kind = .pull ∨ request.kind = .discard := by
  cases request <;> simp [demand?, kind]

namespace Connection

/-- What was answered since the last BEGIN. -/
def transaction (journal : Journal) : List (Request × Summary) :=
  ((exchanges journal).reverse.takeWhile fun exchange => exchange.1.kind ≠ .begin).reverse

/-- What is known of a result: which one was opened last, and whether more can be taken of the one
that is asked about. -/
structure ResultState where
  latest : Option Int64 := none
  hasMore : Bool := false

/-- What an exchange tells of the result numbered `qid`. Records are taken of the result that the
request names, or else of the one that was opened last. -/
def ResultState.after (qid : Int64) (known : ResultState) : Request × Summary → ResultState
  | (.run .., summary) =>
    { latest := summary.qid, hasMore := known.hasMore || summary.qid = some qid }
  | (.pull demand, summary) | (.discard demand, summary) =>
    if demand.qid.or known.latest = some qid then { known with hasMore := summary.streaming }
    else known
  | _ => known

def resultState (qid : Int64) (exchanges : List (Request × Summary)) : ResultState :=
  exchanges.foldl (ResultState.after qid) {}

/-- That the last request has taken all that was left of another result. -/
def OtherExhausted (qid : Int64) (exchanges : List (Request × Summary)) : Prop :=
  ∃ front request summary demand, exchanges = front ++ [(request, summary)] ∧
    request.demand? = some demand ∧ demand.qid.or (resultState qid front).latest ≠ some qid ∧
    summary.streaming = false

@[simp] theorem resultState_concat (qid : Int64) (front : List (Request × Summary))
    (exchange : Request × Summary) :
    resultState qid (front ++ [exchange]) = (resultState qid front).after qid exchange := by
  rw [resultState, List.foldl_append]
  rfl

theorem otherExhausted_concat {qid : Int64} {front : List (Request × Summary)} {request : Request}
    {summary : Summary} : OtherExhausted qid (front ++ [(request, summary)]) ↔
      ∃ demand, request.demand? = some demand ∧
        demand.qid.or (resultState qid front).latest ≠ some qid ∧ summary.streaming = false := by
  constructor
  · rintro ⟨other, last, ending, demand, shape, takes⟩
    obtain ⟨rfl, same⟩ := List.append_inj' shape rfl
    cases List.singleton_inj.1 same
    exact ⟨demand, takes⟩
  · rintro ⟨demand, takes⟩
    exact ⟨front, request, summary, demand, rfl, takes⟩

/-- Who takes all that is left of something while a result keeps more has taken it of another. -/
theorem names_other {known : ResultState} {qid : Int64} {request : Request} {summary : Summary}
    {demand : Demand} (more : (known.after qid (request, summary)).hasMore = true)
    (takes : request.demand? = some demand) (all : summary.streaming = false) :
    demand.qid.or known.latest ≠ some qid := by
  intro same
  have left : (known.after qid (request, summary)).hasMore = summary.streaming := by
    cases request <;> cases takes <;> simp only [ResultState.after, if_pos same]
  rw [more, all] at left
  cases left

/-- An open transaction is what was answered since its BEGIN: successful queries. -/
theorem Reached.transaction_eq {versions : List Version} {journal : Journal}
    {connection : Connection} (reached : Reached versions journal connection)
    (opened : OpenTransaction (collect Notes.heard journal)) :
    ∃ before begun, exchanges journal = before ++ begun :: transaction journal ∧
      begun.1.kind = .begin ∧ begun.2.isSuccess = true ∧
      ∀ exchange ∈ transaction journal,
        exchange.1.kind.isQuery = true ∧ exchange.2.isSuccess = true := by
  obtain ⟨before, begun, after, shape, succeeded, queries⟩ := opened
  rw [← reached.exchanges_eq, List.map_eq_append_iff] at shape
  obtain ⟨first, rest, whole, -, shape⟩ := shape
  obtain ⟨opener, inside, rfl, rfl, rfl⟩ := List.map_eq_cons_iff.1 shape
  have inner : ∀ exchange ∈ inside,
      exchange.1.kind.isQuery = true ∧ exchange.2.isSuccess = true := fun exchange member =>
    queries _ (List.mem_map_of_mem member)
  have same : transaction journal = inside := by
    have past : ∀ exchange ∈ inside.reverse, decide (exchange.1.kind ≠ .begin) = true := by
      intro exchange member
      have query := (inner exchange (List.mem_reverse.1 member)).1
      apply decide_eq_true
      intro begins
      rw [begins] at query
      cases query
    have begins : opener.1.kind = .begin := succeeded.1
    rw [transaction, whole, List.reverse_append, List.reverse_cons, List.append_assoc,
      List.takeWhile_append_of_pos past, List.singleton_append, List.takeWhile_cons, begins]
    simp
  rw [same]
  exact ⟨first, opener, whole, succeeded.1, succeeded.2, inner⟩

theorem Conversed.last {history : History} {state : ServerState} {kind : Request.Kind}
    {summary : Summary} (conversed : Conversed (history ++ [(kind, summary)]) state) :
    ∃ before, Conversed history before ∧ kind.isAllowed before = true ∧
      kind.nextState before summary = some state := by
  generalize shape : history ++ [(kind, summary)] = whole at conversed
  cases conversed with
  | start => simp at shape
  | step before allowed leads =>
    obtain ⟨same, ends⟩ := List.append_inj' shape rfl
    cases List.singleton_inj.1 ends
    cases same
    exact ⟨_, before, allowed, leads⟩

/-- A connection is in a transaction only while it is in use. -/
theorem Reached.running_of_inTransaction {versions : List Version} {journal : Journal}
    {connection : Connection} (reached : Reached versions journal connection)
    (inside : connection.state.inTransaction = true) : connection.phase.isRunning = true := by
  have tracked := reached.tracked
  cases phase : connection.phase with
  | connecting | negotiating =>
    rw [(tracked.opening (by simp [phase])).1] at inside
    cases inside
  | idle watching | serving ticket kind => rfl
  | closing | stopped =>
    rw [(tracked.closed (by simp [phase])).1] at inside
    cases inside

/-- The state of a transaction in which a result is open tells whether another was exhausted. -/
theorem Reached.state_of_open {versions : List Version} {journal : Journal}
    {connection : Connection} (reached : Reached versions journal connection)
    (inside : connection.state.inTransaction = true) {qid : Int64}
    (more : (resultState qid (transaction journal)).hasMore = true) :
    OtherExhausted qid (transaction journal) ∧ connection.state = .txReady ∨
      ¬ OtherExhausted qid (transaction journal) ∧ connection.state = .txStreaming := by
  obtain ⟨-, opened⟩ := reached.inTransaction_iff.1 inside
  obtain ⟨before, begun, whole, -, -, queries⟩ := reached.transaction_eq opened
  have conversed := reached.conversed (reached.running_of_inTransaction inside)
  rw [← reached.exchanges_eq, whole] at conversed
  generalize transaction journal = answered at whole more queries conversed ⊢
  rcases List.eq_nil_or_concat answered with rfl | ⟨front, ⟨request, summary⟩, rfl⟩
  · cases more
  rw [List.concat_eq_append] at more queries conversed ⊢
  rw [resultState_concat] at more
  rw [← List.cons_append, ← List.append_assoc, List.map_append, List.map_singleton] at conversed
  obtain ⟨earlier, -, -, leads⟩ := conversed.last
  have query : request.kind.isQuery = true :=
    (queries (request, summary) (List.mem_append_right front (List.mem_singleton_self _))).1
  rw [otherExhausted_concat]
  rcases Request.Kind.inTransaction_leads leads inside with
    ⟨begins, -⟩ | ⟨runs, state⟩ | ⟨takes, state⟩
  · rw [show request.kind = .begin from begins] at query
    cases query
  · refine .inr ⟨?_, state⟩
    rintro ⟨demand, asks, -, -⟩
    rcases Request.exists_demand.1 ⟨demand, asks⟩ with same | same <;>
      cases same.symm.trans runs
  · cases left : summary.streaming with
    | true =>
      refine .inr ⟨by simp, ?_⟩
      rw [state, left]
      rfl
    | false =>
      obtain ⟨demand, asks⟩ := Request.exists_demand.2 takes
      refine .inl ⟨⟨demand, asks, names_other more asks left, rfl⟩, ?_⟩
      rw [state, left]
      rfl

/-- A request for records that has its turn is written in the one state of a transaction and
refused in the other. -/
theorem isAllowed_of_records {connection : Connection} {event : Event} {turn : Turn}
    (comes : turn ∈ (connection.notes event).turns)
    (takes : turn.request.kind = .pull ∨ turn.request.kind = .discard) :
    (connection.state = .txStreaming → turn.isAllowed = true) ∧
      (connection.state = .txReady → turn.isAllowed = false) := by
  rw [Turn.isAllowed, (running_of_turn comes).2.2]
  constructor <;> intro state <;> rw [state] <;> rcases takes with same | same <;> rw [same] <;> rfl

/-- In every run, and inside an explicit transaction that has neither ended nor failed, take a
result that was opened and whose last PULL or DISCARD, if any, reported that there is more. Unless
the last request that was answered has taken all that was left of another result, the transaction
is streaming, and a PULL or DISCARD that has its turn is written and not refused as forbidden,
whatever was asked of the other results before. If it has, the transaction is at rest, and a PULL
or DISCARD that has its turn is forbidden. The transaction is what was answered since its BEGIN,
successful queries all of them, and its exchanges are those of the history. -/
theorem consumable_unless_other_exhausted {versions : List Version} {events : List Event}
    {qid : Int64} (inside : ((start versions).run events).1.state.inTransaction = true)
    (more : (resultState qid (transaction ((start versions).journal events))).hasMore = true) :
    let connection := ((start versions).run events).1
    let journal := (start versions).journal events
    (exchanges journal).map (fun exchange => (exchange.1.kind, exchange.2)) =
      collect Notes.heard journal ∧
    (∃ before begun, exchanges journal = before ++ begun :: transaction journal ∧
      begun.1.kind = .begin ∧ begun.2.isSuccess = true ∧
      ∀ exchange ∈ transaction journal,
        exchange.1.kind.isQuery = true ∧ exchange.2.isSuccess = true) ∧
    (¬ OtherExhausted qid (transaction journal) → connection.state = .txStreaming ∧
      ∀ event turn, turn ∈ (connection.notes event).turns →
        turn.request.kind = .pull ∨ turn.request.kind = .discard →
          bytesOf (connection.step event).2 = turn.bytes ∧
          ∀ ticket fault, (ticket, .error fault) ∈ answersOf (connection.step event).2 →
            fault.kind ≠ .forbidden) ∧
    (OtherExhausted qid (transaction journal) → connection.state = .txReady ∧
      ∀ event turn, turn ∈ (connection.notes event).turns →
        turn.request.kind = .pull ∨ turn.request.kind = .discard →
          answersOf (connection.step event).2 =
            [(turn.request.ticket, .error (.forbidden turn.request.kind.name .txReady))]) := by
  intro connection journal
  have reached : Reached versions journal connection := reached_run versions events
  have state := reached.state_of_open inside more
  refine ⟨reached.exchanges_eq, reached.transaction_eq (reached.inTransaction_iff.1 inside).2,
    ?_, ?_⟩
  · intro unspent
    have streaming := (state.resolve_left fun other => unspent other.1).2
    refine ⟨streaming, ?_⟩
    intro event turn comes takes
    exact written_of_turn comes ((isAllowed_of_records comes takes).1 streaming)
  · intro exhausted
    have ready := (state.resolve_right fun other => other.1 exhausted).2
    refine ⟨ready, ?_⟩
    intro event turn comes takes
    rw [← ready]
    exact refused_of_turn comes ((isAllowed_of_records comes takes).2 ready)

/-! Two results in one transaction: records are taken of the second one, and then asked for of the
first, of which none were taken. -/

/-- The events up to the turn of the last request, when the server says whether more is left of the
second result. -/
def twoResults (more : Bool) : List Event :=
  let success : Bytes := [0xB1, 0x70, 0xA0]
  let result (qid : UInt8) : Bytes := [0xB1, 0x70, 0xA1, 0x83, 0x71, 0x69, 0x64, qid]
  let pulled : Bytes := [0xB1, 0x70, 0xA1, 0x88, 0x68, 0x61, 0x73, 0x5F, 0x6D, 0x6F, 0x72, 0x65,
    if more then 0xC3 else 0xC2]
  [.submit 0 (.hello { userAgent := "a/1" }), .submit 1 (.logon .anonymous), .submit 2 (.begin {}),
    .submit 3 (.run "A" [] {}), .submit 4 (.run "B" [] {}), .submit 5 (.pull ⟨1, some 1⟩),
    .submit 6 (.pull ⟨1, some 0⟩)] ++
  opening ++ answered success ++ answered success ++ answered success ++ answered (result 0) ++
  answered (result 1) ++ answered pulled

/-- While more is left of the second result, the first can be consumed. -/
theorem pull_behind_unfinished :
    let connection := ((start [.current]).run (twoResults true)).1
    let journal := (start [.current]).journal (twoResults true)
    connection.state.inTransaction = true ∧ (resultState 0 (transaction journal)).hasMore = true ∧
    ∃ turn ∈ (connection.notes (.take .whole)).turns, turn.request.ticket = 6 ∧
      bytesOf (connection.step (.take .whole)).2 = turn.bytes := by
  intro connection journal
  have inside : connection.state.inTransaction = true := by decide +kernel
  have streaming : connection.state = .txStreaming := by decide +kernel
  have more : (resultState 0 (transaction journal)).hasMore = true := by decide +kernel
  have comes : (connection.notes (.take .whole)).turns.map (fun turn =>
      (turn.request.ticket, turn.request.kind)) = [(6, .pull)] := by decide +kernel
  obtain ⟨turn, member, same⟩ := exists_turn comes
  obtain ⟨ticket, kind⟩ := Prod.mk.inj same
  obtain ⟨-, -, unspent, exhausted⟩ := consumable_unless_other_exhausted inside more
  have free : ¬ OtherExhausted 0 (transaction journal) := by
    intro other
    cases streaming.symm.trans (exhausted other).1
  exact ⟨inside, more, turn, member, ticket, ((unspent free).2 _ turn member (.inl kind)).1⟩

/-- When the second result has been taken to its end, the first cannot be consumed, though it was
opened in the same transaction and no records of it were taken. -/
theorem pull_forbidden_behind_finished :
    let connection := ((start [.current]).run (twoResults false)).1
    let journal := (start [.current]).journal (twoResults false)
    connection.state.inTransaction = true ∧ (resultState 0 (transaction journal)).hasMore = true ∧
    (transaction journal).map (fun exchange => (exchange.1.kind, exchange.2.qid)) =
      [(.run, some 0), (.run, some 1), (.pull, none)] ∧
    answersOf (connection.step (.take .whole)).2 =
      [(6, .error (.forbidden "PULL" .txReady))] := by
  intro connection journal
  have comes : (connection.notes (.take .whole)).turns.map (fun turn =>
      (turn.request.ticket, turn.request.kind, turn.isAllowed)) = [(6, .pull, false)] := by
    decide +kernel
  have ready : connection.state = .txReady := by decide +kernel
  obtain ⟨turn, member, same⟩ := exists_turn comes
  simp only [Prod.mk.injEq] at same
  obtain ⟨ticket, kind, barred⟩ := same
  have refused := refused_of_turn member barred
  rw [ticket, kind, ready] at refused
  exact ⟨by decide +kernel, by decide +kernel, by decide +kernel, refused⟩

end Connection
end BoltClient
