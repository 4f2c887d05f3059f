import BoltClient.Proofs.Session.Conversation
import BoltClient.Proofs.Session.Programs

/-!
How a transaction ends. Whatever the body does and whatever the server answers, once a
transaction that has begun is over the connection is in no transaction, with one
exception: a body that leaves a result open leaves the connection in a state in which
neither a commit nor a rollback may be sent, and the transaction stays open with it.
-/

namespace BoltClient

open Connection

namespace Session

variable {α : Type}

/-- The body of a transaction: calls on the session, each with a view to what the ones before
it gave, and an end of its own. -/
inductive Body (α : Type) where
  | finish (result : Except Fault α)
  | call (made : Call) (next : Call.Result → Body α)

def Body.program (settings : SessionSettings) : Body α → Attempt α
  | finish result => ExceptT.mk (pure result)
  | call made next =>
    ExceptT.mk (made.program settings >>= fun result => ((next result).program settings).run)

theorem sequential_body (settings : SessionSettings) (body : Body α) (start : ServerState) :
    Sequential (body.program settings).run start := by
  induction body generalizing start with
  | finish result => exact sequential_pure result
  | call made next ih =>
    exact (sequential_program settings made start).bind fun result state => ih result state

theorem Drifts.eq_of_inTransaction {first second : ServerState} (drifts : Drifts first second)
    (inside : second.inTransaction = true) : first = second := by
  cases drifts with
  | stays => rfl
  | lost | agreed => cases inside

section Ending

variable {exchange : Exchange}

/-- A request that ends a transaction. -/
def EndsTransaction (request : Request) : Prop := request = .commit ∨ request = .rollback

theorem EndsTransaction.packs {request : Request} (ends : EndsTransaction request) :
    ∃ payload, request.encode = .ok payload := by
  rcases ends with rfl | rfl
  · exact ⟨_, rfl⟩
  · exact ⟨_, rfl⟩

/-- Behind a request that ends a transaction the connection is in one only if the request
was refused, since a result was open. -/
theorem Exchange.Fair.ends_transaction (fair : exchange.Fair)
    (ends : EndsTransaction exchange.request)
    (inside : exchange.reply.state.inTransaction = true) :
    exchange.state = .txStreaming ∧ exchange.reply =
      ⟨.error (.forbidden exchange.request.kind.name .txStreaming), .txStreaming⟩ := by
  obtain ⟨state, request, seen, outcome, final⟩ := exchange
  obtain ⟨before, after, first, answers, later⟩ := fair
  obtain rfl : after = final := later.eq_of_inTransaction inside
  change Answers before request (log seen) outcome after at answers
  generalize log seen = turns at answers
  cases answers with
  | unpacked reason broken =>
    obtain ⟨payload, packed⟩ := ends.packs
    cases broken.symm.trans packed
  | forbidden barred =>
    obtain rfl : state = before := first.eq_of_inTransaction inside
    have streaming : state = .txStreaming := by
      cases state with
      | txStreaming => rfl
      | txReady => rcases ends with rfl | rfl <;> cases barred
      | _ => cases inside
    rw [streaming]
    exact ⟨rfl, rfl⟩
  | responded turn response next written leads =>
    have outside : after.inTransaction = false := by
      rcases ends with rfl | rfl <;> exact Request.Kind.whenClosing_outside leads
    exact absurd inside (by simp [outside])
  | lost => cases inside

/-- In the state in which a result is open a transaction cannot be ended. -/
theorem Exchange.Fair.stays_streaming (fair : exchange.Fair)
    (ends : EndsTransaction exchange.request) (streaming : exchange.state = .txStreaming) :
    exchange.reply.state = .txStreaming ∨ exchange.reply.state = .defunct := by
  obtain ⟨after, answers, later⟩ := fair.answers (by simp [streaming])
  rw [streaming] at answers
  generalize exchange.turns = turns at answers
  generalize exchange.reply.outcome = outcome at answers
  cases answers with
  | unpacked reason broken =>
    obtain ⟨payload, packed⟩ := ends.packs
    cases broken.symm.trans packed
  | forbidden => exact later.eq_or_defunct (by decide)
  | responded turn response next written leads =>
    have barred : exchange.request.kind.isAllowed .txStreaming = false := by
      rcases ends with same | same <;> rw [same] <;> rfl
    exact absurd written.allowed (by simp [barred])
  | lost => exact .inr later.of_defunct

end Ending

/-- That the first request for a transaction was successful. -/
def began (exchanges : List Exchange) : Bool :=
  (exchanges.find? (·.request.kind = .begin)).any Exchange.succeeded

/-- That the last request was to end the transaction and was refused, since a result was open. -/
def EndRefused (exchanges : List Exchange) : Prop :=
  ∃ front last, exchanges = front ++ [last] ∧ EndsTransaction last.request ∧
    last.state = .txStreaming ∧
    last.reply = ⟨.error (.forbidden last.request.kind.name .txStreaming), .txStreaming⟩

/-- That a transaction is over, unless its end was refused. -/
def Ended (exchanges : List Exchange) (state : ServerState) : Prop :=
  state.inTransaction = true → state = .txStreaming ∧ EndRefused exchanges

section Yields

variable {start : ServerState}

theorem Exchange.Fair.ended {exchange : Exchange} (fair : exchange.Fair)
    (ends : EndsTransaction exchange.request) : Ended [exchange] exchange.reply.state := by
  intro inside
  obtain ⟨streaming, refused⟩ := fair.ends_transaction ends inside
  exact ⟨congrArg Reply.state refused, [], exchange, rfl, ends, streaming, refused⟩

theorem Ended.append {exchanges : List Exchange} {state : ServerState}
    (ended : Ended exchanges state) (before : List Exchange) :
    Ended (before ++ exchanges) state := by
  intro inside
  obtain ⟨streaming, front, last, rfl, refused⟩ := ended inside
  exact ⟨streaming, before ++ front, last, (List.append_assoc ..).symm, refused⟩

/-- That one request is sent, in the state in which a transaction was left, to end it. -/
structure Closes (start : ServerState) (request : Request) (exchanges : List Exchange)
    (last : Exchange) : Prop where
  parts : exchanges = [last]
  fair : last.Fair
  state : last.state = start
  request : last.request = request

theorem Closes.ended {request : Request} {exchanges : List Exchange} {last : Exchange}
    (closes : Closes start request exchanges last) (ends : EndsTransaction request) :
    Ended exchanges last.reply.state :=
  closes.parts ▸ closes.fair.ended (closes.request.symm ▸ ends)

/-- Behind a body that gave a value the transaction is committed, and the value is given if the
commit succeeds. -/
theorem commit_yields (value : α) :
    Yields (closing (.ok value)) start
      (fun exchanges => exchanges = [] ∨ ∃ last, Closes start .commit exchanges last)
      fun exchanges result state => ∃ last, Closes start .commit exchanges last ∧
        state = last.reply.state ∧ result.isOk = last.succeeded ∧
        ∀ other, result = .ok other → other = value := by
  have commit : Yields (metadata .commit).run start
      (fun exchanges => exchanges = [] ∨ ∃ last, Closes start .commit exchanges last)
      fun exchanges outcome state => ∃ last, Closes start .commit exchanges last ∧
        state = last.reply.state ∧ outcome.isOk = last.succeeded := by
    refine .metadata (.inl rfl) fun exchange fair same request => ?_
    have closes : Closes start .commit [exchange] exchange := ⟨rfl, fair, same, request⟩
    refine ⟨.inr ⟨exchange, closes⟩, exchange, closes, rfl, ?_⟩
    rw [Exchange.succeeded]
    cases exchange.reply.outcome.bind Response.metadata <;> rfl
  refine commit.bind (sequential_metadata _) fun exchanges outcome state sent => ?_
  obtain ⟨last, closes, final, succeeded⟩ := sent
  rw [← List.append_nil exchanges] at closes
  cases outcome with
  | ok metadata =>
    exact .pure (.inr ⟨last, closes⟩) ⟨last, closes, final, succeeded, fun _ same => by cases same; rfl⟩
  | error fault =>
    exact .pure (.inr ⟨last, closes⟩) ⟨last, closes, final, succeeded, fun _ same => by cases same⟩

/-- Behind a body that failed the transaction is rolled back, if the connection is still in it,
and the failure of the body is given. -/
theorem rollback_yields (fault : Fault) :
    Yields (closing (.error fault : Except Fault α)) start
      (fun exchanges => exchanges = [] ∨
        start.inTransaction = true ∧ ∃ last, Closes start .rollback exchanges last)
      fun exchanges result state => result = .error fault ∧
        (exchanges = [] ∧ start.inTransaction = false ∧ state = start ∨
          ∃ last, Closes start .rollback exchanges last ∧ state = last.reply.state) := by
  have looks : Yields current start
      (fun exchanges => exchanges = [] ∨
        start.inTransaction = true ∧ ∃ last, Closes start .rollback exchanges last)
      fun exchanges now state => exchanges = [] ∧ now = start ∧ state = start :=
    .current (.inl rfl) ⟨rfl, rfl, rfl⟩
  refine looks.bind sequential_current fun exchanges now state same => ?_
  obtain ⟨rfl, rfl, rfl⟩ := same
  cases inside : state.inTransaction with
  | true =>
    have rollback : Yields (discard (metadata .rollback).run) state
        (fun exchanges => exchanges = [] ∨
          true = true ∧ ∃ last, Closes state .rollback exchanges last)
        fun exchanges _ final => ∃ last, Closes state .rollback exchanges last ∧
          final = last.reply.state := by
      refine Yields.map (.metadata (.inl rfl) fun exchange fair same request => ?_)
        (sequential_metadata _)
      have closes : Closes state .rollback [exchange] exchange := ⟨rfl, fair, same, request⟩
      exact ⟨.inr ⟨rfl, exchange, closes⟩, exchange, closes, rfl⟩
    refine rollback.bind ((sequential_metadata _).map _) fun exchanges _ final sent => ?_
    obtain ⟨last, closes, ends⟩ := sent
    rw [← List.append_nil exchanges] at closes
    exact .pure (.inr ⟨rfl, last, closes⟩) ⟨rfl, .inr ⟨last, closes, ends⟩⟩
  | false => exact .pure (.inl rfl) ⟨rfl, .inl ⟨rfl, rfl, rfl⟩⟩

theorem closing_yields (result : Except Fault α) :
    Yields (closing result) start (fun _ => True) fun exchanges _ state =>
      Ended exchanges state := by
  cases result with
  | ok value =>
    refine (commit_yields value).mono (fun _ _ => trivial) fun exchanges _ state _ sent => ?_
    obtain ⟨last, closes, rfl, -⟩ := sent
    exact closes.ended (.inl rfl)
  | error fault =>
    refine (rollback_yields fault).mono (fun _ _ => trivial) fun exchanges _ state _ sent => ?_
    obtain ⟨-, ⟨-, outside, rfl⟩ | ⟨last, closes, rfl⟩⟩ := sent
    · exact fun inside => absurd inside (by simp [outside])
    · exact closes.ended (.inr rfl)

theorem closing_sends (result : Except Fault α) : Sends [.commit, .rollback] (closing result) := by
  have one {start : ServerState} {request : Request} {exchanges : List Exchange} {last : Exchange}
      (closes : Closes start request exchanges last)
      (among : request.kind ∈ ([.commit, .rollback] : List Request.Kind)) :
      Only [.commit, .rollback] exchanges :=
    closes.parts ▸ .one (closes.request.symm ▸ among)
  intro start
  cases result with
  | ok value =>
    have only (exchanges : List Exchange)
        (sent : exchanges = [] ∨ ∃ last, Closes start .commit exchanges last) :
        Only [.commit, .rollback] exchanges := by
      rcases sent with rfl | ⟨last, closes⟩
      · exact .nil _
      · exact one closes (by simp [Request.kind])
    exact (commit_yields value).mono only fun exchanges _ _ sent _ => only exchanges sent
  | error fault =>
    have only (exchanges : List Exchange) (sent : exchanges = [] ∨
        start.inTransaction = true ∧ ∃ last, Closes start .rollback exchanges last) :
        Only [.commit, .rollback] exchanges := by
      rcases sent with rfl | ⟨-, last, closes⟩
      · exact .nil _
      · exact one closes (by simp [Request.kind])
    exact (rollback_yields fault).mono only fun exchanges _ _ sent _ => only exchanges sent

theorem not_began {exchanges : List Exchange} {kinds : List Request.Kind}
    (only : Only kinds exchanges) (without : .begin ∉ kinds) :
    exchanges.find? (·.request.kind = .begin) = none :=
  List.find?_eq_none.2 fun exchange member same =>
    without (of_decide_eq_true same ▸ only exchange member)

/-- That requests are those that open a transaction, the last of them the one for it to begin. -/
def Opens (options : TransactionOptions) (exchanges : List Exchange) (opener : Exchange) : Prop :=
  ∃ front, exchanges = front ++ [opener] ∧ Only [.hello, .logon, .reset] front ∧
    opener.request = .begin options

theorem Opens.began_eq {options : TransactionOptions} {exchanges : List Exchange}
    {opener : Exchange} (opens : Opens options exchanges opener) :
    began exchanges = opener.succeeded := by
  obtain ⟨front, rfl, sent, request⟩ := opens
  have kind : opener.request.kind = .begin := by rw [request]; rfl
  rw [began, List.find?_append, not_began sent (by simp)]
  simp [kind]

/-- The connection is made ready, and the transaction begins with the request for it. -/
theorem opening_yields (settings : SessionSettings) (options : TransactionOptions) :
    Yields (opening settings options).run start
      (fun exchanges => Only [.hello, .logon, .reset] exchanges ∨
        ∃ opener, Opens options exchanges opener)
      fun exchanges result state =>
        (Only [.hello, .logon, .reset] exchanges ∧ result.isOk = false) ∨
          ∃ opener, Opens options exchanges opener ∧ result.isOk = opener.succeeded ∧
            state = opener.reply.state := by
  refine Yields.attempt (sequential_prepare settings) ((prepare_sends settings start).mono
    (fun _ sent => .inl sent) fun _ _ _ _ sent => sent) ?_ ?_
  · exact fun exchanges fault state sent => ⟨.inl sent, .inl ⟨sent, rfl⟩⟩
  · intro exchanges _ state sent
    refine .discard (.metadata (.inl (by rwa [List.append_nil])) fun exchange _ _ request => ?_)
      (sequential_metadata _)
    have opens : Opens options (exchanges ++ [exchange]) exchange := ⟨exchanges, rfl, sent, request⟩
    refine ⟨.inr ⟨exchange, opens⟩, .inr ⟨exchange, opens, ?_, rfl⟩⟩
    rw [Exchange.succeeded]
    cases exchange.reply.outcome.bind Response.metadata <;> rfl

/-- That a transaction has begun, with a request that succeeded, and what its body has said
since; and the value and the state in the end, when the body has come to its end. -/
structure Begun (options : TransactionOptions) (body : Attempt α) (said : List Exchange)
    (opener : Exchange) (middle : List Exchange)
    (ended : Option (Except Fault α × ServerState)) : Prop where
  parts : ∃ front, said = front ++ opener :: middle ∧ Only [.hello, .logon, .reset] front
  request : opener.request = .begin options
  succeeded : opener.succeeded = true
  bodily : Dialogue body.run opener.reply.state middle ended

/-- What is said for a transaction: what opens it, its body, and what ends it. -/
theorem Dialogue.transaction_course {settings : SessionSettings} {options : TransactionOptions}
    {body : Attempt α} {exchanges : List Exchange} {result : Option (Except Fault α × ServerState)}
    (sequential : ∀ state, Sequential body.run state)
    (dialogue : Dialogue (withinTransaction settings options body).run start exchanges result)
    (fair : ∀ exchange ∈ exchanges, exchange.Fair) :
    (Only [.hello, .logon, .reset, .begin] exchanges ∧
      ∀ value state, result = some (value, state) → value.isOk = false) ∨
    (∃ opener middle, Begun options body exchanges opener middle none ∧ result = none) ∨
    ∃ said opener middle value state back, exchanges = said ++ back ∧
      Begun options body said opener middle (some (value, state)) ∧
      Dialogue (closing value) state back result := by
  have wider {exchanges : List Exchange} (sent : Only [.hello, .logon, .reset] exchanges) :
      Only [.hello, .logon, .reset, .begin] exchanges :=
    fun exchange member =>
      List.mem_append_left ([.begin] : List Request.Kind) (sent exchange member)
  have opening {exchanges : List Exchange} {opener : Exchange}
      (opens : Opens options exchanges opener) :
      Only [.hello, .logon, .reset, .begin] exchanges := by
    obtain ⟨front, rfl, sent, request⟩ := opens
    exact (wider sent).append (.one (by simp [request, Request.kind]))
  rw [withinTransaction_run] at dialogue
  rcases dialogue.bind (sequential_opening settings options) with
    ⟨opens, rfl⟩ | ⟨first, second, opened, state, rfl, opens, goesOn⟩
  · refine .inl ⟨?_, fun _ _ same => by cases same⟩
    rcases (opening_yields settings options exchanges none opens fair).1 with sent | ⟨opener, opens⟩
    · exact wider sent
    · exact opening opens
  · have parts := (opening_yields settings options first _ opens fun exchange member =>
      fair exchange (List.mem_append_left second member)).2 opened state rfl
    cases opened with
    | error fault =>
      have failed : ∀ value final, result = some (value, final) → value.isOk = false := by
        rintro value final rfl
        cases goesOn with
        | finish ends => cases ends []; rfl
        | ask _ asks => cases asks
      obtain rfl := goesOn.of_pure
      rw [List.append_nil]
      rcases parts with ⟨sent, -⟩ | ⟨opener, opens, -⟩
      · exact .inl ⟨wider sent, failed⟩
      · exact .inl ⟨opening opens, failed⟩
    | ok _ =>
      rcases parts with ⟨-, failed⟩ | ⟨opener, ⟨front, rfl, sent, request⟩, succeeded, rfl⟩
      · cases failed
      · right
        rcases goesOn.bind (sequential _) with
          ⟨bodily, rfl⟩ | ⟨middle, back, value, state, rfl, bodily, closes⟩
        · exact .inl ⟨opener, second, ⟨⟨front, by simp, sent⟩, request, succeeded.symm, bodily⟩, rfl⟩
        · refine .inr ⟨front ++ opener :: middle, opener, middle, value, state, back, by simp, ?_,
            closes⟩
          exact ⟨⟨front, rfl, sent⟩, request, succeeded.symm, bodily⟩

theorem withinTransaction_yields (settings : SessionSettings) (options : TransactionOptions)
    {body : Attempt α} (sequential : ∀ state, Sequential body.run state) :
    Yields (withinTransaction settings options body).run start (fun _ => True)
      fun exchanges _ state => began exchanges = true → Ended exchanges state := by
  rw [withinTransaction_run]
  refine Yields.bind (sequential_opening settings options) ((opening_yields settings options).mono
    (fun _ _ => trivial) fun _ _ _ _ parts => parts) fun front opened state parts => ?_
  cases opened with
  | error fault =>
    refine .pure trivial fun begun => ?_
    rw [List.append_nil] at begun
    rcases parts with ⟨sent, -⟩ | ⟨opener, opens, result, -⟩
    · rw [began, not_began sent (by simp)] at begun
      cases begun
    · cases result.trans (opens.began_eq.symm.trans begun)
  | ok _ =>
    have anything : Yields body.run state (fun _ => True) fun _ _ _ => True :=
      fun _ _ _ _ => ⟨trivial, fun _ _ _ => trivial⟩
    refine anything.bind (sequential state) fun middle result state _ => ?_
    exact (closing_yields result).mono (fun _ _ => trivial)
      fun exchanges _ _ _ ended _ => (ended.append middle).append front

end Yields

/-- Once a transaction that has begun is over, the published state is in none, unless the body
left a result open; then neither a commit nor a rollback is accepted, and the connection
stays where the body left it or is lost. -/
theorem over_unless_streaming (settings : SessionSettings) (options : TransactionOptions)
    (body : Body α) {versions : List Version} {journal : Journal} {connection : Connection}
    (reached : Reached versions journal connection) (quiet : Quiet connection)
    (moves : List Move) :
    let session := (withinTransaction settings options (body.program settings)).run
    let talk := hold session connection moves
    ∀ result, talk.result session = some result → began talk.exchanges = true →
      Ended talk.exchanges talk.connection.state ∧
      ∀ front last, talk.exchanges = front ++ [last] → EndsTransaction last.request →
        last.state = .txStreaming →
          talk.connection.state = .txStreaming ∨ talk.connection.state = .defunct := by
  intro session talk result done begun
  have sound : Sound session talk := hold_sound session reached quiet moves
  have sequential : Sequential session talk.start :=
    sequential_withinTransaction settings options fun state => sequential_body settings body state
  have spoke : talk.exchanges ≠ [] := by
    intro none
    rw [none] at begun
    cases begun
  obtain ⟨dialogue, drifts⟩ := sound.ended sequential done spoke
  have ended : Ended talk.exchanges talk.state :=
    (withinTransaction_yields settings options (fun state => sequential_body settings body state)
      talk.exchanges _ dialogue sound.fair).2 result talk.state rfl begun
  constructor
  · intro inside
    have same : talk.state = talk.connection.state := drifts.eq_of_inTransaction inside
    rw [← same] at inside ⊢
    exact ended inside
  · intro front last exchanges ends streaming
    have fair : last.Fair := sound.fair last (by simp [exchanges])
    have final : talk.state = last.reply.state := by
      rw [Conversation.state, exchanges, endState_concat]
    rw [final] at drifts
    rcases fair.stays_streaming ends streaming with stays | lost
    · rw [stays] at drifts
      exact drifts.eq_or_defunct (by decide)
    · rw [lost] at drifts
      exact .inr drifts.of_defunct

/-- A transaction that runs a query and takes its only record is committed. -/
theorem committed_over :
    let settings : SessionSettings := { client := { userAgent := "a/1" } }
    let success : Bytes := [0, 3, 0xB1, 0x70, 0xA0, 0, 0]
    let named : Bytes := [0, 8, 0xB1, 0x70, 0xA1, 0x83, 0x71, 0x69, 0x64, 0, 0, 0]
    let record : Bytes := [0, 4, 0xB1, 0x71, 0x91, 1, 0, 0]
    let body : Body Nat := .call (.fetchAll { text := "R" }) fun
      | .fetched result => .finish (.ok result.records.length)
      | _ => .finish (.ok 0)
    let session := (withinTransaction settings {} (body.program settings)).run
    let talk := hold session (.start [.current])
      (Move.opens ++ [success, success, success, named].flatMap Move.answered ++
        [.goOn, .happen (.take .whole), .happen (.receive (record ++ success)), .happen .poll,
          .happen .poll, .goOn] ++ Move.answered success)
    began talk.exchanges = true ∧ (talk.result session).bind Except.toOption = some 1 ∧
      talk.exchanges.map (·.request.kind) = [.hello, .logon, .begin, .run, .pull, .commit] ∧
      Ended talk.exchanges talk.connection.state := by
  intro settings success named record body session talk
  have begun : began talk.exchanges = true := by decide +kernel
  have committed : (talk.result session).bind Except.toOption = some 1 := by decide +kernel
  have asked : talk.exchanges.map (·.request.kind) =
      [.hello, .logon, .begin, .run, .pull, .commit] := by decide +kernel
  obtain ⟨result, done, -⟩ := Option.bind_eq_some_iff.1 committed
  exact ⟨begun, committed, asked,
    (over_unless_streaming settings {} body .start ⟨rfl, rfl⟩ _ result done begun).1⟩

/-- A body that fails with records left to pull leaves the transaction open. -/
theorem open_behind_failed_body :
    let settings : SessionSettings := { client := { userAgent := "a/1" } }
    let success : Bytes := [0, 3, 0xB1, 0x70, 0xA0, 0, 0]
    let named : Bytes := [0, 8, 0xB1, 0x70, 0xA1, 0x83, 0x71, 0x69, 0x64, 0, 0, 0]
    let more : Bytes := [0, 13, 0xB1, 0x70, 0xA1, 0x88, 0x68, 0x61, 0x73, 0x5F, 0x6D, 0x6F, 0x72,
      0x65, 0xC3, 0, 0]
    let body : Body Unit := .call (.request (.run "R" [] {})) fun _ =>
      .call (.request (.pull ⟨1, none⟩)) fun _ => .finish (.error (.settings (.reported "stop")))
    let session := (withinTransaction settings {} (body.program settings)).run
    let talk := hold session (.start [.current])
      (Move.opens ++ [success, success, success, named, more].flatMap Move.answered ++ Move.refused)
    began talk.exchanges = true ∧ (talk.result session).map Except.isOk = some false ∧
      talk.connection.state = .txStreaming := by
  decide +kernel

end Session
end BoltClient
