import Mathlib.Data.List.TakeWhile
import BoltClient.Proofs.Session.Queries
import BoltClient.Proofs.Session.Transaction

/-!
Where the statements of a transaction run. Until a call of its body has failed they run
inside the transaction. A body that goes on behind a failure has the server reset, which
ends the transaction, and what it runs from then on is committed on its own.
-/

namespace BoltClient

open Connection

namespace Request.Kind

variable {kind : Kind} {state next : ServerState} {summary : Summary}

/-- Requests for a query and its records lead out of a transaction only with a failure. -/
theorem queryKinds_inside (among : kind ∈ Session.queryKinds) (kept : kind ≠ .reset)
    (allowed : kind.isAllowed state = true) (inside : state.inTransaction = true)
    (leads : kind.nextState state summary = some next) :
    next.inTransaction = true ∨ summary.isSuccess = false ∧ next = .failed := by
  rcases Session.mem_queryKinds.1 among with rfl | rfl | rfl | rfl | rfl | rfl
  · cases state <;> cases inside <;> cases allowed
  · cases state <;> cases inside <;> cases allowed
  · exact absurd rfl kept
  · exact whenRunning_inside inside leads
  · exact whileStreaming_inside inside leads
  · exact whileStreaming_inside inside leads

/-- Requests for records are all that is left behind a failure. -/
theorem queryKinds_failed (among : kind ∈ Session.queryKinds) (kept : kind ≠ .reset)
    (unrun : kind ≠ .run) (allowed : kind.isAllowed .failed = true)
    (leads : kind.nextState .failed summary = some next) : next = .failed := by
  rcases Session.mem_queryKinds.1 among with rfl | rfl | rfl | rfl | rfl | rfl
  · cases allowed
  · cases allowed
  · exact absurd rfl kept
  · exact absurd rfl unrun
  · exact whileStreaming_failed leads
  · exact whileStreaming_failed leads

end Request.Kind

theorem Response.metadata_isOk (response : Response) :
    response.metadata.isOk = response.summary.isSuccess := by
  obtain ⟨records, summary⟩ := response
  cases summary <;> rfl

namespace Session

variable {α : Type}

/-- A body that does nothing but run queries. -/
def Body.RunsQueries : Body α → Prop
  | finish _ => True
  | call made next => made.RunsQuery ∧ ∀ result, (next result).RunsQueries

/-- A body that ends with a failure as soon as a call has failed. -/
def Body.Stops : Body α → Prop
  | finish _ => True
  | call _ next => (∀ fault, ∃ other, next (.failed fault) = .finish (.error other)) ∧
      ∀ result, (next result).Stops

/-- The requests of a body are orderly, and a body that stops sends nothing behind a failure. -/
theorem body_yields (settings : SessionSettings) {body : Body α} (runs : body.RunsQueries)
    (start : ServerState) :
    Yields (body.program settings).run start
      (fun exchanges => (∀ exchange ∈ exchanges, Orderly exchange) ∧
        (body.Stops → Straight exchanges))
      fun _ _ _ => True := by
  -- A body that stops ends behind a call that has failed, so nothing is left to send there;
  -- behind any other call nothing has failed.
  induction body generalizing start with
  | finish result => exact .pure ⟨Straight.nil.orderly, fun _ => .nil⟩ trivial
  | call made next ih =>
    have kept : Yields (made.program settings) start Straight fun exchanges result _ =>
        Straight exchanges ∧ ((∀ fault, result ≠ .failed fault) → Smooth exchanges) :=
      (program_straight settings runs.1).mono (fun _ straight => straight)
        fun _ _ _ straight smooth => ⟨straight, smooth⟩
    have first := kept.mono
      (fun _ straight => And.intro straight.orderly fun _ : (Body.call made next).Stops => straight)
      fun _ _ _ _ both => both
    refine first.bind (sequential_program settings made start)
      fun exchanges result state ⟨straight, smooth⟩ more ended dialogue fair => ?_
    obtain ⟨orderly, straightly⟩ := (ih result (runs.2 result) state more ended dialogue fair).1
    refine ⟨⟨List.forall_mem_append.2 ⟨straight.orderly, orderly⟩, fun stops => ?_⟩,
      fun _ _ _ => trivial⟩
    by_cases failed : ∃ fault, result = .failed fault
    · obtain ⟨fault, rfl⟩ := failed
      obtain ⟨other, ends⟩ := stops.1 fault
      rw [ends] at dialogue
      obtain rfl := dialogue.of_pure
      rwa [List.append_nil]
    · exact straight.append (smooth fun fault same => failed ⟨fault, same⟩)
        (straightly (stops.2 result))

/-- Inside a transaction, or lost: what is asked for is done in the transaction or not at all. -/
def Held (state : ServerState) : Prop := state.inTransaction = true ∨ state = .defunct

theorem Held.of_drifts {first second : ServerState} (held : Held first)
    (drifts : Drifts first second) : Held second := by
  cases drifts with
  | stays => exact held
  | lost => exact .inr rfl
  | agreed => rcases held with inside | lost <;> contradiction

/-- That statements up to the first reset were run in a transaction. -/
def Sheltered (turns : List Turn) : Prop :=
  ∀ turn ∈ turns.takeWhile (·.request.kind ≠ .reset),
    turn.request.kind = .run → turn.state.inTransaction = true

section Exchange

variable {exchange : Exchange}

/-- A transaction that has begun was asked for, and its body starts inside it. -/
theorem Exchange.Fair.begins {options : TransactionOptions} (fair : exchange.Fair)
    (request : exchange.request = .begin options) (succeeded : exchange.succeeded = true) :
    ∃ turn, exchange.turns = [turn] ∧ turn.request.kind = .begin ∧ Held exchange.reply.state := by
  obtain ⟨before, metadata, next, turn, -, one, written, leads, drifts⟩ :=
    fair.of_succeeded succeeded
  have kind : exchange.request.kind = .begin := by rw [request]; rfl
  refine ⟨turn, one, written.kindEq.trans kind, ?_⟩
  rw [kind] at leads
  cases before <;> cases leads <;> exact Held.of_drifts (.inl rfl) drifts

/-- Inside a transaction, orderly requests are for a query and its records. They are written
inside it, and only a failure leads out of it. -/
theorem Exchange.Fair.stays_held (fair : exchange.Fair) (orderly : Orderly exchange)
    (held : Held exchange.state) :
    exchange.request.kind ≠ .reset ∧ (∀ turn ∈ exchange.turns, turn.state.inTransaction = true) ∧
      (Held exchange.reply.state ∨
        exchange.succeeded = false ∧ exchange.reply.state = .failed) := by
  have opened : exchange.state ≠ .disconnected := by
    intro early
    rw [early] at held
    rcases held with inside | lost <;> contradiction
  have unreset : exchange.request.kind ≠ .reset := by
    intro reset
    rcases orderly.reset reset with same | same <;> rw [same] at held <;>
      rcases held with inside | lost <;> contradiction
  have inside {turn : Turn} (written : Written exchange.state exchange.request turn) :
      exchange.state.inTransaction = true := by
    rcases held with inside | lost
    · exact inside
    · exact absurd written.allowed (by simp [lost, Request.Kind.isAllowed_defunct])
  obtain ⟨after, answers, later⟩ := fair.answers opened
  refine ⟨unreset, fun turn member => ?_, ?_⟩
  · have written := answers.written turn member
    exact written.stateEq ▸ inside written
  · rw [Exchange.succeeded]
    generalize exchange.turns = turns at answers
    generalize exchange.reply.outcome = outcome at answers ⊢
    cases answers with
    | unpacked | forbidden => exact .inl (held.of_drifts later)
    | lost => exact .inl (.inr later.of_defunct)
    | responded turn response next written leads =>
      rcases Request.Kind.queryKinds_inside orderly.kind unreset written.allowed (inside written)
        leads with stays | ⟨failure, rfl⟩
      · exact .inl (Held.of_drifts (.inl stays) later)
      · rcases later.eq_or_defunct (by decide) with same | lost
        · exact .inr ⟨(Response.metadata_isOk response).trans failure, same⟩
        · exact .inl (.inr lost)

/-- Behind a failure, orderly requests run no query, and only a reset leads out of it. -/
theorem Exchange.Fair.behind_failure (fair : exchange.Fair) (orderly : Orderly exchange)
    (failed : exchange.state = .failed) :
    exchange.request.kind ≠ .run ∧
      ((∃ turn, exchange.turns = [turn] ∧ turn.request.kind = .reset) ∨
        Held exchange.reply.state ∨ exchange.reply.state = .failed) := by
  refine ⟨fun run => orderly.run run failed, ?_⟩
  obtain ⟨after, answers, later⟩ := fair.answers (by simp [failed])
  have settles (same : after = .failed) :
      Held exchange.reply.state ∨ exchange.reply.state = .failed := by
    rw [same] at later
    exact (later.eq_or_defunct (by decide)).elim .inr fun lost => .inl (.inr lost)
  rw [failed] at answers
  generalize exchange.turns = turns at answers
  generalize exchange.reply.outcome = outcome at answers
  cases answers with
  | unpacked | forbidden => exact .inr (settles rfl)
  | lost => exact .inr (.inl (.inr later.of_defunct))
  | responded turn response next written leads =>
    by_cases reset : exchange.request.kind = .reset
    · exact .inl ⟨turn, rfl, written.kindEq.trans reset⟩
    · exact .inr (settles (Request.Kind.queryKinds_failed orderly.kind reset
        (fun run => orderly.run run failed) written.allowed leads))

end Exchange

section Turns

variable {exchanges : List Exchange}

theorem written_kind (fair : ∀ exchange ∈ exchanges, exchange.Fair) :
    ∀ turn ∈ exchanges.flatMap Exchange.turns,
      ∃ exchange ∈ exchanges, turn.request.kind = exchange.request.kind := by
  intro turn member
  obtain ⟨exchange, among, here⟩ := List.mem_flatMap.1 member
  obtain ⟨before, after, -, answers, -⟩ := fair exchange among
  exact ⟨exchange, among, (answers.written turn here).kindEq⟩

theorem Only.turns {kinds : List Request.Kind} (only : Only kinds exchanges)
    (fair : ∀ exchange ∈ exchanges, exchange.Fair) :
    ∀ turn ∈ exchanges.flatMap Exchange.turns, turn.request.kind ∈ kinds := by
  intro turn member
  obtain ⟨exchange, among, same⟩ := written_kind fair turn member
  exact same ▸ only exchange among

/-- Behind a reset nothing is promised; before it, one more turn has to be sheltered as well. -/
theorem Sheltered.cons {turn : Turn} {rest : List Turn} (reset : turn.request.kind ≠ .reset →
    (turn.request.kind = .run → turn.state.inTransaction = true) ∧ Sheltered rest) :
    Sheltered (turn :: rest) := by
  intro other member
  by_cases same : turn.request.kind = .reset
  · rw [List.takeWhile_cons_of_neg (by simp [same])] at member
    cases member
  · rw [List.takeWhile_cons_of_pos (by simp [same])] at member
    rcases List.mem_cons.1 member with rfl | later
    · exact (reset same).1
    · exact (reset same).2 other later

/-- One orderly request more. What follows has to be sheltered only if it was no reset. -/
theorem Exchange.Fair.sheltered {exchange : Exchange} {rest : List Turn} (fair : exchange.Fair)
    (orderly : Orderly exchange) (held : Held exchange.state ∨ exchange.state = .failed)
    (later : Held exchange.reply.state ∨ exchange.reply.state = .failed → Sheltered rest) :
    Sheltered (exchange.turns ++ rest) := by
  have answered := fair
  obtain ⟨before, between, -, answers, -⟩ := answered
  have ways : Held exchange.reply.state ∨ exchange.reply.state = .failed →
      (∀ turn ∈ exchange.turns, turn.request.kind = .run → turn.state.inTransaction = true) →
      Sheltered (exchange.turns ++ rest) := by
    intro after runs
    rcases answers.part with none | ⟨turn, one, -⟩
    · simpa only [none, List.nil_append] using later after
    · rw [one] at runs ⊢
      exact .cons fun _ => ⟨runs turn (by simp), later after⟩
  rcases held with held | failed
  · obtain ⟨-, inside, after⟩ := fair.stays_held orderly held
    exact ways (after.imp_right And.right) fun turn member _ => inside turn member
  · obtain ⟨unrun, ⟨turn, one, reset⟩ | after⟩ := fair.behind_failure orderly failed
    · rw [one]
      exact .cons fun unreset => absurd reset unreset
    · exact ways after fun turn member run =>
        absurd ((answers.written turn member).kindEq.symm.trans run) unrun

theorem Sheltered.all {turns : List Turn} (sheltered : Sheltered turns)
    (unreset : ∀ turn ∈ turns, turn.request.kind ≠ .reset) :
    ∀ turn ∈ turns, turn.request.kind = .run → turn.state.inTransaction = true := by
  have whole : turns.takeWhile (·.request.kind ≠ .reset) = turns :=
    List.takeWhile_eq_self_iff.2 fun turn member => decide_eq_true (unreset turn member)
  rwa [Sheltered, whole] at sheltered

/-- Orderly requests that start in a transaction are sheltered. -/
theorem Dialogue.sheltered {session : Session α} {start : ServerState}
    {result : Option (α × ServerState)} (dialogue : Dialogue session start exchanges result)
    (fair : ∀ exchange ∈ exchanges, exchange.Fair)
    (orderly : ∀ exchange ∈ exchanges, Orderly exchange) (held : Held start ∨ start = .failed) :
    Sheltered (exchanges.flatMap Exchange.turns) := by
  induction dialogue with
  | pending | finish => exact List.forall_mem_nil _
  | ask same _ _ ih =>
    rw [List.forall_mem_cons] at fair orderly
    rw [List.flatMap_cons]
    exact fair.1.sheltered orderly.1 (same ▸ held) fun held => ih fair.2 orderly.2 held

/-- When nothing is sent behind a failure there is no reset. -/
theorem Dialogue.unreset {session : Session α} {start : ServerState}
    {result : Option (α × ServerState)} (dialogue : Dialogue session start exchanges result)
    (fair : ∀ exchange ∈ exchanges, exchange.Fair) (straight : Straight exchanges)
    (held : Held start) : ∀ exchange ∈ exchanges, exchange.request.kind ≠ .reset := by
  -- A request behind which more follows has succeeded, and then the transaction goes on.
  induction dialogue with
  | pending | finish => exact List.forall_mem_nil _
  | @ask _ _ exchange rest _ same _ _ ih =>
    rw [List.forall_mem_cons] at fair ⊢
    obtain ⟨orderly, smooth⟩ := straight
    rw [List.forall_mem_cons] at orderly
    obtain ⟨unreset, -, after⟩ := fair.1.stays_held orderly.1 (same ▸ held)
    refine ⟨unreset, ?_⟩
    cases rest with
    | nil => exact List.forall_mem_nil _
    | cons next others =>
      rw [List.dropLast_cons_of_ne_nil (by simp)] at smooth
      have succeeded := smooth exchange List.mem_cons_self
      have stays : Held exchange.reply.state :=
        after.resolve_right fun failure => by simp [succeeded] at failure
      exact ih fair.2 ⟨orderly.2, fun other member => smooth other (List.mem_cons_of_mem _ member)⟩
        stays

end Turns

section Transaction

variable {start : ServerState} {exchanges : List Exchange}

/-- What is sent for a transaction before its body and behind it. -/
theorem Dialogue.transaction_parts {settings : SessionSettings} {options : TransactionOptions}
    {body : Attempt α} {result : Option (Except Fault α × ServerState)}
    (sequential : ∀ state, Sequential body.run state)
    (dialogue : Dialogue (withinTransaction settings options body).run start exchanges result)
    (fair : ∀ exchange ∈ exchanges, exchange.Fair) :
    Only [.hello, .logon, .reset, .begin] exchanges ∨
      ∃ front opener middle back ended, exchanges = front ++ opener :: (middle ++ back) ∧
        Only [.hello, .logon, .reset] front ∧ opener.request = .begin options ∧
        opener.succeeded = true ∧ Dialogue body.run opener.reply.state middle ended ∧
        Only [.commit, .rollback] back := by
  rcases dialogue.transaction_course sequential fair with
    ⟨sent, -⟩ | ⟨opener, middle, ⟨⟨front, rfl, sent⟩, request, succeeded, bodily⟩, -⟩ |
      ⟨said, opener, middle, value, state, back, rfl,
        ⟨⟨front, rfl, sent⟩, request, succeeded, bodily⟩, closes⟩
  · exact .inl sent
  · exact .inr ⟨front, opener, middle, [], none, by rw [List.append_nil], sent, request, succeeded,
      bodily, .nil _⟩
  · have last := (closing_sends value state back _ closes fun exchange member =>
      fair exchange (List.mem_append_right _ member)).1
    exact .inr ⟨front, opener, middle, back, _, by simp, sent, request, succeeded, bodily, last⟩

end Transaction

/-- Queries are written only between the request that begins the transaction and those that
end it. Up to the first reset they are written inside the transaction; and a body that
stops at its first failure has no reset sent, so all its queries are. -/
theorem queries_inside_until_reset (settings : SessionSettings) (options : TransactionOptions)
    {body : Body α} (runs : body.RunsQueries) {versions : List Version} {journal : Journal}
    {connection : Connection} (reached : Reached versions journal connection)
    (quiet : Quiet connection) (moves : List Move) :
    let session := (withinTransaction settings options (body.program settings)).run
    let talk := hold session connection moves
    (∀ turn ∈ log talk.journal, turn.request.kind ≠ .run) ∨
      ∃ front opener middle back, log talk.journal = front ++ opener :: (middle ++ back) ∧
        opener.request.kind = .begin ∧ (∀ turn ∈ front ++ back, turn.request.kind ≠ .run) ∧
        (∀ turn ∈ middle, turn.request.kind ∉ ([.begin, .commit, .rollback] : List Request.Kind)) ∧
        Sheltered middle ∧
        (body.Stops → ∀ turn ∈ middle,
          turn.request.kind = .run → turn.state.inTransaction = true) := by
  intro session talk
  have sound : Sound session talk := hold_sound session reached quiet moves
  obtain ⟨exchanges, dialogue, fair, written⟩ := sound.written
  rw [written]
  rcases dialogue.transaction_parts (fun state => sequential_body settings body state) fair with
    sent | ⟨front, opener, middle, back, ended, rfl, first, request, succeeded, bodily, last⟩
  · left
    intro turn member run
    have among := sent.turns fair turn member
    simp [run] at among
  · right
    simp only [List.forall_mem_append, List.forall_mem_cons] at fair
    obtain ⟨fairFront, fairOpener, fairMiddle, fairBack⟩ := fair
    obtain ⟨turn, one, kind, held⟩ := fairOpener.begins request succeeded
    obtain ⟨⟨orderly, straight⟩, -⟩ := body_yields settings runs _ middle ended bodily fairMiddle
    have sheltered := bodily.sheltered fairMiddle orderly (.inl held)
    refine ⟨front.flatMap Exchange.turns, turn, middle.flatMap Exchange.turns,
      back.flatMap Exchange.turns, ?_, kind, ?_, ?_, sheltered, fun stops => ?_⟩
    · simp only [List.flatMap_append, List.flatMap_cons, one, List.cons_append, List.nil_append]
    · intro other member run
      rcases List.mem_append.1 member with early | late
      · have among := first.turns fairFront other early
        simp [run] at among
      · have among := last.turns fairBack other late
        simp [run] at among
    · intro other member
      obtain ⟨exchange, here, same⟩ := written_kind fairMiddle other member
      have apart : ∀ kind ∈ queryKinds,
          kind ∉ ([.begin, .commit, .rollback] : List Request.Kind) := by decide
      exact same ▸ apart _ (orderly exchange here).kind
    · refine sheltered.all fun other member => ?_
      obtain ⟨exchange, here, same⟩ := written_kind fairMiddle other member
      exact same ▸ bodily.unreset fairMiddle (straight stops) held exchange here

/-- A query whose body stops at its failure, in a transaction that is committed. -/
theorem query_inside :
    let settings : SessionSettings := { client := { userAgent := "a/1" } }
    let success : Bytes := [0, 3, 0xB1, 0x70, 0xA0, 0, 0]
    let named : Bytes := [0, 8, 0xB1, 0x70, 0xA1, 0x83, 0x71, 0x69, 0x64, 0, 0, 0]
    let body : Body Unit := .call (.execute { text := "C" }) fun result => match result with
      | .failed fault => .finish (.error fault)
      | _ => .finish (.ok ())
    let moves :=
      Move.opens ++ [success, success, success, named, success, success].flatMap Move.answered
    let session := (withinTransaction settings {} (body.program settings)).run
    let talk := hold session (.start [.current]) moves
    (log talk.journal).any (·.request.kind = .run) = true ∧
      ∀ turn ∈ log talk.journal, turn.request.kind = .run → turn.state.inTransaction = true := by
  intro settings success named body moves session talk
  have ran : (log talk.journal).any (·.request.kind = .run) = true := by decide +kernel
  have runs : body.RunsQueries := ⟨.execute _, fun result => by cases result <;> trivial⟩
  have stops : body.Stops := ⟨fun fault => ⟨fault, rfl⟩, fun result => by cases result <;> trivial⟩
  refine ⟨ran, fun turn member run => ?_⟩
  rcases queries_inside_until_reset settings {} runs .start ⟨rfl, rfl⟩ moves with
    none | ⟨front, opener, middle, back, parts, begins, outside, -, -, inside⟩
  · exact absurd run (none turn member)
  · rw [parts] at member
    simp only [List.mem_append, List.mem_cons] at member outside
    rcases member with early | rfl | here | late
    · exact absurd run (outside turn (.inl early))
    · cases begins.symm.trans run
    · exact inside stops turn here run
    · exact absurd run (outside turn (.inr late))

/-- A body that goes on behind a failure has the server reset, and its next query is written
outside of any transaction. -/
theorem query_outside_behind_failure :
    let settings : SessionSettings := { client := { userAgent := "a/1" } }
    let success : Bytes := [0, 3, 0xB1, 0x70, 0xA0, 0, 0]
    let failure : Bytes := [0, 20, 0xB1, 0x7F, 0xA2, 0x84, 0x63, 0x6F, 0x64, 0x65, 0x81, 0x63,
      0x87, 0x6D, 0x65, 0x73, 0x73, 0x61, 0x67, 0x65, 0x81, 0x6D, 0, 0]
    let body : Body Unit := .call (.execute { text := "B" }) fun _ =>
      .call (.execute { text := "C" }) fun _ => .finish (.ok ())
    let session := (withinTransaction settings {} (body.program settings)).run
    let talk := hold session (.start [.current])
      (Move.opens ++ [success, success, success, failure, success, success, success].flatMap
        Move.answered ++ Move.refused)
    (talk.result session).isSome = true ∧
    (log talk.journal).map (fun turn => (turn.request.kind, turn.state)) =
      [(.hello, .negotiation), (.logon, .authentication), (.begin, .ready), (.run, .txReady),
        (.reset, .failed), (.run, .ready), (.discard, .streaming)] := by
  decide +kernel

end Session
end BoltClient
