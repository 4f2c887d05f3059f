import BoltClient.Proofs.Connection.Journal

/-!
What one event can do to a connection. Each rule of `Stride` is one way in which
a step can go: when it applies, what it leaves in the journal, and what the
connection is afterwards. `step_stride` says that every step follows one of
them, so an invariant is shown rule by rule and the step is not opened again.
-/

namespace BoltClient.Connection

/-- By itself a connection serves, reads or ends. -/
theorem own_of_nextEvent? {connection : Connection} {delivery : Delivery} {event : Event}
    (moves : connection.nextEvent? delivery = some event) :
    event = .take delivery ∨ event = .poll ∨ event = .drain := by
  unfold nextEvent? at moves
  grind

theorem closing_of_nextEvent? {connection : Connection} {delivery : Delivery}
    (moves : connection.nextEvent? delivery = some .drain) : connection.phase = .closing := by
  unfold nextEvent? at moves
  grind

/-- The ways in which a step can go. -/
inductive Stride (connection : Connection) : Event → Notes → Connection → Prop where
  /-- nothing happens, and the connection would not have taken the step by itself -/
  | still (event : Event) (idle : ∀ delivery, connection.nextEvent? delivery ≠ some event) :
    Stride connection event {} connection
  /-- a request cannot be packed, or the connection has stopped -/
  | refuse (ticket : Nat) (request : Request) (fault : ProtocolFault)
    (cause : (∃ reason, request.encode = .error reason) ∨ connection.phase = .stopped) :
    Stride connection (.submit ticket request)
      { submitted := [(ticket, request)], refused := [(ticket, .error fault)] } connection
  | accept (ticket : Nat) (request : Request) (payload : Bytes)
    (packed : request.encode = .ok payload) (going : connection.phase ≠ .stopped) :
    Stride connection (.submit ticket request)
      { submitted := [(ticket, request)], accepted := [⟨ticket, request.kind, payload⟩] }
      { connection with queue := connection.queue ++ [⟨ticket, request.kind, payload⟩] }
  | receive (bytes : Bytes) (flowing : connection.ending = none) :
    Stride connection (.receive bytes) { received := bytes }
      { connection with incoming := connection.incoming ++ bytes }
  | hangUp (ending : StreamEnd) :
    Stride connection (.hangUp ending) {}
      { connection with ending := some (connection.ending.getD ending) }
  /-- the stream cannot be opened, or does not take the handshake -/
  | unopened (event : Event) (phase : connection.phase = .connecting) (sent : Bytes)
    (part : sent = [] ∨ ∃ greeting count,
      Handshake.request connection.versions = .ok greeting ∧ sent = greeting.take count) :
    Stride connection event { sent, mishap := true } connection.close
  | greet (greeting : Bytes) (phase : connection.phase = .connecting)
    (request : Handshake.request connection.versions = .ok greeting) :
    Stride connection (.opened .whole) { sent := greeting }
      { connection with phase := .negotiating }
  /-- there is no answer to the handshake, or none that can be accepted -/
  | disagree (phase : connection.phase = .negotiating) :
    Stride connection .poll { mishap := true } connection.close
  | agree (version : Version) (rest : Bytes) (phase : connection.phase = .negotiating)
    (answer : Handshake.readAnswer? connection.incoming = some (.ok (version, rest))) :
    Stride connection .poll { agreed := true }
      { connection with
        phase := .idle true, status := ⟨.negotiation, some version⟩, incoming := rest }
  /-- bytes that nobody asked for end the watch -/
  | glance (phase : connection.phase = .idle true) :
    Stride connection .poll {} { connection with phase := .idle false }
  /-- the peer has left an idle connection -/
  | desert (phase : connection.phase = .idle true) :
    Stride connection .poll { mishap := true } connection.close
  | forbid (watching : Bool) (next : Queued) (rest : List Queued) (delivery : Delivery)
    (phase : connection.phase = .idle watching) (queue : connection.queue = next :: rest)
    (barred : next.kind.isAllowed connection.state = false) :
    Stride connection (.take delivery)
      { turns := [⟨next, connection.state, delivery⟩],
        replies := [(next.ticket, .error (.forbidden next.kind.name connection.state))] }
      { connection with queue := rest, phase := .idle true }
  | send (watching : Bool) (next : Queued) (rest : List Queued)
    (phase : connection.phase = .idle watching) (queue : connection.queue = next :: rest)
    (allowed : next.kind.isAllowed connection.state = true) :
    Stride connection (.take .whole)
      { turns := [⟨next, connection.state, .whole⟩], sent := Framing.frame next.payload }
      { connection with queue := rest, phase := .serving next.ticket next.kind }
  /-- the stream does not take a request -/
  | cut (watching : Bool) (next : Queued) (rest : List Queued) (count : Nat)
    (fault : TransportFault) (phase : connection.phase = .idle watching)
    (queue : connection.queue = next :: rest)
    (allowed : next.kind.isAllowed connection.state = true) :
    Stride connection (.take (.cut count fault))
      { turns := [⟨next, connection.state, .cut count fault⟩],
        sent := (Framing.frame next.payload).take count,
        replies := [(next.ticket, .error (.connectionLost fault.text))], mishap := true }
      { connection with queue := rest }.close
  /-- the stream ends inside an answer -/
  | lose (ticket : Nat) (kind : Request.Kind) (ending : StreamEnd)
    (phase : connection.phase = .serving ticket kind) :
    Stride connection .poll
      { replies := [(ticket, .error (.connectionLost ending.fault.text))], mishap := true }
      connection.close
  /-- a message is broken or no response -/
  | spoil (ticket : Nat) (kind : Request.Kind) (payload rest : Bytes) (fault : ProtocolFault)
    (phase : connection.phase = .serving ticket kind)
    (found : Framing.readMessage connection.incoming = some (payload, rest))
    (broken : ServerMessage.ofPayload payload = .error fault) :
    Stride connection .poll { replies := [(ticket, .error fault)], mishap := true }
      { connection with incoming := rest }.close
  | record (ticket : Nat) (kind : Request.Kind) (payload rest : Bytes) (fields : List Value)
    (phase : connection.phase = .serving ticket kind)
    (found : Framing.readMessage connection.incoming = some (payload, rest))
    (message : ServerMessage.ofPayload payload = .ok (.record fields)) :
    Stride connection .poll { messages := [.record fields] }
      { connection with incoming := rest, gathered := connection.gathered ++ [fields] }
  /-- a summary leads nowhere -/
  | stray (ticket : Nat) (kind : Request.Kind) (payload rest : Bytes) (summary : Summary)
    (phase : connection.phase = .serving ticket kind)
    (found : Framing.readMessage connection.incoming = some (payload, rest))
    (message : ServerMessage.ofPayload payload = .ok (.summary summary))
    (nowhere : kind.nextState connection.state summary = none) :
    Stride connection .poll
      { messages := [.summary summary], heard := [(kind, summary)],
        replies := [(ticket, .error (.noTransition kind.name connection.state summary.labelled))],
        mishap := true }
      { connection with incoming := rest, gathered := [] }.close
  | conclude (ticket : Nat) (kind : Request.Kind) (payload rest : Bytes) (summary : Summary)
    (next : ServerState) (phase : connection.phase = .serving ticket kind)
    (found : Framing.readMessage connection.incoming = some (payload, rest))
    (message : ServerMessage.ofPayload payload = .ok (.summary summary))
    (leads : kind.nextState connection.state summary = some next) :
    Stride connection .poll
      { messages := [.summary summary], heard := [(kind, summary)],
        replies := [(ticket, .ok ⟨connection.gathered, summary⟩)] }
      { connection.setState next with
        incoming := rest, gathered := [],
        phase := if next.isTerminal then .closing else .idle true }
  | drain (phase : connection.phase = .closing) :
    Stride connection .drain
      { drained := connection.queue,
        replies := connection.queue.map fun queued => (queued.ticket, .error .shutDown) }
      { connection with phase := .stopped, queue := [] }

/-- A step follows a rule when its notes and its outcome are those of the rule. -/
theorem Stride.of_eq {connection after : Connection} {event : Event} {seen : Notes}
    (rule : Stride connection event seen after) (notes : connection.notes event = seen)
    (step : (connection.step event).1 = after) :
    Stride connection event (connection.notes event) (connection.step event).1 := by
  rw [notes, step]
  exact rule

private theorem answersOf_map (queue : List Queued) (outcome : Outcome) :
    answersOf (queue.map fun queued => .answer queued.ticket outcome) =
      queue.map fun queued => (queued.ticket, outcome) := by
  induction queue with
  | nil => rfl
  | cons queued rest ih => rw [List.map_cons, List.map_cons, answersOf_answer, ih]

private theorem bytesOf_map (queue : List Queued) (outcome : Outcome) :
    bytesOf (queue.map fun queued => .answer queued.ticket outcome) = [] := by
  induction queue with
  | nil => rfl
  | cons queued rest ih => rw [List.map_cons, bytesOf_answer, ih]

theorem stride_submit (connection : Connection) (ticket : Nat) (request : Request) :
    Stride connection (.submit ticket request) (connection.notes (.submit ticket request))
      (connection.step (.submit ticket request)).1 := by
  cases packed : request.encode with
  | error fault =>
    refine (Stride.refuse ticket request (.codec fault) (.inl ⟨fault, packed⟩)).of_eq ?_ ?_
    · simp [notes, step, submit, packed, mishap]
    · simp [step, submit, packed]
  | ok payload =>
    by_cases stopped : connection.phase = .stopped
    · refine (Stride.refuse ticket request (.terminated request.name) (.inr stopped)).of_eq ?_ ?_
      · simp [notes, step, submit, packed, stopped, mishap]
      · simp [step, submit, packed, stopped]
    · refine (Stride.accept ticket request payload packed stopped).of_eq ?_ ?_
      · simp [notes, step, submit, packed, stopped, mishap]
      · simp [step, submit, packed, stopped]

theorem stride_opened (connection : Connection) (delivery : Delivery) :
    Stride connection (.opened delivery) (connection.notes (.opened delivery))
      (connection.step (.opened delivery)).1 := by
  by_cases phase : connection.phase = .connecting
  · cases request : Handshake.request connection.versions with
    | error fault =>
      refine (Stride.unopened _ phase [] (.inl rfl)).of_eq ?_ ?_
      · simp [notes, step, greet, phase, request, mishap, Except.toOption]
      · simp [step, greet, phase, request]
    | ok greeting =>
      cases delivery with
      | whole =>
        refine (Stride.greet greeting phase request).of_eq ?_ ?_
        · simp [notes, step, greet, phase, request, Connection.send, mishap, Except.toOption]
        · simp [step, greet, phase, request, Connection.send]
      | cut count fault =>
        refine (Stride.unopened _ phase (greeting.take count)
          (.inr ⟨greeting, count, request, rfl⟩)).of_eq ?_ ?_
        · simp [notes, step, greet, abandon, phase, request, Connection.send, mishap]
        · simp [step, greet, phase, request, Connection.send]
  · refine (Stride.still _ (fun _ moves => by simpa using own_of_nextEvent? moves)).of_eq ?_ ?_
    · simp [notes, step, phase, mishap]
    · simp [step, phase]

/-! A request is served in one of three ways. -/

section Serving

variable {connection : Connection} {next : Queued} {rest : List Queued}

theorem serve_barred (barred : next.kind.isAllowed connection.state = false) (delivery : Delivery) :
    connection.serve next rest delivery =
      ({ connection with queue := rest, phase := .idle true },
        [.answer next.ticket (.error (.forbidden next.kind.name connection.state))]) :=
  if_neg (Bool.eq_false_iff.1 barred)

theorem serve_whole (allowed : next.kind.isAllowed connection.state = true) :
    connection.serve next rest .whole =
      ({ connection with queue := rest, phase := .serving next.ticket next.kind },
        [.write (Framing.frame next.payload)]) :=
  if_pos allowed

theorem serve_cut (allowed : next.kind.isAllowed connection.state = true) (count : Nat)
    (fault : TransportFault) :
    connection.serve next rest (.cut count fault) =
      ({ connection with queue := rest }.close,
        [.write ((Framing.frame next.payload).take count),
          { connection with queue := rest }.close.announce,
          .answer next.ticket (.error (.connectionLost fault.text))]) :=
  if_pos allowed

end Serving

theorem stride_take (connection : Connection) (delivery : Delivery) :
    Stride connection (.take delivery) (connection.notes (.take delivery))
      (connection.step (.take delivery)).1 := by
  cases phase : connection.phase with
  | idle watching =>
    cases queue : connection.queue with
    | nil =>
      refine (Stride.still _ (by simp [nextEvent?, phase, queue])).of_eq ?_ ?_
      · simp [notes, step, phase, queue, mishap]
      · simp [step, phase, queue]
    | cons next rest =>
      have served : connection.step (.take delivery) = connection.serve next rest delivery := by
        simp only [step, phase, queue]
      cases allowed : next.kind.isAllowed connection.state with
      | false =>
        refine (Stride.forbid watching next rest delivery phase queue allowed).of_eq ?_ ?_
        · simp [notes, served, serve_barred allowed, phase, queue, allowed, mishap]
        · rw [served, serve_barred allowed]
      | true =>
        cases delivery with
        | whole =>
          refine (Stride.send watching next rest phase queue allowed).of_eq ?_ ?_
          · simp [notes, served, serve_whole allowed, phase, queue, mishap]
          · rw [served, serve_whole allowed]
        | cut count fault =>
          refine (Stride.cut watching next rest count fault phase queue allowed).of_eq ?_ ?_
          · simp [notes, served, serve_cut allowed, phase, queue, allowed, mishap]
          · rw [served, serve_cut allowed]
  | _ =>
    refine (Stride.still _ (by simp [nextEvent?, phase])).of_eq ?_ ?_
    · simp [notes, step, phase, mishap]
    · simp [step, phase]

/-! A message for the request in flight does one of four things. -/

section Reading

variable {connection : Connection} {ticket : Nat} {kind : Request.Kind} {payload rest : Bytes}

theorem takeMessage_spoiled {fault : ProtocolFault}
    (broken : ServerMessage.ofPayload payload = .error fault) :
    connection.takeMessage ticket kind payload = connection.fail ticket fault := by
  unfold ServerMessage.ofPayload at broken
  cases decoded : Value.decodeExact payload with
  | error cause =>
    rw [decoded] at broken
    cases broken
    simp only [takeMessage, decoded]
  | ok value =>
    rw [decoded] at broken
    have refused : ServerMessage.ofValue value = .error fault := broken
    simp only [takeMessage, decoded, Gathered.push, refused]

private theorem decoded_of_understood {message : ServerMessage}
    (understood : ServerMessage.ofPayload payload = .ok message) :
    ∃ value, Value.decodeExact payload = .ok value ∧ ServerMessage.ofValue value = .ok message := by
  unfold ServerMessage.ofPayload at understood
  split at understood
  · cases understood
  · next value decoded => exact ⟨value, decoded, understood⟩

theorem takeMessage_record {fields : List Value}
    (understood : ServerMessage.ofPayload payload = .ok (.record fields)) :
    connection.takeMessage ticket kind payload =
      ({ connection with gathered := connection.gathered ++ [fields] }, []) := by
  obtain ⟨value, decoded, message⟩ := decoded_of_understood understood
  simp only [takeMessage, decoded, Gathered.push, message]

theorem takeMessage_summary {summary : Summary}
    (understood : ServerMessage.ofPayload payload = .ok (.summary summary)) :
    connection.takeMessage ticket kind payload =
      { connection with gathered := [] }.finish ticket kind ⟨connection.gathered, summary⟩ := by
  obtain ⟨value, decoded, message⟩ := decoded_of_understood understood
  simp only [takeMessage, decoded, Gathered.push, message]

theorem readOn_found (found : Framing.readMessage connection.incoming = some (payload, rest)) :
    connection.readOn ticket kind =
      { connection with incoming := rest }.takeMessage ticket kind payload := by
  rw [readOn, found]

theorem nextMessage?_found
    (found : Framing.readMessage connection.incoming = some (payload, rest)) :
    connection.nextMessage? = some (ServerMessage.ofPayload payload) := by
  rw [nextMessage?, found]
  rfl

theorem finish_stray {response : Response}
    (nowhere : kind.nextState connection.state response.summary = none) :
    connection.finish ticket kind response =
      connection.fail ticket
        (.noTransition kind.name connection.state response.summary.labelled) := by
  rw [finish, nowhere]

theorem finish_leads {response : Response} {next : ServerState}
    (leads : kind.nextState connection.state response.summary = some next) :
    let after : Connection :=
      { connection.setState next with phase := if next.isTerminal then .closing else .idle true }
    connection.finish ticket kind response =
      (after, [after.announce, .answer ticket (.ok response)]) := by
  simp only [finish, leads]

end Reading

/-! Polling goes one way or another in each phase. -/

section Polling

variable {connection : Connection}

theorem stride_negotiating (phase : connection.phase = .negotiating) :
    Stride connection .poll (connection.notes .poll) (connection.step .poll).1 := by
  cases answer : Handshake.readAnswer? connection.incoming with
  | none =>
    cases ended : connection.ending with
    | none =>
      refine (Stride.still _ (by simp [nextEvent?, phase, answer, ended])).of_eq ?_ ?_
      · simp [notes, step, phase, negotiate, answer, ended, mishap]
      · simp [step, phase, negotiate, answer, ended]
    | some ending =>
      refine (Stride.disagree phase).of_eq ?_ ?_
      · simp [notes, step, phase, negotiate, answer, ended, mishap]
      · simp [step, phase, negotiate, answer, ended]
  | some result =>
    cases result with
    | error fault =>
      refine (Stride.disagree phase).of_eq ?_ ?_
      · simp [notes, step, phase, negotiate, answer, mishap, Except.toOption]
      · simp [step, phase, negotiate, answer]
    | ok agreed =>
      obtain ⟨version, rest⟩ := agreed
      refine (Stride.agree version rest phase answer).of_eq ?_ ?_
      · simp [notes, step, phase, negotiate, answer, mishap, Except.toOption]
      · simp [step, phase, negotiate, answer]

theorem stride_watching (phase : connection.phase = .idle true) :
    Stride connection .poll (connection.notes .poll) (connection.step .poll).1 := by
  cases bytes : connection.incoming with
  | cons byte rest =>
    refine (Stride.glance phase).of_eq ?_ ?_
    · simp [notes, step, phase, watch, bytes, mishap]
    · simp [step, phase, watch, bytes]
  | nil =>
    cases ended : connection.ending with
    | none =>
      refine (Stride.still _ (by simp [nextEvent?, phase, bytes, ended])).of_eq ?_ ?_
      · simp [notes, step, phase, watch, bytes, ended, mishap]
      · simp [step, phase, watch, bytes, ended]
    | some ending =>
      refine (Stride.desert phase).of_eq ?_ ?_
      · simp [notes, step, phase, watch, bytes, ended, mishap]
      · simp [step, phase, watch, bytes, ended]

variable {ticket : Nat} {kind : Request.Kind} {payload rest : Bytes}

theorem step_poll_serving (phase : connection.phase = .serving ticket kind) :
    connection.step .poll = connection.readOn ticket kind := by
  simp only [step, phase]

theorem stride_summary {summary : Summary} (phase : connection.phase = .serving ticket kind)
    (found : Framing.readMessage connection.incoming = some (payload, rest))
    (understood : ServerMessage.ofPayload payload = .ok (.summary summary)) :
    Stride connection .poll (connection.notes .poll) (connection.step .poll).1 := by
  have heard := nextMessage?_found found
  have took : connection.step .poll =
      { connection with incoming := rest, gathered := [] }.finish ticket kind
        ⟨connection.gathered, summary⟩ :=
    (step_poll_serving phase).trans ((readOn_found found).trans (takeMessage_summary understood))
  cases leads : kind.nextState connection.state summary with
  | none =>
    have ended : connection.step .poll =
        { connection with incoming := rest, gathered := [] }.fail ticket
          (.noTransition kind.name connection.state summary.labelled) :=
      took.trans (finish_stray leads)
    refine (Stride.stray ticket kind payload rest summary phase found understood leads).of_eq ?_ ?_
    · simp [notes, ended, fail, phase, heard, understood, leads, mishap, Except.toOption,
        ServerMessage.summary?]
    · rw [ended]
      rfl
  | some next =>
    let after : Connection :=
      { connection.setState next with
        incoming := rest, gathered := [],
        phase := if next.isTerminal then .closing else .idle true }
    have ended : connection.step .poll =
        (after, [after.announce, .answer ticket (.ok ⟨connection.gathered, summary⟩)]) :=
      took.trans (finish_leads leads)
    refine (Stride.conclude ticket kind payload rest summary next phase found understood
      leads).of_eq ?_ ?_
    · simp [notes, ended, phase, heard, understood, leads, mishap, Except.toOption,
        ServerMessage.summary?]
    · rw [ended]

theorem stride_message (phase : connection.phase = .serving ticket kind)
    (found : Framing.readMessage connection.incoming = some (payload, rest)) :
    Stride connection .poll (connection.notes .poll) (connection.step .poll).1 := by
  have heard := nextMessage?_found found
  have took : connection.step .poll =
      { connection with incoming := rest }.takeMessage ticket kind payload :=
    (step_poll_serving phase).trans (readOn_found found)
  cases understood : ServerMessage.ofPayload payload with
  | error fault =>
    rw [takeMessage_spoiled understood] at took
    refine (Stride.spoil ticket kind payload rest fault phase found understood).of_eq ?_ ?_
    · simp [notes, took, fail, phase, heard, understood, mishap, Except.toOption]
    · rw [took]
      rfl
  | ok message =>
    cases message with
    | record fields =>
      rw [takeMessage_record understood] at took
      refine (Stride.record ticket kind payload rest fields phase found understood).of_eq ?_ ?_
      · simp [notes, took, phase, heard, understood, mishap, Except.toOption,
          ServerMessage.summary?]
      · rw [took]
    | summary summary => exact stride_summary phase found understood

theorem stride_serving (phase : connection.phase = .serving ticket kind) :
    Stride connection .poll (connection.notes .poll) (connection.step .poll).1 := by
  cases found : Framing.readMessage connection.incoming with
  | none =>
    have reads := step_poll_serving phase
    have silent : connection.nextMessage? = none := by
      rw [nextMessage?, found]
      rfl
    cases ended : connection.ending with
    | none =>
      have waits : connection.readOn ticket kind = (connection, []) := by rw [readOn, found, ended]
      refine (Stride.still _ (by simp [nextEvent?, phase, found, ended])).of_eq ?_ ?_
      · simp [notes, reads, waits, phase, silent, ended, mishap]
      · rw [reads, waits]
    | some ending =>
      have lost : connection.readOn ticket kind = connection.lose ticket ending.fault := by
        rw [readOn, found, ended]
      refine (Stride.lose ticket kind ending phase).of_eq ?_ ?_
      · simp [notes, reads, lost, lose, fail, phase, silent, ended, mishap]
      · rw [reads, lost]
        rfl
  | some taken => exact stride_message phase found

theorem stride_poll :
    Stride connection .poll (connection.notes .poll) (connection.step .poll).1 := by
  cases phase : connection.phase with
  | negotiating => exact stride_negotiating phase
  | idle watching =>
    cases watching with
    | true => exact stride_watching phase
    | false =>
      refine (Stride.still _ (by simp [nextEvent?, phase])).of_eq ?_ ?_
      · simp [notes, step, phase, mishap]
      · simp [step, phase]
  | serving ticket kind => exact stride_serving phase
  | _ =>
    refine (Stride.still _ (by simp [nextEvent?, phase])).of_eq ?_ ?_
    · simp [notes, step, phase, mishap]
    · simp [step, phase]

end Polling

theorem step_stride (connection : Connection) (event : Event) :
    Stride connection event (connection.notes event) (connection.step event).1 := by
  cases event with
  | submit ticket request => exact stride_submit connection ticket request
  | opened delivery => exact stride_opened connection delivery
  | unreachable fault =>
    by_cases phase : connection.phase = .connecting
    · refine (Stride.unopened _ phase [] (.inl rfl)).of_eq ?_ ?_
      · simp [notes, step, phase, mishap]
      · simp [step, phase]
    · refine (Stride.still _ (fun _ moves => by simpa using own_of_nextEvent? moves)).of_eq ?_ ?_
      · simp [notes, step, phase, mishap]
      · simp [step, phase]
  | receive bytes =>
    cases flowing : connection.ending with
    | none =>
      refine (Stride.receive bytes flowing).of_eq ?_ ?_
      · simp [notes, step, flowing, mishap]
      · simp [step, flowing]
    | some ending =>
      refine (Stride.still _ (fun _ moves => by simpa using own_of_nextEvent? moves)).of_eq ?_ ?_
      · simp [notes, step, flowing, mishap]
      · simp [step, flowing]
  | hangUp ending =>
    refine (Stride.hangUp ending).of_eq ?_ rfl
    simp [notes, step, mishap]
  | take delivery => exact stride_take connection delivery
  | poll => exact stride_poll
  | drain =>
    by_cases phase : connection.phase = .closing
    · refine (Stride.drain phase).of_eq ?_ ?_
      · simp [notes, step, phase, Connection.drain, mishap, answersOf_map, bytesOf_map]
      · simp [step, phase, Connection.drain]
    · refine (Stride.still _ (fun _ moves => phase (closing_of_nextEvent? moves))).of_eq ?_ ?_
      · simp [notes, step, phase, mishap]
      · simp [step, phase]

/-- What holds at the start and is kept by every rule holds of every run. -/
theorem Reached.keeps {versions : List Version} (Holds : Journal → Connection → Prop)
    (begins : Holds [] (.start versions))
    (goesOn : ∀ {journal : Journal} {connection after : Connection} {event : Event} {seen : Notes},
      Reached versions journal connection → Holds journal connection →
        Stride connection event seen after → Holds (journal ++ [seen]) after)
    {journal : Journal} {connection : Connection} (reached : Reached versions journal connection) :
    Holds journal connection := by
  induction reached with
  | start => exact begins
  | step before event ih => exact goesOn before ih (step_stride _ event)

end BoltClient.Connection
