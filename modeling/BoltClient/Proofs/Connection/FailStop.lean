import BoltClient.Proofs.Connection.Refusal

/-!
A connection that is let down stops for good. `Breaks` lists what can go wrong: while
the stream is opened and a version is agreed on, while a request is written, and with
every message of its answer. All of it leads to the same end, published before anybody
is told, and from there on the connection only refuses.
-/

namespace BoltClient.Connection

/-- What lets a connection down with an event, and what the request in flight is told of it,
if there is one. -/
inductive Breaks (connection : Connection) : Event → List (Nat × ProtocolFault) → Prop where
  /-- the stream cannot be opened -/
  | unreachable (fault : TransportFault) (phase : connection.phase = .connecting) :
    Breaks connection (.unreachable fault) []
  /-- the candidates do not fit the handshake -/
  | unasked (delivery : Delivery) (fault : ProtocolFault) (phase : connection.phase = .connecting)
    (misfit : Handshake.request connection.versions = .error fault) :
    Breaks connection (.opened delivery) []
  /-- the stream does not take the handshake -/
  | ungreeted (greeting : Bytes) (count : Nat) (fault : TransportFault)
    (phase : connection.phase = .connecting)
    (request : Handshake.request connection.versions = .ok greeting) :
    Breaks connection (.opened (.cut count fault)) []
  /-- the stream ends before the handshake is answered -/
  | unanswered (ending : StreamEnd) (phase : connection.phase = .negotiating)
    (missing : Handshake.readAnswer? connection.incoming = none)
    (ended : connection.ending = some ending) : Breaks connection .poll []
  /-- the server wants none of the candidates -/
  | disagreed (fault : ProtocolFault) (phase : connection.phase = .negotiating)
    (answer : Handshake.readAnswer? connection.incoming = some (.error fault)) :
    Breaks connection .poll []
  /-- the stream ends while nothing is asked -/
  | deserted (ending : StreamEnd) (phase : connection.phase = .idle true)
    (quiet : connection.incoming = []) (ended : connection.ending = some ending) :
    Breaks connection .poll []
  /-- the stream does not take a request -/
  | unwritten (watching : Bool) (next : Queued) (rest : List Queued) (count : Nat)
    (fault : TransportFault) (phase : connection.phase = .idle watching)
    (queue : connection.queue = next :: rest)
    (allowed : next.kind.isAllowed connection.state = true) :
    Breaks connection (.take (.cut count fault)) [(next.ticket, .connectionLost fault.text)]
  /-- the stream ends before a whole message is there -/
  | truncated (ticket : Nat) (kind : Request.Kind) (ending : StreamEnd)
    (phase : connection.phase = .serving ticket kind)
    (missing : Framing.readMessage connection.incoming = none)
    (ended : connection.ending = some ending) :
    Breaks connection .poll [(ticket, .connectionLost ending.fault.text)]
  /-- a message begins with no value -/
  | undecodable (ticket : Nat) (kind : Request.Kind) (payload rest : Bytes) (fault : CodecFault)
    (phase : connection.phase = .serving ticket kind)
    (found : Framing.readMessage connection.incoming = some (payload, rest))
    (broken : Value.read payload = .error fault) :
    Breaks connection .poll [(ticket, .codec fault)]
  /-- a message goes on behind its value -/
  | trailing (ticket : Nat) (kind : Request.Kind) (payload rest behind : Bytes) (value : Value)
    (phase : connection.phase = .serving ticket kind)
    (found : Framing.readMessage connection.incoming = some (payload, rest))
    (decoded : Value.read payload = .ok (value, behind)) (more : behind ≠ []) :
    Breaks connection .poll [(ticket, .codec (.trailingBytes behind.length))]
  /-- a message is a value and no response -/
  | invalid (ticket : Nat) (kind : Request.Kind) (payload rest : Bytes) (value : Value)
    (fault : ProtocolFault) (phase : connection.phase = .serving ticket kind)
    (found : Framing.readMessage connection.incoming = some (payload, rest))
    (decoded : Value.read payload = .ok (value, []))
    (refused : ServerMessage.ofValue value = .error fault) :
    Breaks connection .poll [(ticket, fault)]
  /-- a summary leads nowhere -/
  | stray (ticket : Nat) (kind : Request.Kind) (payload rest : Bytes) (value : Value)
    (summary : Summary) (phase : connection.phase = .serving ticket kind)
    (found : Framing.readMessage connection.incoming = some (payload, rest))
    (decoded : Value.read payload = .ok (value, []))
    (understood : ServerMessage.ofValue value = .ok (.summary summary))
    (nowhere : kind.nextState connection.state summary = none) :
    Breaks connection .poll [(ticket, .noTransition kind.name connection.state summary.labelled)]

section Payload

variable {payload behind : Bytes} {value : Value}

theorem ofPayload_broken {fault : CodecFault} (broken : Value.read payload = .error fault) :
    ServerMessage.ofPayload payload = .error (.codec fault) := by
  have exact : Value.decodeExact payload = .error fault := by
    rw [Value.decodeExact, broken]
    rfl
  rw [ServerMessage.ofPayload, exact]

theorem ofPayload_trailing (decoded : Value.read payload = .ok (value, behind))
    (more : behind ≠ []) :
    ServerMessage.ofPayload payload = .error (.codec (.trailingBytes behind.length)) := by
  have exact : Value.decodeExact payload = .error (.trailingBytes behind.length) := by
    rw [Value.decodeExact, decoded]
    cases behind with
    | nil => exact absurd rfl more
    | cons byte rest => rfl
  rw [ServerMessage.ofPayload, exact]

theorem ofPayload_whole (decoded : Value.read payload = .ok (value, [])) :
    ServerMessage.ofPayload payload = ServerMessage.ofValue value := by
  have exact : Value.decodeExact payload = .ok value := by
    rw [Value.decodeExact, decoded]
    rfl
  rw [ServerMessage.ofPayload, exact]

end Payload

/-- That an answer ends with a summary behind which the server can be asked nothing more. -/
inductive Dismisses (connection : Connection) : Event → Prop where
  | terminal (ticket : Nat) (kind : Request.Kind) (payload rest : Bytes) (summary : Summary)
    (next : ServerState) (phase : connection.phase = .serving ticket kind)
    (found : Framing.readMessage connection.incoming = some (payload, rest))
    (message : ServerMessage.ofPayload payload = .ok (.summary summary))
    (leads : kind.nextState connection.state summary = some next)
    (ends : next.isTerminal = true) : Dismisses connection .poll

/-! Nothing that can go wrong is missing from the list. -/

section Mishaps

variable {connection : Connection} {event : Event}

theorem mishap_serving {ticket : Nat} {kind : Request.Kind}
    (phase : connection.phase = .serving ticket kind) (mishap : connection.mishap .poll = true) :
    ∃ concerned, Breaks connection .poll concerned := by
  simp only [Connection.mishap, phase] at mishap
  cases found : Framing.readMessage connection.incoming with
  | none =>
    simp only [nextMessage?, found, Option.map_none] at mishap
    obtain ⟨ending, ended⟩ := Option.isSome_iff_exists.1 mishap
    exact ⟨_, .truncated ticket kind ending phase found ended⟩
  | some taken =>
    obtain ⟨payload, rest⟩ := taken
    rw [nextMessage?_found found] at mishap
    cases decoded : Value.read payload with
    | error fault => exact ⟨_, .undecodable ticket kind payload rest fault phase found decoded⟩
    | ok parts =>
      obtain ⟨value, behind⟩ := parts
      by_cases whole : behind = []
      · subst whole
        rw [ofPayload_whole decoded] at mishap
        cases understood : ServerMessage.ofValue value with
        | error fault =>
          exact ⟨_, .invalid ticket kind payload rest value fault phase found decoded understood⟩
        | ok message =>
          rw [understood] at mishap
          cases message with
          | record fields => cases mishap
          | summary summary =>
            have nowhere := Option.isNone_iff_eq_none.1 mishap
            exact ⟨_, .stray ticket kind payload rest value summary phase found decoded understood
              nowhere⟩
      · exact ⟨_, .trailing ticket kind payload rest behind value phase found decoded whole⟩

theorem breaks_of_mishap (mishap : connection.mishap event = true) :
    ∃ concerned, Breaks connection event concerned := by
  cases event with
  | unreachable fault => exact ⟨_, .unreachable fault (of_decide_eq_true mishap)⟩
  | opened delivery =>
    obtain ⟨connecting, broken⟩ := Bool.and_eq_true_iff.1 mishap
    have phase := of_decide_eq_true connecting
    cases request : Handshake.request connection.versions with
    | error fault => exact ⟨_, .unasked delivery fault phase request⟩
    | ok greeting =>
      cases delivery with
      | whole => simp [request, Except.toOption] at broken
      | cut count fault => exact ⟨_, .ungreeted greeting count fault phase request⟩
  | take delivery =>
    cases phase : connection.phase with
    | idle watching =>
      cases queue : connection.queue with
      | nil => simp [Connection.mishap, phase, queue] at mishap
      | cons next rest =>
        simp only [Connection.mishap, phase, queue] at mishap
        obtain ⟨allowed, broken⟩ := Bool.and_eq_true_iff.1 mishap
        cases delivery with
        | whole => cases of_decide_eq_true broken rfl
        | cut count fault =>
          exact ⟨_, .unwritten watching next rest count fault phase queue allowed⟩
    | _ => simp [Connection.mishap, phase] at mishap
  | poll =>
    cases phase : connection.phase with
    | serving ticket kind => exact mishap_serving phase mishap
    | negotiating =>
      simp only [Connection.mishap, phase] at mishap
      cases answer : Handshake.readAnswer? connection.incoming with
      | none =>
        rw [answer] at mishap
        obtain ⟨ending, ended⟩ := Option.isSome_iff_exists.1 mishap
        exact ⟨_, .unanswered ending phase answer ended⟩
      | some result =>
        cases result with
        | error fault => exact ⟨_, .disagreed fault phase answer⟩
        | ok agreed => simp [answer, Except.toOption] at mishap
    | idle watching =>
      simp only [Connection.mishap, phase, Bool.and_eq_true, List.isEmpty_iff] at mishap
      obtain ⟨⟨rfl, quiet⟩, ended⟩ := mishap
      obtain ⟨ending, same⟩ := Option.isSome_iff_exists.1 ended
      exact ⟨_, .deserted ending phase quiet same⟩
    | _ => simp [Connection.mishap, phase] at mishap
  | _ => cases mishap

/-- What is over after a step was let down, or dismissed by its server. -/
theorem breaks_of_over (going : connection.phase.isOver = false)
    (ended : (connection.step event).1.phase.isOver = true) :
    (∃ concerned, Breaks connection event concerned) ∨ Dismisses connection event := by
  have rule := step_stride connection event
  have mishap : (connection.notes event).mishap = connection.mishap event := rfl
  generalize connection.notes event = seen at rule mishap
  generalize (connection.step event).1 = after at rule ended
  cases rule with
  | unopened | disagree | desert | cut | lose | spoil | stray =>
    exact .inl (breaks_of_mishap mishap.symm)
  | conclude ticket kind payload rest summary next phase found message leads =>
    refine .inr (.terminal ticket kind payload rest summary next phase found message leads ?_)
    by_contra working
    rw [if_neg working] at ended
    cases ended
  | drain phase => simp [phase] at going
  | still | refuse | accept | receive | hangUp | record =>
    exact absurd (going.symm.trans ended) Bool.false_ne_true
  | _ => cases ended

end Mishaps

/-- An answer that is an error. -/
def refusal (answer : Nat × ProtocolFault) : Effect := .answer answer.1 (.error answer.2)

/-- That a step writes at most a part of something, makes known that the connection is defunct,
and only then tells whom it concerns. -/
structure Stops (connection : Connection) (event : Event) (concerned : List (Nat × ProtocolFault))
    (written : List Effect) : Prop where
  writes : ∀ effect ∈ written, ∃ bytes, effect = .write bytes
  effects : (connection.step event).2 =
    written ++ .publish (connection.step event).1.status :: concerned.map refusal
  status : (connection.step event).1.status = ⟨.defunct, connection.status.version⟩
  phase : (connection.step event).1.phase = .closing

section Steps

variable {connection before : Connection} {event : Event}
  {concerned : List (Nat × ProtocolFault)} {written : List Effect}

theorem Stops.of_step (writes : ∀ effect ∈ written, ∃ bytes, effect = .write bytes)
    (step : connection.step event =
      (before.close, written ++ before.close.announce :: concerned.map refusal))
    (same : before.status = connection.status) :
    Stops connection event concerned written := by
  have status : before.close.status = ⟨.defunct, connection.status.version⟩ := by
    rw [← same]
    rfl
  constructor
  case writes => exact writes
  case effects => rw [step]; rfl
  case status => rw [step, status]
  case phase => rw [step]; rfl

theorem Stops.of_abandon (step : connection.step event = connection.abandon) :
    Stops connection event [] [] :=
  .of_step (List.forall_mem_nil _) step rfl

theorem Stops.of_fail {ticket : Nat} {fault : ProtocolFault}
    (step : connection.step event = before.fail ticket fault)
    (same : before.status = connection.status) :
    Stops connection event [(ticket, fault)] [] :=
  .of_step (List.forall_mem_nil _) step same

theorem Stops.of_payload {ticket : Nat} {kind : Request.Kind} {payload rest : Bytes}
    {fault : ProtocolFault} (phase : connection.phase = .serving ticket kind)
    (found : Framing.readMessage connection.incoming = some (payload, rest))
    (broken : ServerMessage.ofPayload payload = .error fault) :
    Stops connection .poll [(ticket, fault)] [] := by
  have step : connection.step .poll = { connection with incoming := rest }.fail ticket fault :=
    (step_poll_serving phase).trans ((readOn_found found).trans (takeMessage_spoiled broken))
  exact .of_fail step rfl

/-- Whatever lets a connection down stops it. -/
theorem Breaks.stops (breaks : Breaks connection event concerned) :
    ∃ written, Stops connection event concerned written := by
  cases breaks with
  | unreachable fault phase => exact ⟨[], .of_abandon (if_pos phase)⟩
  | unasked delivery fault phase misfit =>
    have greets : connection.greet delivery = connection.abandon := by rw [greet, misfit]
    exact ⟨[], .of_abandon ((if_pos phase).trans greets)⟩
  | ungreeted greeting count fault phase request =>
    have part : ∀ effect ∈ [Effect.write (greeting.take count)], ∃ bytes, effect = .write bytes :=
      fun effect member => ⟨_, List.mem_singleton.1 member⟩
    have greets : connection.greet (.cut count fault) =
        (connection.close, [.write (greeting.take count), connection.close.announce]) := by
      rw [greet, request]
      rfl
    exact ⟨_, .of_step part ((if_pos phase).trans greets) rfl⟩
  | unanswered ending phase missing ended =>
    have gives : connection.step .poll = connection.abandon := by
      simp only [step, phase, negotiate, missing, ended]
    exact ⟨[], .of_abandon gives⟩
  | disagreed fault phase answer =>
    have gives : connection.step .poll = connection.abandon := by
      simp only [step, phase, negotiate, answer]
    exact ⟨[], .of_abandon gives⟩
  | deserted ending phase quiet ended =>
    have gives : connection.step .poll = connection.abandon := by
      simp [step, phase, watch, quiet, ended]
    exact ⟨[], .of_abandon gives⟩
  | unwritten watching next rest count fault phase queue allowed =>
    have part : ∀ effect ∈ [Effect.write ((Framing.frame next.payload).take count)],
        ∃ bytes, effect = .write bytes := fun effect member => ⟨_, List.mem_singleton.1 member⟩
    have serves : connection.step (.take (.cut count fault)) =
        connection.serve next rest (.cut count fault) := by simp only [step, phase, queue]
    exact ⟨_, .of_step part (serves.trans (serve_cut allowed count fault)) rfl⟩
  | truncated ticket kind ending phase missing ended =>
    have reads : connection.readOn ticket kind = connection.lose ticket ending.fault := by
      simp only [readOn, missing, ended]
    exact ⟨[], .of_fail ((step_poll_serving phase).trans reads) rfl⟩
  | undecodable ticket kind payload rest fault phase found broken =>
    exact ⟨[], .of_payload phase found (ofPayload_broken broken)⟩
  | trailing ticket kind payload rest behind value phase found decoded more =>
    exact ⟨[], .of_payload phase found (ofPayload_trailing decoded more)⟩
  | invalid ticket kind payload rest value fault phase found decoded refused =>
    exact ⟨[], .of_payload phase found ((ofPayload_whole decoded).trans refused)⟩
  | stray ticket kind payload rest value summary phase found decoded understood nowhere =>
    have heard := (ofPayload_whole decoded).trans understood
    have step : connection.step .poll =
        { connection with incoming := rest, gathered := [] }.fail ticket
          (.noTransition kind.name connection.state summary.labelled) :=
      (step_poll_serving phase).trans ((readOn_found found).trans
        ((takeMessage_summary heard).trans (finish_stray nowhere)))
    exact ⟨[], .of_fail step rfl⟩

/-! Before a version is agreed on nothing is published. -/

theorem opening_before (opening : (connection.step event).1.phase.isOpening = true) :
    connection.phase.isOpening = true := by
  have rule := step_stride connection event
  generalize connection.notes event = seen at rule
  generalize (connection.step event).1 = after at rule opening
  cases rule with
  | still | refuse | accept | receive | hangUp => exact opening
  | greet greeting phase => simp [phase]
  | record ticket kind payload rest fields phase => simp [phase] at opening
  | conclude => split at opening <;> cases opening
  | _ => cases opening

theorem opening_step (opening : (connection.step event).1.phase.isOpening = true) :
    (connection.step event).1.status = connection.status ∧
      ∀ status, .publish status ∉ (connection.step event).2 := by
  have before := opening_before opening
  -- A step that publishes leaves the phases of opening, so such steps are out of the question.
  cases event with
  | submit ticket request =>
    simp only [step, submit]
    split
    · simp
    · split <;> simp
  | receive bytes =>
    simp only [step]
    split <;> simp
  | hangUp ending => simp [step]
  | opened delivery =>
    by_cases phase : connection.phase = .connecting
    · cases request : Handshake.request connection.versions with
      | error fault => simp [step, phase, greet, request] at opening
      | ok greeting =>
        cases delivery with
        | whole => simp [step, phase, greet, request, Connection.send]
        | cut count fault => simp [step, phase, greet, request, Connection.send] at opening
    · simp [step, phase]
  | unreachable fault =>
    by_cases phase : connection.phase = .connecting
    · simp [step, phase] at opening
    · simp [step, phase]
  | take delivery => cases phase : connection.phase <;> simp_all [step]
  | poll =>
    cases phase : connection.phase with
    | negotiating =>
      have gives : connection.step .poll = connection.negotiate := by simp only [step, phase]
      rw [gives] at opening ⊢
      unfold negotiate at opening ⊢
      split at opening <;> simp_all
    | connecting => simp [step, phase]
    | _ => simp [phase] at before
  | drain => cases phase : connection.phase <;> simp_all [step]

/-- A connection that is still being opened has published nothing. -/
theorem opening_run {connection : Connection} {events : List Event}
    (opening : (connection.run events).1.phase.isOpening = true) :
    connection.phase.isOpening = true ∧ (connection.run events).1.status = connection.status ∧
      ∀ status, .publish status ∉ (connection.run events).2 := by
  induction events generalizing connection with
  | nil => exact ⟨opening, rfl, fun _ => List.not_mem_nil⟩
  | cons event rest ih =>
    obtain ⟨here, status, silent⟩ := ih opening
    obtain ⟨same, quiet⟩ := opening_step here
    refine ⟨opening_before here, status.trans same, fun published member => ?_⟩
    rcases List.mem_append.1 member with now | later
    · exact quiet published now
    · exact silent published later

end Steps

/-- When the stream fails or ends, or the server cannot be understood, in whatever state of a
run, the connection is defunct: that is published before the request in flight is told why, and
when no version was agreed on none was ever published. From then on nothing is read, written or
published; whatever waits or comes later is refused, and told that the connection is closed if
it could be packed. Apart from that a connection only stops when its server dismisses it. -/
theorem stops_for_good (versions : List Version) (events : List Event) :
    let connection := ((start versions).run events).1
    (∀ event concerned, Breaks connection event concerned →
      let failed := (connection.step event).1
      (∃ written, Stops connection event concerned written) ∧
      (connection.phase.isOpening = true → failed.status = ⟨.defunct, none⟩ ∧
        ∀ status,
          .publish status ∈ ((start versions).run events).2 ++ (connection.step event).2 →
            status = ⟨.defunct, none⟩) ∧
      ∀ more, Refuses failed more) ∧
    ∀ event, connection.phase.isOver = false → (connection.step event).1.phase.isOver = true →
      (∃ concerned, Breaks connection event concerned) ∨ Dismisses connection event := by
  intro connection
  refine ⟨?_, fun event => breaks_of_over⟩
  intro event concerned breaks failed
  obtain ⟨written, stops⟩ := breaks.stops
  have finished : failed.phase.isOver = true := by rw [stops.phase]; rfl
  have closing : failed.phase = .stopped → failed.queue = [] := fun stopped =>
    absurd (stops.phase.symm.trans stopped) nofun
  refine ⟨⟨written, stops⟩, fun opening => ?_, refuses finished closing⟩
  obtain ⟨-, status, silent⟩ := opening_run opening
  have unknown : failed.status = ⟨.defunct, none⟩ := by
    rw [stops.status, status]
    rfl
  refine ⟨unknown, fun published member => ?_⟩
  rcases List.mem_append.1 member with earlier | now
  · exact absurd earlier (silent published)
  · rw [stops.effects] at now
    rcases List.mem_append.1 now with wrote | last
    · obtain ⟨bytes, same⟩ := stops.writes _ wrote
      cases same
    · rcases List.mem_cons.1 last with same | told
      · rw [Effect.publish.inj same, unknown]
      · obtain ⟨answer, -, same⟩ := List.mem_map.1 told
        cases same

/-- The stream ends inside the answer to a greeting while another request waits. -/
theorem truncated_answer_stops :
    let events : List Event :=
      [.submit 7 (.hello { userAgent := "a/1" }), .submit 8 .reset, .opened .whole,
        .receive [0, 0, 4, 5], .poll, .take .whole, .receive [0, 1, 0xB1, 0], .hangUp .closed]
    let failed := (((start [.current]).run events).1.step .poll).1
    failed.status = ⟨.defunct, some .current⟩ ∧ failed.queue.map Queued.ticket = [8] ∧
      ∀ more, Refuses failed more := by
  intro events failed
  let connection := ((start [.current]).run events).1
  have phase : connection.phase = .serving 7 .hello := by decide +kernel
  have missing : Framing.readMessage connection.incoming = none := by decide +kernel
  have ended : connection.ending = some .closed := by decide +kernel
  have version : connection.status.version = some .current := by decide +kernel
  have waiting : failed.queue.map Queued.ticket = [8] := by decide +kernel
  obtain ⟨⟨written, stops⟩, -, refuses⟩ := (stops_for_good [.current] events).1 .poll _
    (.truncated 7 .hello .closed phase missing ended)
  have status := stops.status
  rw [version] at status
  exact ⟨status, waiting, refuses⟩

end BoltClient.Connection
