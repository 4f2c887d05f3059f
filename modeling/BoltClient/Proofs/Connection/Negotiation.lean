import BoltClient.Proofs.Connection.FailStop
import BoltClient.Proofs.Connection.Publishing
import BoltClient.Proofs.Connection.Reading
import BoltClient.Proofs.Connection.WireLog

/-!
The version that a connection speaks. It is the one that the first four bytes of the
server name, whether it was offered or not; zero names none. So a server that gives
back one of the four groups of the handshake gets one of the candidates, and one that
names none, or leaves before it has, gets nothing but the handshake.
-/

namespace BoltClient

namespace Handshake

/-- The version named by the first four bytes of a server. -/
def Names (received : Bytes) (version : Version) : Prop :=
  ∃ answer later, received = answer ++ later ∧ answer.length = 4 ∧
    Version.ofNat (Bytes.toNat answer) = version

/-- The server names no version: zero stands for none, and it may leave before its answer is
whole. -/
def NamesNone (received : Bytes) (ending : Option StreamEnd) : Prop :=
  Names received .zero ∨ received.length < 4 ∧ ending.isSome = true

variable {received later : Bytes} {version other : Version}

theorem Names.append (names : Names received version) (later : Bytes) :
    Names (received ++ later) version := by
  obtain ⟨answer, behind, rfl, four, same⟩ := names
  exact ⟨answer, behind ++ later, List.append_assoc .., four, same⟩

theorem Names.unique (one : Names received version) (two : Names received other) :
    version = other := by
  obtain ⟨answer, behind, rfl, four, rfl⟩ := one
  obtain ⟨reply, rest, shape, width, rfl⟩ := two
  obtain ⟨rfl, -⟩ := List.append_inj shape (four.trans width.symm)
  rfl

theorem Names.four_le (names : Names received version) : 4 ≤ received.length := by
  obtain ⟨answer, behind, rfl, four, -⟩ := names
  rw [List.length_append, four]
  exact Nat.le_add_right ..

theorem NamesNone.not_named {ending : Option StreamEnd} (unnamed : NamesNone received ending) :
    ¬ (Names received version ∧ version ≠ .zero) := by
  rintro ⟨names, proper⟩
  rcases unnamed with zero | ⟨short, -⟩
  · exact proper (names.unique zero)
  · exact absurd names.four_le (Nat.not_le.2 short)

theorem ofAnswer_eq (answer : Bytes) : ofAnswer answer =
    if Version.ofNat (Bytes.toNat answer) = .zero then .error .noCommonVersion
    else .ok (Version.ofNat (Bytes.toNat answer)) := by
  simp [ofAnswer, Version.isZero]

theorem readAnswer?_append {answer : Bytes} (four : answer.length = 4) (later : Bytes) :
    readAnswer? (answer ++ later) =
      some ((ofAnswer answer).map fun version => (version, later)) := by
  rw [readAnswer?, ← four, Bytes.split?_append]
  rfl

theorem readAnswer?_eq_none_iff : readAnswer? received = none ↔ received.length < 4 := by
  rw [readAnswer?, Option.map_eq_none_iff, Bytes.split?_eq_none_iff]

theorem names_of_readAnswer? (accepted : readAnswer? received = some (.ok (version, later))) :
    Names received version ∧ version ≠ .zero := by
  obtain ⟨answer, four, rfl⟩ := eq_append_of_readAnswer? accepted
  rw [readAnswer?_append four, ofAnswer_eq] at accepted
  split at accepted
  · cases accepted
  · next proper =>
    cases accepted
    exact ⟨⟨answer, later, rfl, four, rfl⟩, proper⟩

theorem Names.accepted (names : Names received version) (proper : version ≠ .zero) :
    ∃ later, readAnswer? received = some (.ok (version, later)) := by
  obtain ⟨answer, later, rfl, four, rfl⟩ := names
  refine ⟨later, ?_⟩
  rw [readAnswer?_append four, ofAnswer_eq, if_neg proper]
  rfl

theorem Names.rejected (names : Names received .zero) :
    readAnswer? received = some (.error .noCommonVersion) := by
  obtain ⟨answer, later, rfl, four, zero⟩ := names
  rw [readAnswer?_append four, ofAnswer_eq, if_pos zero]
  rfl

/-! The four groups behind the preamble are the candidates, or zero. -/

theorem length_encodeVersion (version : Version) : (encodeVersion version).length = 4 :=
  Bytes.length_ofNat ..

theorem ofNat_encodeVersion (version : Version) :
    Version.ofNat (Bytes.toNat (encodeVersion version)) = version := by
  have major := version.major.toNat_lt
  have minor := version.minor.toNat_lt
  have fits : version.toNat < Bytes.limit 4 := by
    simp only [Version.toNat, Bytes.limit]
    omega
  rw [encodeVersion, Bytes.toNat_ofNat fits, Version.ofNat_toNat]

theorem exists_group (filled : List Version) {slot : Nat} (inside : slot < filled.length) :
    ∃ candidate ∈ filled,
      ((filled.flatMap encodeVersion).drop (4 * slot)).take 4 = encodeVersion candidate := by
  induction filled generalizing slot with
  | nil => cases inside
  | cons first rest ih =>
    have four := length_encodeVersion first
    cases slot with
    | zero =>
      refine ⟨first, List.mem_cons_self, ?_⟩
      rw [List.flatMap_cons, Nat.mul_zero, List.drop_zero, ← four, List.take_left]
    | succ slot =>
      obtain ⟨candidate, member, group⟩ := ih (Nat.lt_of_succ_lt_succ inside)
      refine ⟨candidate, List.mem_cons_of_mem first member, ?_⟩
      have behind : 4 * (slot + 1) = (encodeVersion first).length + 4 * slot := by omega
      rw [List.flatMap_cons, behind, List.drop_length_add_append]
      exact group

theorem group_of_request {versions : List Version} {written : Bytes} {slot : Nat}
    (request : request versions = .ok written) (inside : slot < 4) :
    ∃ candidate, (candidate ∈ versions ∨ candidate = .zero) ∧
      (written.drop (4 + 4 * slot)).take 4 = encodeVersion candidate := by
  unfold Handshake.request at request
  split at request
  · cases request
  · next fits =>
    cases request
    let filled := versions ++ List.replicate (slots - versions.length) .zero
    have whole : slot < filled.length := by
      simp only [Bool.or_eq_true, not_or, slots] at fits
      simp only [filled, List.length_append, List.length_replicate, slots]
      omega
    obtain ⟨candidate, member, group⟩ := exists_group filled whole
    refine ⟨candidate, ?_, ?_⟩
    · exact (List.mem_append.1 member).imp_right List.eq_of_mem_replicate
    · have behind : (preamble ++ filled.flatMap encodeVersion).drop (preamble.length + 4 * slot) =
          (filled.flatMap encodeVersion).drop (4 * slot) := List.drop_length_add_append _
      rw [← group, ← behind]
      rfl

/-- A server that gives back a group of the handshake names one of the candidates. -/
theorem Names.offered {versions : List Version} {written : Bytes} {slot : Nat}
    (names : Names received version) (proper : version ≠ .zero)
    (request : request versions = .ok written) (inside : slot < 4)
    (given : (written.drop (4 + 4 * slot)).take 4 <+: received) : version ∈ versions := by
  obtain ⟨candidate, offered, group⟩ := group_of_request request inside
  rw [group] at given
  obtain ⟨later, rfl⟩ := given
  have same : version = candidate := names.unique
    ⟨_, later, rfl, length_encodeVersion candidate, ofNat_encodeVersion candidate⟩
  subst same
  exact offered.resolve_right proper

end Handshake

namespace Connection

/-- What is known of the version in each part of a connection's life. -/
structure Negotiated (journal : Journal) (connection : Connection) : Prop where
  opening : connection.phase.isOpening = true → connection.status.version = none
  running : connection.phase.isRunning = true → connection.status.version ≠ none
  named : ∀ version, connection.status.version = some version →
    Handshake.Names (collect Notes.received journal) version ∧ version ≠ .zero
  silent : connection.status.version = none → log journal = []

theorem Reached.negotiated {versions : List Version} {journal : Journal} {connection : Connection}
    (reached : Reached versions journal connection) : Negotiated journal connection := by
  refine Reached.keeps Negotiated ?_ ?_ reached
  · exact ⟨fun _ => rfl, nofun, nofun, fun _ => rfl⟩
  · intro journal connection after event seen reached before rule
    obtain ⟨opening, running, named, silent⟩ := before
    cases rule with
    | still | refuse | accept | hangUp => exact ⟨opening, running, by simpa, by simpa⟩
    | receive bytes =>
      refine ⟨opening, running, fun version same => ?_, by simpa⟩
      obtain ⟨names, proper⟩ := named version same
      rw [collect_concat]
      exact ⟨names.append bytes, proper⟩
    | unopened | disagree | lose | spoil | stray | desert =>
      exact ⟨by simp, by simp, by simpa, by simpa⟩
    | greet greeting phase =>
      have unknown := opening (by simp [phase])
      exact ⟨fun _ => unknown, by simp, by simpa, by simpa⟩
    | agree version rest phase answer =>
      have received := (reached.streamed.opening (by simp [phase])).1
      refine ⟨by simp, by simp, fun other same => ?_, by simp⟩
      cases same
      rw [collect_concat, List.append_nil, received]
      exact Handshake.names_of_readAnswer? answer
    | glance phase | forbid watching next rest delivery phase | send watching next rest phase
    | cut watching next rest count fault phase =>
      have known := running (by simp [phase])
      exact ⟨by simp, fun _ => known, by simpa, fun unknown => absurd unknown known⟩
    | record ticket kind payload rest fields phase =>
      have known := running (by simp [phase])
      exact ⟨by simp [phase], fun _ => known, by simpa, fun unknown => absurd unknown known⟩
    | conclude ticket kind payload rest summary next phase =>
      have known := running (by simp [phase])
      refine ⟨fun opens => ?_, fun _ => known, by simpa, fun unknown => absurd unknown known⟩
      split at opens <;> cases opens
    | drain phase => exact ⟨by simp, by simp, by simpa, by simpa⟩

section Runs

variable {versions : List Version} {journal : Journal} {connection : Connection}
  {events : List Event}

theorem Reached.version_eq_none (reached : Reached versions journal connection)
    (unnamed : Handshake.NamesNone (collect Notes.received journal) connection.ending) :
    connection.status.version = none := by
  apply Option.eq_none_iff_forall_ne_some.2
  intro version known
  exact unnamed.not_named (reached.negotiated.named version known)

/-- A connection that has come past its opening without a version is over. -/
theorem Reached.defunct_without_version (reached : Reached versions journal connection)
    (unknown : connection.status.version = none) (past : connection.phase.isOpening = false) :
    connection.status = ⟨.defunct, none⟩ := by
  have state : connection.state = .defunct := by
    cases phase : connection.phase with
    | connecting | negotiating => simp [phase] at past
    | idle | serving => exact absurd unknown (reached.negotiated.running (by simp [phase]))
    | closing | stopped => exact (reached.tracked.closed (by simp [phase])).1
  exact congrArg₂ Status.mk state unknown

/-- Without a version nothing is written but the handshake, or a part of it. -/
theorem Reached.sent_without_version (reached : Reached versions journal connection)
    (unknown : connection.status.version = none) :
    collect Notes.sent journal = [] ∨ ∃ request,
      Handshake.request versions = .ok request ∧ collect Notes.sent journal <+: request := by
  obtain ⟨greeting, sent, shape⟩ := reached.logged.greeting reached.served
  rw [reached.negotiated.silent unknown, List.flatMap_nil, List.append_nil] at sent
  rw [sent]
  rcases shape with whole | ⟨-, nothing | part⟩
  · exact .inr ⟨greeting, whole, List.prefix_rfl⟩
  · exact .inl nothing
  · exact .inr part

/-- Whatever version is published is the one that the server named. -/
theorem names_of_published {status : Status} {version : Version}
    (told : .publish status ∈ ((start versions).run events).2)
    (known : status.version = some version) :
    Handshake.Names (collect Notes.received ((start versions).journal events)) version ∧
      version ≠ .zero := by
  obtain ⟨earlier, event, later, rfl, now⟩ := exists_step_of_mem_run told
  have reached := (reached_run versions earlier).step event
  rw [status_of_step _ event now] at known
  obtain ⟨names, proper⟩ := reached.negotiated.named version known
  have longer : (start versions).journal (earlier ++ event :: later) =
      ((start versions).journal earlier ++ [((start versions).run earlier).1.notes event]) ++
        (((start versions).run earlier).1.step event).1.journal later := by
    rw [journal_append, List.append_assoc]
    rfl
  rw [longer, collect_append]
  exact ⟨names.append _, proper⟩

/-- Without a version nothing is published but the end. -/
theorem published_without_version {status : Status}
    (told : .publish status ∈ ((start versions).run events).2) (unknown : status.version = none) :
    status = ⟨.defunct, none⟩ := by
  obtain ⟨earlier, event, later, rfl, now⟩ := exists_step_of_mem_run told
  have reached := (reached_run versions earlier).step event
  have past : (((start versions).run earlier).1.step event).1.phase.isOpening = false := by
    apply Bool.eq_false_iff.2
    intro opening
    exact (opening_step opening).2 status now
  rw [status_of_step _ event now] at unknown ⊢
  exact reached.defunct_without_version unknown past

end Runs

section Answers

variable {connection : Connection}

/-- A connection takes the version that it is given. -/
theorem poll_named {version : Version} (phase : connection.phase = .negotiating)
    (names : Handshake.Names connection.incoming version) (proper : version ≠ .zero) :
    (∀ delivery, connection.nextEvent? delivery = some .poll) ∧
      (connection.step .poll).1.status = ⟨.negotiation, some version⟩ := by
  obtain ⟨later, accepted⟩ := names.accepted proper
  constructor
  · intro delivery
    simp [nextEvent?, phase, accepted]
  · simp [step, phase, negotiate, accepted]

/-- A connection that will get no version ends. -/
theorem poll_unnamed (phase : connection.phase = .negotiating)
    (unnamed : Handshake.NamesNone connection.incoming connection.ending) :
    (∀ delivery, connection.nextEvent? delivery = some .poll) ∧
      (connection.step .poll).1.status = ⟨.defunct, connection.status.version⟩ := by
  rcases unnamed with zero | ⟨short, ended⟩
  · have rejected := zero.rejected
    obtain ⟨_, stops⟩ := (Breaks.disagreed _ phase rejected).stops
    exact ⟨fun delivery => by simp [nextEvent?, phase, rejected], stops.status⟩
  · have missing := Handshake.readAnswer?_eq_none_iff.2 short
    obtain ⟨ending, same⟩ := Option.isSome_iff_exists.1 ended
    obtain ⟨_, stops⟩ := (Breaks.unanswered ending phase missing same).stops
    exact ⟨fun delivery => by simp [nextEvent?, phase, ended], stops.status⟩

end Answers

/-- In every run each version that is published is the one that the server named, and not zero; it
is one of the candidates if the server gave back one of the groups of the handshake. Whatever
version the server names, offered or not, the connection takes it. If it names none, nothing is
published but that the connection is defunct, nothing is written but the handshake or a part of
it, and once the handshake is written the connection ends or has ended. -/
theorem speaks_what_is_named (versions : List Version) (events : List Event) :
    let connection := ((start versions).run events).1
    let effects := ((start versions).run events).2
    let received := collect Notes.received ((start versions).journal events)
    (∀ status version, .publish status ∈ effects → status.version = some version →
      Handshake.Names received version ∧ version ≠ .zero ∧
      ∀ request slot, Handshake.request versions = .ok request → slot < 4 →
        (request.drop (4 + 4 * slot)).take 4 <+: received → version ∈ versions) ∧
    (∀ version, Handshake.Names received version → version ≠ .zero →
      connection.phase = .negotiating →
        (∀ delivery, connection.nextEvent? delivery = some .poll) ∧
        (connection.step .poll).1.status = ⟨.negotiation, some version⟩) ∧
    (Handshake.NamesNone received connection.ending →
      (∀ status, .publish status ∈ effects → status = ⟨.defunct, none⟩) ∧
      (bytesOf effects = [] ∨
        ∃ request, Handshake.request versions = .ok request ∧ bytesOf effects <+: request) ∧
      (connection.phase.isOpening = false → connection.status = ⟨.defunct, none⟩) ∧
      (connection.phase = .negotiating →
        (∀ delivery, connection.nextEvent? delivery = some .poll) ∧
        (connection.step .poll).1.status = ⟨.defunct, none⟩)) := by
  intro connection effects received
  have reached : Reached versions ((start versions).journal events) connection :=
    reached_run versions events
  have waiting (phase : connection.phase = .negotiating) : received = connection.incoming :=
    (reached.streamed.opening (by simp [phase])).1
  refine ⟨?published, ?named, ?unnamed⟩
  case published =>
    intro status version told known
    obtain ⟨names, proper⟩ := names_of_published told known
    refine ⟨names, proper, ?_⟩
    intro request slot written inside given
    exact names.offered proper written inside given
  case named =>
    intro version names proper phase
    rw [waiting phase] at names
    exact poll_named phase names proper
  case unnamed =>
    intro unnamed
    have unknown : connection.status.version = none := reached.version_eq_none unnamed
    refine ⟨?_, ?_, reached.defunct_without_version unknown, ?_⟩
    · intro status told
      apply published_without_version told
      apply Option.eq_none_iff_forall_ne_some.2
      intro version known
      exact unnamed.not_named (names_of_published told known)
    · rw [bytesOf_run]
      exact reached.sent_without_version unknown
    · intro phase
      rw [waiting phase] at unnamed
      have ends := poll_unnamed phase unnamed
      rwa [unknown] at ends

/-- Another server answers, as one that speaks HTTP would. The four letters are taken for
version 80.84, which was not offered, and the client greets the server in it. -/
theorem unoffered_version_taken :
    let events : List Event := [.submit 0 (.hello { userAgent := "a/1" }), .opened .whole,
      .receive [0x48, 0x54, 0x54, 0x50], .poll, .take .whole]
    let (connection, effects) := (start [.current]).run events
    published ⟨.start, none⟩ effects = ⟨.negotiation, some ⟨80, 84⟩⟩ ∧
      (⟨80, 84⟩ : Version) ∉ [Version.current] ∧ connection.phase = .serving 0 .hello := by
  decide +kernel

end Connection
end BoltClient
