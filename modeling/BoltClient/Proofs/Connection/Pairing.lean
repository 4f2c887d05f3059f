import BoltClient.Proofs.Connection.Attribution
import BoltClient.Proofs.Connection.Reading
import BoltClient.Proofs.Connection.WireLog

/-!
Which response belongs to which request. The place of a response in the stream
decides, and not the time at which its bytes arrive: the first request that was
written gets the first response, and so on. So neither the cuts of the stream
nor its keep-alives can be told from the outcomes.
-/

namespace BoltClient.Connection

theorem prefix_zip {α β : Type} {pairs : List (α × β)} {left : List α} {right : List β}
    (first : pairs.map Prod.fst <+: left) (second : pairs.map Prod.snd <+: right) :
    pairs <+: left.zip right := by
  obtain ⟨lefts, rfl⟩ := first
  obtain ⟨rights, rfl⟩ := second
  have same : (pairs.map Prod.fst).length = (pairs.map Prod.snd).length := by simp
  rw [List.zip_append same]
  have whole : (pairs.map Prod.fst).zip (pairs.map Prod.snd) = pairs := by
    induction pairs with
    | nil => rfl
    | cons pair rest ih => simpa using ih (by simp)
  rw [whole]
  exact List.prefix_append ..

theorem Attributed.tickets_prefix {journal : Journal} {connection : Connection}
    (attributed : Attributed journal connection) :
    (collect Notes.given journal).map Prod.fst <+: (log journal).map (·.request.ticket) := by
  cases phase : connection.phase with
  | connecting | negotiating => simp [(attributed.opening (by simp [phase])).1]
  | idle watching | serving ticket kind =>
    rw [← (attributed.running (by simp [phase])).1]
    exact List.prefix_append ..
  | closing | stopped => exact (attributed.closed (by simp [phase])).1

theorem Attributed.responses_prefix {journal : Journal} {connection : Connection}
    (attributed : Attributed journal connection) :
    (collect Notes.given journal).map Prod.snd <+:
      (Response.assemble [] (collect Notes.messages journal)).1 := by
  cases phase : connection.phase with
  | connecting | negotiating => simp [(attributed.opening (by simp [phase])).1]
  | idle watching | serving ticket kind => simp [(attributed.running (by simp [phase])).2]
  | closing | stopped => exact (attributed.closed (by simp [phase])).2

theorem Attributed.length_eq {journal : Journal} {connection : Connection}
    (attributed : Attributed journal connection) (served : Served journal connection)
    (sound : ever Notes.mishap journal = false) :
    (collect Notes.given journal).length + connection.phase.inFlight.length =
      (log journal).length := by
  cases phase : connection.phase with
  | connecting | negotiating =>
    simp [(attributed.opening (by simp [phase])).1, served.opening (by simp [phase])]
  | idle watching | serving ticket kind =>
    have tickets := congrArg List.length (attributed.running (by simp [phase])).1
    simpa [phase] using tickets
  | closing | stopped => simpa using attributed.sound (by simp [phase]) sound

/-- The kind of a request that can be packed. -/
def packedKind? (request : Request) : Option Request.Kind :=
  request.encode.toOption.map fun _ => request.kind

theorem kinds_of_packed (submitted : List (Nat × Request)) :
    (submitted.filterMap packed?).map Queued.kind =
      (submitted.map Prod.snd).filterMap packedKind? := by
  rw [List.map_filterMap, List.filterMap_map]
  congr 1
  funext submission
  unfold packed?
  cases packed : submission.2.encode <;> simp [packedKind?, packed, Except.toOption]

theorem Replayed.replies_prefix {journal : Journal} {connection : Connection}
    (replayed : Replayed journal connection) (admitted : Admitted journal connection)
    (sound : ever Notes.mishap journal = false) {responses : List Response}
    (given : (collect Notes.given journal).map Prod.snd <+: responses) :
    (collect Notes.replies journal).map Prod.snd <+: Outcome.served .negotiation
      (((collect Notes.submitted journal).map Prod.snd).filterMap packedKind?) responses := by
  cases early : connection.phase.isOpening with
  | true => simp [(replayed.opening early).2]
  | false =>
    obtain ⟨later, submitted⟩ := admitted.inOrder
    obtain ⟨more, rfl⟩ := given
    rw [← kinds_of_packed, ← submitted, List.map_append, replayed.going early sound]
    exact List.prefix_append ..

section Stream

variable {versions : List Version} {journal : Journal} {connection : Connection}
  {answer stream : Bytes} {payloads : List Bytes}

/-- The responses that were given are the first of those that the stream holds. -/
theorem Reached.given_prefix (reached : Reached versions journal connection)
    (four : answer.length = 4) (carries : Framing.Carries payloads stream)
    (arrived : collect Notes.received journal <+: answer ++ stream) :
    (collect Notes.given journal).map Prod.snd <+: Response.ofPayloads payloads := by
  obtain ⟨later, messages⟩ := reached.streamed.messages_prefix four carries arrived
  refine reached.attributed.responses_prefix.trans ?_
  rw [Response.ofPayloads, ← messages, Response.assemble_append]
  exact List.prefix_append ..

/-- When all of the stream has come and the connection waits, no response is left out. -/
theorem Reached.given_length (reached : Reached versions journal connection)
    (four : answer.length = 4) (carries : Framing.Carries payloads stream)
    (arrived : collect Notes.received journal = answer ++ stream)
    (sound : ever Notes.mishap journal = false) {delivery : Delivery}
    (rests : connection.nextEvent? delivery = none) :
    (collect Notes.given journal).length =
      min (log journal).length (Response.ofPayloads payloads).length := by
  have least := (reached.given_prefix four carries (arrived ▸ List.prefix_rfl)).length_le
  have count := reached.attributed.length_eq reached.served sound
  rw [List.length_map] at least
  cases phase : connection.phase with
  | serving ticket kind =>
    have ⟨_, missing⟩ : connection.ending = none ∧
        Framing.readMessage connection.incoming = none := by
      simpa [nextEvent?, phase] using rests
    have read := reached.streamed.running (by simp [phase])
    obtain ⟨front, split, messages⟩ := read.payloads_eq four carries
      (by rw [arrived, List.append_nil])
    rw [List.append_nil, Framing.readAll_missing missing] at split
    have understood := ServerMessage.understood_append messages []
    have given := (reached.attributed.running (by simp [phase])).2
    have all : Response.ofPayloads payloads = (collect Notes.given journal).map Prod.snd := by
      rw [Response.ofPayloads, split, understood, ServerMessage.understood, List.append_nil, given]
    rw [phase] at count
    simp only [Phase.inFlight, List.length_singleton] at count
    rw [all, List.length_map]
    omega
  | _ =>
    simp only [phase, Phase.inFlight, List.length_nil] at count
    omega

end Stream

/-- A request has its turn when no records are gathered. -/
theorem Reached.gathered_of_turn {versions : List Version} {journal : Journal}
    {connection : Connection} (reached : Reached versions journal connection) {event : Event}
    {turn : Turn} (comes : turn ∈ (connection.notes event).turns) : connection.gathered = [] := by
  have attributed := reached.attributed
  have rule := step_stride connection event
  generalize connection.notes event = seen at rule comes
  generalize (connection.step event).1 = after at rule
  cases rule with
  | forbid watching next rest delivery phase | send watching next rest phase
  | cut watching next rest count fault phase => exact attributed.idle watching phase
  | _ => cases comes

/-- In every run the responses that are given are, one by one, the first that the stream
holds, for the first requests that were written. Nothing is passed over: while nothing
goes wrong each request that was written has its response, except the one in flight,
and when all has come each has one for which there is one. No records are left over
when a request has its turn. The answers depend on the requests and on the payloads
alone, so runs with streams that are cut in other ways have the same. -/
theorem responses_in_stream_order {versions : List Version} {events : List Event}
    {answer stream : Bytes} {payloads : List Bytes} (four : answer.length = 4)
    (carries : Framing.Carries payloads stream)
    (arrived : collect Notes.received ((start versions).journal events) <+: answer ++ stream) :
    let connection := ((start versions).run events).1
    let journal := (start versions).journal events
    collect Notes.given journal <+:
      ((log journal).map (·.request.ticket)).zip (Response.ofPayloads payloads) ∧
    (ever Notes.mishap journal = false →
      (collect Notes.given journal).length + connection.phase.inFlight.length =
        (log journal).length) ∧
    (ever Notes.mishap journal = false → collect Notes.received journal = answer ++ stream →
      ∀ delivery, connection.nextEvent? delivery = none →
        (collect Notes.given journal).length =
          min (log journal).length (Response.ofPayloads payloads).length) ∧
    (∀ event turn, turn ∈ (connection.notes event).turns → connection.gathered = []) ∧
    (ever Notes.mishap journal = false →
      (collect Notes.replies journal).map Prod.snd <+: Outcome.served .negotiation
        (((collect Notes.submitted journal).map Prod.snd).filterMap packedKind?)
        (Response.ofPayloads payloads)) ∧
    ∀ (others : List Version) (otherEvents : List Event) (otherAnswer otherStream : Bytes),
      let other := (start others).journal otherEvents
      otherAnswer.length = 4 → Framing.Carries payloads otherStream →
      collect Notes.received other <+: otherAnswer ++ otherStream →
      (collect Notes.submitted journal).map Prod.snd =
        (collect Notes.submitted other).map Prod.snd →
      ever Notes.mishap journal = false → ever Notes.mishap other = false →
        (collect Notes.replies journal).map Prod.snd <+:
          (collect Notes.replies other).map Prod.snd ∨
        (collect Notes.replies other).map Prod.snd <+:
          (collect Notes.replies journal).map Prod.snd := by
  intro connection journal
  have reached : Reached versions journal connection := reached_run versions events
  have given := reached.given_prefix four carries arrived
  refine ⟨prefix_zip reached.attributed.tickets_prefix given,
    reached.attributed.length_eq reached.served, ?_,
    fun event turn comes => reached.gathered_of_turn comes,
    fun sound => reached.replayed.replies_prefix reached.admitted sound given, ?_⟩
  · intro sound all delivery rests
    exact reached.given_length four carries all sound rests
  · intro others otherEvents otherAnswer otherStream other otherFour otherCarries otherArrived same
      sound otherSound
    have otherReached : Reached others other _ := reached_run others otherEvents
    have otherGiven := otherReached.given_prefix otherFour otherCarries otherArrived
    have first := reached.replayed.replies_prefix reached.admitted sound given
    have second := otherReached.replayed.replies_prefix otherReached.admitted otherSound otherGiven
    rw [← same] at second
    exact List.prefix_or_prefix_of_prefix first second

/-- A greeting whose answer comes in three parts, with a keep-alive before it. -/
theorem greeting_answered :
    let hello := Request.hello { userAgent := "a/1" }
    let stream : Bytes := [0, 0, 0, 1, 0xB1, 0, 2, 0x70, 0xA0, 0, 0]
    let events : List Event :=
      [.submit 7 hello, .opened .whole, .receive [0, 0, 4, 5, 0, 0], .poll, .take .whole,
        .receive [0, 1, 0xB1, 0, 2, 0x70], .poll, .receive [0xA0, 0, 0], .poll]
    Framing.Carries [[0xB1, 0x70, 0xA0]] stream ∧
    collect Notes.received ((start [.current]).journal events) = [0, 0, 4, 5] ++ stream ∧
    collect Notes.given ((start [.current]).journal events) <+:
      [7].zip (Response.ofPayloads [[0xB1, 0x70, 0xA0]]) ∧
    (collect Notes.given ((start [.current]).journal events)).length = 1 := by
  intro hello stream events
  have filled : ([[0xB1], [0x70, 0xA0]] : List Bytes) ≠ [] := by decide
  have sizes : ∀ cut ∈ ([[0xB1], [0x70, 0xA0]] : List Bytes),
      cut ≠ [] ∧ cut.length ≤ Framing.chunkLimit := by decide
  have carries : Framing.Carries [[0xB1, 0x70, 0xA0]] stream :=
    .keepAlive (.message filled sizes .nil)
  have received : collect Notes.received ((start [.current]).journal events) =
      [0, 0, 4, 5] ++ stream := by decide +kernel
  have arrived : collect Notes.received ((start [.current]).journal events) <+:
      [0, 0, 4, 5] ++ stream := ⟨[], by rw [List.append_nil, received]⟩
  have requests : (log ((start [.current]).journal events)).map (·.request.ticket) = [7] := by
    decide +kernel
  have written : (log ((start [.current]).journal events)).length = 1 := by decide +kernel
  have sound : ever Notes.mishap ((start [.current]).journal events) = false := by decide +kernel
  have idle : ((start [.current]).run events).1.phase.inFlight = [] := by decide +kernel
  obtain ⟨pairs, answered, -⟩ := responses_in_stream_order rfl carries arrived
  have count := answered sound
  rw [requests] at pairs
  rw [idle, written, List.length_nil, Nat.add_zero] at count
  exact ⟨carries, received, pairs, count⟩

end BoltClient.Connection
