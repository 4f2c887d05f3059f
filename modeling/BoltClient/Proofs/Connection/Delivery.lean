import BoltClient.Proofs.Codec.RoundTrip
import BoltClient.Proofs.Connection.WireLog
import BoltClient.Proofs.Message.Requests
import BoltClient.Proofs.Wire.Frames

/-!
Requests on their way to the peer. What a connection writes are the frames of submitted
requests. A peer takes them apart again, however their bytes are cut when they arrive, and
what it unpacks says what the callers have set.
-/

namespace BoltClient

/-- A packed structure is not empty, so its frame is no keep-alive. -/
theorem Value.encode_struct_ne_nil {signature : UInt8} {fields : List Value} {payload : Bytes}
    (packed : (struct signature fields).encode = .ok payload) : payload ≠ [] := by
  have emitted := encode_eq_ok.1 packed
  rw [emit] at emitted
  obtain ⟨header, body, written, -, rfl⟩ := Emission.andThen_eq_of.1 emitted
  obtain ⟨announced, -, rfl⟩ := structHeader_eq_ok.1 (Emission.ofHeader_eq_of.1 written)
  simp

namespace Request

/-- That a peer which takes bytes as they arrive, in whatever pieces, gets one message, and
that this message is one structure: the signature of a request, and fields that say what its
caller has set. -/
def Arrives (request : Request) (bytes : Bytes) : Prop :=
  ∀ pieces : List Bytes, pieces.flatten = bytes → ∃ payload fields,
    Dechunker.empty.feedAll pieces = ([payload], .empty) ∧
    Value.decodeExact payload = .ok (.struct request.kind.signature fields) ∧
    request.Conveys fields

theorem arrives_frame {request : Request} {walked : Value} {payload : Bytes}
    (proper : request.Proper) (shallow : request.toValue.depth ≤ 512)
    (order : request.toValue.Reordered walked) (packed : walked.encode = .ok payload) :
    request.Arrives (Framing.frame payload) := by
  intro pieces cut
  obtain ⟨fields, rfl, inside⟩ := order.of_struct
  have alone : Framing.Carries [payload] (Framing.frame payload ++ []) :=
    .frame (Value.encode_struct_ne_nil packed) .nil
  rw [List.append_nil, ← cut] at alone
  have distinct := order.distinctKeys (distinct_toValue proper)
  rw [order.depth_eq] at shallow
  refine ⟨payload, fields, ?_, Value.decodeExact_encode distinct packed shallow,
    conveys_of_reordered proper inside⟩
  rw [Dechunker.feedAll_eq_feed Dechunker.settled_empty, Dechunker.feed_carried alone]

end Request

namespace Connection

theorem encode_of_packed? {ticket : Nat} {request : Request} {queued : Queued}
    (packed : packed? (ticket, request) = some queued) :
    request.encode = .ok queued.payload ∧ queued = ⟨ticket, request.kind, queued.payload⟩ := by
  unfold packed? at packed
  split at packed
  · next success =>
    cases packed
    exact ⟨success, rfl⟩
  · cases packed

/-- What was let through of a list can be found again in it. -/
theorem exists_sublist_of_filterMap {α β : Type} {view : α → Option β} {all : List α}
    {shown : List β} (within : shown.Sublist (all.filterMap view)) :
    ∃ chosen, chosen.Sublist all ∧
      List.Forall₂ (fun result item => view item = some result) shown chosen := by
  induction all generalizing shown with
  | nil =>
    cases within
    exact ⟨[], .slnil, .nil⟩
  | cons item rest ih =>
    cases seen : view item with
    | none =>
      rw [List.filterMap_cons_none seen] at within
      obtain ⟨chosen, sublist, each⟩ := ih within
      exact ⟨chosen, sublist.cons item, each⟩
    | some result =>
      rw [List.filterMap_cons_some seen] at within
      cases within with
      | cons _ later =>
        obtain ⟨chosen, sublist, each⟩ := ih later
        exact ⟨chosen, sublist.cons item, each⟩
      | cons_cons _ later =>
        obtain ⟨chosen, sublist, each⟩ := ih later
        exact ⟨item :: chosen, sublist.cons_cons item, .cons seen each⟩

/-- What has been written are submitted requests, in the order of their submission. -/
theorem Reached.written {versions : List Version} {journal : Journal} {connection : Connection}
    (reached : Reached versions journal connection) :
    ((log journal).map Turn.request).Sublist
      ((collect Notes.submitted journal).filterMap packed?) := by
  have turns :
      (collect Notes.turns journal).map Turn.request <+: collect Notes.accepted journal :=
    ⟨_, reached.ordered.queue.symm⟩
  have allowed : (log journal).Sublist (collect Notes.turns journal) := List.filter_sublist
  exact (allowed.map Turn.request).trans (turns.trans reached.admitted.inOrder).sublist

theorem carries_turns {turns : List Turn} (whole : ∀ turn ∈ turns, turn.delivery = .whole)
    (filled : ∀ turn ∈ turns, turn.request.payload ≠ []) :
    Framing.Carries (turns.map (·.request.payload)) (turns.flatMap Turn.bytes) := by
  induction turns with
  | nil => exact .nil
  | cons turn rest ih =>
    rw [List.forall_mem_cons] at whole filled
    rw [List.map_cons, List.flatMap_cons, Turn.bytes, whole.1]
    exact .frame filled.1 (ih whole.2 filled.2)

/-- In every run the frames of submitted requests stand behind the handshake, in the order of
their submission, and a peer that takes their bytes as they arrive gets one message for each
that was written whole. If no map of the caller has a key twice and the request is nested at most
512 deep, that message is one structure with the signature of the request and its fields: the
caller's texts, lists and maps stand there as they were, what is unset is absent, and the scheme
of credentials overrides a parameter under its key. The orders in which maps are walked do not
matter, and what the writing of the fields gives is the structure that is packed. -/
theorem requests_arrive (versions : List Version) (events : List Event) :
    let journal := (start versions).journal events
    (∃ greeting, bytesOf ((start versions).run events).2 =
        greeting ++ (log journal).flatMap Turn.bytes ∧
      (Handshake.request versions = .ok greeting ∨ log journal = [])) ∧
    (∃ sent : List (Nat × Request), sent.Sublist (collect Notes.submitted journal) ∧
      List.Forall₂ (fun turn submission => packed? submission = some turn.request ∧
        (turn.delivery = .whole → submission.2.Proper → submission.2.toValue.depth ≤ 512 →
          submission.2.Arrives turn.bytes)) (log journal) sent) ∧
    (∀ front pieces, front <+: log journal → (∀ turn ∈ front, turn.delivery = .whole) →
      pieces.flatten = front.flatMap Turn.bytes →
        Dechunker.empty.feedAll pieces = (front.map (·.request.payload), .empty)) ∧
    ∀ request : Request, request.Proper →
      request.write = .ok request.toStructure ∧
      ∀ walked payload, request.toValue.Reordered walked → walked.encode = .ok payload →
        request.toValue.depth ≤ 512 → request.Arrives (Framing.frame payload) := by
  intro journal
  have reached : Reached versions journal _ := reached_run versions events
  obtain ⟨sent, sublist, each⟩ := exists_sublist_of_filterMap reached.written
  rw [List.forall₂_map_left_iff] at each
  refine ⟨?_, ⟨sent, sublist, each.imp ?_⟩, ?_, ?_⟩
  · obtain ⟨greeting, bytes, shape⟩ := reached.logged.greeting reached.served
    exact ⟨greeting, by rw [bytesOf_run]; exact bytes, shape.imp_right And.left⟩
  · rintro turn ⟨ticket, request⟩ packed
    refine ⟨packed, fun whole proper shallow => ?_⟩
    rw [Turn.bytes, whole]
    exact Request.arrives_frame proper shallow (.refl _) (encode_of_packed? packed).1
  · intro front pieces before whole cut
    have filled : ∀ turn ∈ front, turn.request.payload ≠ [] := by
      intro turn member
      have among := reached.written.subset (List.mem_map_of_mem (before.subset member))
      obtain ⟨⟨ticket, request⟩, -, packed⟩ := List.mem_filterMap.1 among
      exact Value.encode_struct_ne_nil (encode_of_packed? packed).1
    rw [Dechunker.feedAll_eq_feed Dechunker.settled_empty, cut]
    exact Dechunker.feed_carried (carries_turns whole filled)
  · intro request proper
    refine ⟨Request.write_eq proper, fun walked payload order packed shallow => ?_⟩
    exact Request.arrives_frame proper shallow order packed

/-- Behind a greeting, credentials with one parameter in the place of the scheme and one that
looks like a structure which presents itself. -/
theorem logon_arrives_amid_reserved :
    let auth : Auth := ⟨"basic", [("scheme", .integer 1),
      ("principal", .map [(signatureKey, .integer 78), (fieldsKey, .list [.null])])]⟩
    let events : List Event :=
      [.submit 1 (.hello {}), .submit 2 (.logon auth), .opened .whole, .receive [0, 0, 4, 5], .poll,
        .take .whole, .receive [0, 3, 0xB1, 0x70, 0xA0, 0, 0], .poll, .take .whole]
    ∃ first second, log ((start [.current]).journal events) = [first, second] ∧
      (Request.hello {}).Arrives first.bytes ∧ (Request.logon auth).Arrives second.bytes := by
  intro auth events
  have properHello : (Request.hello {}).Proper := nofun
  have properLogon : (Request.logon auth).Proper := by
    simp [Request.Proper, auth, Value.DistinctKeys, Value.DistinctKeysOfEntries,
      Value.DistinctKeysOfItems, Entries.keys, signatureKey, fieldsKey]
  have shallowHello : (Request.hello {}).toValue.depth ≤ 512 := by decide +kernel
  have shallowLogon : (Request.logon auth).toValue.depth ≤ 512 := by decide +kernel
  have deliveries : (log ((start [.current]).journal events)).map Turn.delivery =
      [.whole, .whole] := by decide +kernel
  obtain ⟨-, ⟨sent, sublist, each⟩, -⟩ := requests_arrive [.current] events
  obtain ⟨first, _, same, whole, later⟩ := List.map_eq_cons_iff.1 deliveries
  obtain ⟨second, _, rfl, wholeToo, none⟩ := List.map_eq_cons_iff.1 later
  obtain rfl := List.map_eq_nil_iff.1 none
  rw [same] at each
  have all : sent = [(1, .hello {}), (2, .logon auth)] :=
    sublist.eq_of_length each.length_eq.symm
  rw [all] at each
  obtain _ | ⟨⟨-, hello⟩, _ | ⟨⟨-, logon⟩, ⟨⟩⟩⟩ := each
  exact ⟨first, second, same, hello whole properHello shallowHello,
    logon wholeToo properLogon shallowLogon⟩

end Connection
end BoltClient
