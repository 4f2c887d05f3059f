import BoltClient.Message.Response
import BoltClient.Proofs.Message.Fields
import BoltClient.Proofs.Typed.Bridge

/-!
What a server says in a summary is read back as it was written. Each record of the metadata has
a table of its fields under their keys; a record is read from every map that holds its table, so
keys that no field has are passed over wherever they stand.
-/

namespace BoltClient

open Decoder Record

theorem StatementType.inverts : Inverts decoder toValue :=
  inverts_of_mapless (fun kind => by cases kind <;> trivial) (fun kind => by cases kind <;> rfl)
    fun kind => by cases kind <;> rfl

theorem ServerRole.inverts : Inverts decoder toValue :=
  inverts_of_mapless (fun role => by cases role <;> trivial) (fun role => by cases role <;> rfl)
    fun role => by cases role <;> rfl

theorem texts_invert : Inverts (sequence text) .ofTexts := text_inverts.sequence

namespace Hints

def table (hints : Hints) : List (String × Option Value) :=
  [("telemetry.enabled", hints.telemetryEnabled.map .boolean),
    ("connection.recv_timeout_seconds", hints.receiveTimeoutSeconds.map .integer)]

theorem inverts : Inverts decoder toValue := by
  refine inverts_of_holds "Hints" table (fun _ => by simp [table]) ?_
  intro hints entries holds
  have enabled := holds "telemetry.enabled" (hints.telemetryEnabled.map .boolean) (by simp [table])
  have timeout := holds "connection.recv_timeout_seconds"
    (hints.receiveTimeoutSeconds.map .integer) (by simp [table])
  exact ((Reads.pure mk).optional (given_of_inverts boolean_inverts enabled)).optional
    (given_of_inverts int64_inverts timeout)

end Hints

namespace Stats

def table (stats : Stats) : List (String × Option Value) :=
  stats.counters.map (fun (name, count) => (name, some (.integer count))) ++
    stats.flags.map fun (name, set) => (name, some (.boolean set))

theorem inverts : Inverts decoder toValue := by
  refine inverts_of_holds "Stats" table
    (fun _ => by simp [table, counters, flags]) ?_
  intro stats entries holds
  have counted {β : Type} {function : Record (Int64 → β)} {f : Int64 → β} (name : String)
      (count : Int64) (reads : function.Reads entries f) (among : (name, count) ∈ stats.counters) :
      (counter function name).Reads entries (f count) := by
    refine reads.defaulted int64_inverts (holds name _ (List.mem_append_left _ ?_))
    exact List.mem_map_of_mem (f := fun (name, count) => (name, some (Value.integer count))) among
  have flagged {β : Type} {function : Record (Bool → β)} {f : Bool → β} (name : String)
      (set : Bool) (reads : function.Reads entries f) (among : (name, set) ∈ stats.flags) :
      (flag function name).Reads entries (f set) := by
    refine reads.defaulted boolean_inverts (holds name _ (List.mem_append_right _ ?_))
    exact List.mem_map_of_mem (f := fun (name, set) => (name, some (Value.boolean set))) among
  have adding := counted "constraints-added" stats.constraintsAdded (.pure mk) (by simp [counters])
  have constraints := counted "constraints-removed" stats.constraintsRemoved adding
    (by simp [counters])
  have indexing := counted "indexes-added" stats.indexesAdded constraints (by simp [counters])
  have indexes := counted "indexes-removed" stats.indexesRemoved indexing (by simp [counters])
  have labelling := counted "labels-added" stats.labelsAdded indexes (by simp [counters])
  have labels := counted "labels-removed" stats.labelsRemoved labelling (by simp [counters])
  have creating := counted "nodes-created" stats.nodesCreated labels (by simp [counters])
  have nodes := counted "nodes-deleted" stats.nodesDeleted creating (by simp [counters])
  have properties := counted "properties-set" stats.propertiesSet nodes (by simp [counters])
  have relating := counted "relationships-created" stats.relationshipsCreated properties
    (by simp [counters])
  have relationships := counted "relationships-deleted" stats.relationshipsDeleted relating
    (by simp [counters])
  have updates := flagged "contains-updates" stats.containsUpdates relationships (by simp [flags])
  have marked := flagged "contains-system-updates" stats.containsSystemUpdates updates
    (by simp [flags])
  exact counted "system-updates" stats.systemUpdates marked (by simp [counters])

end Stats

namespace Server

def table (server : Server) : List (String × Option Value) :=
  [("addresses", some (.ofTexts server.addresses)), ("role", some server.role.toValue)]

theorem inverts : Inverts decoder toValue := by
  refine inverts_of_holds "Server" table (fun _ => by simp [table]) ?_
  intro server entries holds
  have addresses := holds "addresses" (some (.ofTexts server.addresses)) (by simp [table])
  have role := holds "role" (some server.role.toValue) (by simp [table])
  exact ((Reads.pure mk).required texts_invert addresses).required ServerRole.inverts role

end Server

namespace RoutingTable

def table (routes : RoutingTable) : List (String × Option Value) :=
  [("ttl", some (.integer routes.ttl)), ("db", some (.string routes.db)),
    ("servers", some (.list (routes.servers.map Server.toValue)))]

theorem inverts : Inverts decoder toValue := by
  refine inverts_of_holds "RoutingTable" table (fun _ => by simp [table]) ?_
  intro routes entries holds
  have ttl := holds "ttl" (some (.integer routes.ttl)) (by simp [table])
  have db := holds "db" (some (.string routes.db)) (by simp [table])
  have servers := holds "servers" (some (.list (routes.servers.map Server.toValue)))
    (by simp [table])
  exact (((Reads.pure mk).required int64_inverts ttl).required text_inverts db).required
    Server.inverts.sequence servers

end RoutingTable

namespace FailureMetadata

def table (failure : FailureMetadata) : List (String × Option Value) :=
  [("code", some (.string failure.code)), ("message", some (.string failure.message))]

theorem reads {failure : FailureMetadata} {entries : Entries Value}
    (holds : Holds failure.table entries) : record.Reads entries failure := by
  have code := holds "code" (some (.string failure.code)) (by simp [table])
  have message := holds "message" (some (.string failure.message)) (by simp [table])
  exact ((Reads.pure mk).required text_inverts code).required text_inverts message

end FailureMetadata

/-! Properties are values of any kind, so the order of their maps can be told from what is read. -/

/-- That no map among the values of properties has the key that tells structures apart. -/
structure Entries.Plain (properties : Entries Value) : Prop where
  distinct : (Value.map properties).DistinctKeys
  unreserved : ∀ entry ∈ properties, entry.2.Unreserved

theorem Entries.Plain.read {properties : Entries Value} (plain : properties.Plain) :
    Decoder.properties (.map properties) = .ok properties :=
  Value.properties_self plain.distinct.2 (Value.eachMapOfEntries_iff.2 plain.unreserved)

/-- Properties in another order are properties. -/
theorem Entries.Plain.of_reordered {properties : Entries Value} {walked : Value}
    (plain : properties.Plain) (order : (Value.map properties).Reordered walked) :
    ∃ others : Entries Value, others.Plain ∧ walked = .map others := by
  have distinct := order.distinctKeys plain.distinct
  obtain ⟨between, others, rfl, moved, inside⟩ := order.of_map
  refine ⟨others, ⟨distinct, ?_⟩, rfl⟩
  have unreserved : ∀ entry ∈ between, entry.2.Unreserved := fun entry member =>
    plain.unreserved entry (moved.mem_iff.2 member)
  clear moved distinct order plain
  induction inside with
  | nil => exact List.forall_mem_nil _
  | cons here _ ih =>
    rw [List.forall_mem_cons] at unreserved ⊢
    refine ⟨?_, ih unreserved.2⟩
    exact here.2.eachMap (fun moved absent found => absent (moved.mem_iff.2 found)) unreserved.1

/-- Content in another order is content of the same kind. -/
theorem content_of_reordered {α : Type} {Such : α → Prop} {write : α → Value}
    (other : ∀ data walked, Such data → (write data).Reordered walked →
      ∃ others, Such others ∧ walked = write others) {content : Option α} {found : Option Value}
    (such : ∀ data ∈ content, Such data)
    (agrees : Option.Rel Value.Reordered (content.map write) found) :
    ∃ others : Option α, (∀ data ∈ others, Such data) ∧ found = others.map write := by
  cases content with
  | none =>
    cases agrees
    exact ⟨none, fun _ => nofun, rfl⟩
  | some data =>
    cases agrees with
    | some order =>
      obtain ⟨others, still, rfl⟩ := other data _ (such data rfl) order
      exact ⟨some others, fun _ same => Option.some.inj same ▸ still, rfl⟩

def writeNotes (notes : List (Entries Value)) : Value := .list (notes.map .map)

theorem notes_read {notes : List (Entries Value)} (plain : ∀ note ∈ notes, note.Plain) :
    sequence Decoder.properties (writeNotes notes) = .ok notes :=
  sequence_map fun note member => (plain note member).read

theorem notes_reordered {notes : List (Entries Value)} {walked : Value}
    (plain : ∀ note ∈ notes, note.Plain) (order : (writeNotes notes).Reordered walked) :
    ∃ others : List (Entries Value),
      (∀ note ∈ others, note.Plain) ∧ walked = writeNotes others := by
  obtain ⟨values, rfl, inside⟩ := order.of_list
  clear order
  induction notes generalizing values with
  | nil =>
    cases inside
    exact ⟨[], List.forall_mem_nil _, rfl⟩
  | cons note rest ih =>
    cases inside with
    | cons here later =>
      rw [List.forall_mem_cons] at plain
      obtain ⟨other, first, rfl⟩ := plain.1.of_reordered here
      obtain ⟨others, all, same⟩ := ih plain.2 _ later
      cases same
      exact ⟨other :: others, List.forall_mem_cons.2 ⟨first, all⟩, rfl⟩

namespace SuccessMetadata

def table (metadata : SuccessMetadata) : List (String × Option Value) :=
  [("server", metadata.server.map .string),
    ("connection_id", metadata.connectionId.map .string),
    ("hints", metadata.hints.map Hints.toValue),
    ("fields", metadata.fields.map .ofTexts),
    ("t_first", metadata.tFirst.map .integer),
    ("qid", metadata.qid.map .integer),
    ("has_more", metadata.hasMore.map .boolean),
    ("bookmark", metadata.bookmark.map .string),
    ("db", metadata.db.map .string),
    ("notifications", metadata.notifications.map writeNotes),
    ("plan", metadata.plan.map .map),
    ("profile", metadata.profile.map .map),
    ("stats", metadata.stats.map Stats.toValue),
    ("t_last", metadata.tLast.map .integer),
    ("type", metadata.statementType.map StatementType.toValue),
    ("rt", metadata.routingTable.map RoutingTable.toValue)]

/-- All fields but the properties are read from whatever entries hold them. -/
theorem reads {metadata : SuccessMetadata} {entries : Entries Value}
    (holds : Holds metadata.table entries) {notes : Option (List (Entries Value))}
    {plan profile : Option (Entries Value)}
    (noted : Given (sequence Decoder.properties) (entries.get? "notifications") notes)
    (planned : Given Decoder.properties (entries.get? "plan") plan)
    (profiled : Given Decoder.properties (entries.get? "profile") profile) :
    record.Reads entries { metadata with notifications := notes, plan, profile } := by
  have given {α : Type} (name : String) {read : Decoder α} {write : α → Value} (content : Option α)
      (inverts : Inverts read write) (field : (name, content.map write) ∈ metadata.table) :
      Given read (entries.get? name) content :=
    given_of_inverts inverts (holds name _ field)
  have server := given "server" metadata.server text_inverts (by simp [table])
  have connection := given "connection_id" metadata.connectionId text_inverts (by simp [table])
  have hints := given "hints" metadata.hints Hints.inverts (by simp [table])
  have fields := given "fields" metadata.fields texts_invert (by simp [table])
  have first := given "t_first" metadata.tFirst int64_inverts (by simp [table])
  have qid := given "qid" metadata.qid int64_inverts (by simp [table])
  have more := given "has_more" metadata.hasMore boolean_inverts (by simp [table])
  have bookmark := given "bookmark" metadata.bookmark text_inverts (by simp [table])
  have db := given "db" metadata.db text_inverts (by simp [table])
  have stats := given "stats" metadata.stats Stats.inverts (by simp [table])
  have last := given "t_last" metadata.tLast int64_inverts (by simp [table])
  have kind := given "type" metadata.statementType StatementType.inverts (by simp [table])
  have routes := given "rt" metadata.routingTable RoutingTable.inverts (by simp [table])
  have opening := (((Reads.pure mk).optional server).optional connection).optional hints
  have result := (((opening.optional fields).optional first).optional qid).optional more
  have named := (result.optional bookmark).optional db
  have told := ((named.optional noted).optional planned).optional profiled
  exact (((told.optional stats).optional last).optional kind).optional routes

def keys : List String :=
  ["server", "connection_id", "hints", "fields", "t_first", "qid", "has_more", "bookmark", "db",
    "notifications", "plan", "profile", "stats", "t_last", "type", "rt"]

theorem names_distinct (metadata : SuccessMetadata) : (metadata.table.map Prod.fst).Nodup := by
  have distinct : keys.Nodup := by decide
  exact distinct

/-- Metadata whose properties have none of the reserved keys inside. -/
structure Plain (metadata : SuccessMetadata) : Prop where
  notes : ∀ notes ∈ metadata.notifications, ∀ note ∈ notes, Entries.Plain note
  plan : ∀ plan ∈ metadata.plan, Entries.Plain plan
  profile : ∀ profile ∈ metadata.profile, Entries.Plain profile

section Reading

variable {metadata : SuccessMetadata} {extra entries : Entries Value}

/-- Entries that have only been moved are read as the metadata that they were written for. -/
theorem decoder_of_perm (plain : metadata.Plain) (unknown : ∀ key ∈ extra.keys, key ∉ keys)
    (proper : extra.keys.Nodup) (moved : (setEntries metadata.table ++ extra).Perm entries) :
    decoder (.map entries) = .ok metadata := by
  have distinct := metadata.names_distinct
  have holds := holds_of_reordered distinct unknown proper (.permuted moved)
  have found {name : String} {content : Option Value} (field : (name, content) ∈ metadata.table) :
      entries.get? name = content := by
    rw [Entries.get?_perm (nodup_extended distinct unknown proper) moved,
      get?_extended distinct unknown field]
  have notes : entries.get? "notifications" = metadata.notifications.map writeNotes :=
    found (by simp [table])
  have plan : entries.get? "plan" = metadata.plan.map .map := found (by simp [table])
  have profile : entries.get? "profile" = metadata.profile.map .map := found (by simp [table])
  refine (reads holds (notes ▸ given_self (fun _ => rfl) fun notes some => ?_)
    (plan ▸ given_self (fun _ => rfl) fun plan some => ?_)
    (profile ▸ given_self (fun _ => rfl) fun profile some => ?_)).decoder "SuccessMetadata"
  · exact notes_read (plain.notes notes some)
  · exact (plain.plan plan some).read
  · exact (plain.profile profile some).read

/-- That content which may be unset is the same but for the order of its maps. -/
def Matches {α : Type} (write : α → Value) (content other : Option α) : Prop :=
  Option.Rel Value.Reordered (content.map write) (other.map write)

/-- In other orders the same are read, but for the orders of the maps in the properties. -/
theorem decoder_of_reordered (plain : metadata.Plain) (unknown : ∀ key ∈ extra.keys, key ∉ keys)
    (proper : extra.keys.Nodup)
    (order : (Value.map (setEntries metadata.table ++ extra)).Reordered (.map entries)) :
    ∃ notes plan profile, Matches writeNotes metadata.notifications notes ∧
      Matches .map metadata.plan plan ∧ Matches .map metadata.profile profile ∧
      decoder (.map entries) =
        .ok { metadata with notifications := notes, plan, profile } := by
  have holds := holds_of_reordered metadata.names_distinct unknown proper order
  have noted := holds "notifications" (metadata.notifications.map writeNotes) (by simp [table])
  have planned := holds "plan" (metadata.plan.map .map) (by simp [table])
  have profiled := holds "profile" (metadata.profile.map .map) (by simp [table])
  obtain ⟨notes, plainNotes, noteEq⟩ :=
    content_of_reordered (fun _ _ => notes_reordered) plain.notes noted
  obtain ⟨plans, plainPlan, planEq⟩ :=
    content_of_reordered (fun _ _ => Entries.Plain.of_reordered) plain.plan planned
  obtain ⟨profiles, plainProfile, profileEq⟩ :=
    content_of_reordered (fun _ _ => Entries.Plain.of_reordered) plain.profile profiled
  rw [noteEq] at noted
  rw [planEq] at planned
  rw [profileEq] at profiled
  refine ⟨notes, plans, profiles, noted, planned, profiled, ?_⟩
  refine (reads holds (noteEq ▸ given_self (fun _ => rfl) fun notes some => ?_)
    (planEq ▸ given_self (fun _ => rfl) fun plan some => ?_)
    (profileEq ▸ given_self (fun _ => rfl) fun profile some => ?_)).decoder "SuccessMetadata"
  · exact notes_read (plainNotes notes some)
  · exact (plainPlan plan some).read
  · exact (plainProfile profile some).read

end Reading

end SuccessMetadata

namespace FailureMetadata

def keys : List String := ["code", "message"]

theorem decoder_of_reordered {failure : FailureMetadata} {extra entries : Entries Value}
    (unknown : ∀ key ∈ extra.keys, key ∉ keys) (proper : extra.keys.Nodup)
    (order : (Value.map (setEntries failure.table ++ extra)).Reordered (.map entries)) :
    decoder (.map entries) = .ok failure := by
  have distinct : (failure.table.map Prod.fst).Nodup := by
    have distinct : keys.Nodup := by decide
    exact distinct
  exact (reads (holds_of_reordered distinct unknown proper order)).decoder "FailureMetadata"

end FailureMetadata

namespace Gathered

theorem push_success {value : Value} {metadata : SuccessMetadata}
    (read : SuccessMetadata.decoder value = .ok metadata) (gathered : Gathered) :
    gathered.push (.struct 0x70 [value]) = (.ok (some ⟨gathered, .success metadata⟩), []) := by
  have message : ServerMessage.ofValue (.struct 0x70 [value]) =
      .ok (.summary (.success metadata)) := by
    change ((((SuccessMetadata.decoder value).mapError _).map _).mapError _) = _
    rw [read]
    rfl
  rw [push, message]

theorem push_failure {value : Value} {failure : FailureMetadata}
    (read : FailureMetadata.decoder value = .ok failure) (gathered : Gathered) :
    gathered.push (.struct 0x7F [value]) = (.ok (some ⟨gathered, .failure failure⟩), []) := by
  have message : ServerMessage.ofValue (.struct 0x7F [value]) =
      .ok (.summary (.failure failure)) := by
    change ((((FailureMetadata.decoder value).mapError _).map _).mapError _) = _
    rw [read]
    rfl
  rw [push, message]

end Gathered

open SuccessMetadata in
/-- A summary that is written with entries under unknown keys among its own, in whatever order,
completes the answer with the metadata that were written. If the maps inside its properties are
walked in other orders, they come back in these. -/
theorem summaries_return (gathered : Gathered) {extra : Entries Value}
    (proper : extra.keys.Nodup) :
    (∀ metadata : SuccessMetadata, metadata.Plain → (∀ key ∈ extra.keys, key ∉ keys) →
      ∀ own, metadata.toValue = .map own →
        (∀ entries, (own ++ extra).Perm entries →
          gathered.push (.struct 0x70 [.map entries]) =
            (.ok (some ⟨gathered, .success metadata⟩), [])) ∧
        ∀ entries, (Value.map (own ++ extra)).Reordered (.map entries) →
          ∃ notes plan profile, Matches writeNotes metadata.notifications notes ∧
            Matches .map metadata.plan plan ∧ Matches .map metadata.profile profile ∧
            gathered.push (.struct 0x70 [.map entries]) = (.ok (some ⟨gathered, .success
              { metadata with notifications := notes, plan, profile }⟩), [])) ∧
    (∀ failure : FailureMetadata, (∀ key ∈ extra.keys, key ∉ FailureMetadata.keys) →
      ∀ own, failure.toValue = .map own →
        ∀ entries, (Value.map (own ++ extra)).Reordered (.map entries) →
          gathered.push (.struct 0x7F [.map entries]) =
            (.ok (some ⟨gathered, .failure failure⟩), [])) := by
  constructor
  · intro metadata plain unknown own written
    obtain rfl : setEntries metadata.table = own := Value.map.inj written
    constructor
    · intro entries moved
      exact Gathered.push_success (decoder_of_perm plain unknown proper moved) gathered
    · intro entries order
      obtain ⟨notes, plan, profile, noted, planned, profiled, read⟩ :=
        decoder_of_reordered plain unknown proper order
      exact ⟨notes, plan, profile, noted, planned, profiled,
        Gathered.push_success read gathered⟩
  · intro failure unknown own written entries order
    obtain rfl : setEntries failure.table = own := Value.map.inj written
    exact Gathered.push_failure (FailureMetadata.decoder_of_reordered unknown proper order) gathered

/-- A summary with a plan, and with a structure and the reserved key among unknown entries. -/
theorem summary_returns_amid_unknown :
    let gathered : Gathered := [[.integer 1]]
    let extra : Entries Value := [("new", .struct 1 [.null]), (signatureKey, .map [("qid", .null)])]
    let metadata : SuccessMetadata :=
      { qid := some 7, plan := some [("args", .map [("rows", .integer 2)])],
        stats := some { nodesCreated := 3 }, statementType := some .readWrite }
    let failure : FailureMetadata := ⟨"c", "m"⟩
    ∃ own failing, metadata.toValue = .map own ∧ failure.toValue = .map failing ∧
      gathered.push (.struct 0x70 [.map (extra ++ own)]) =
        (.ok (some ⟨gathered, .success metadata⟩), []) ∧
      gathered.push (.struct 0x7F [.map (extra ++ failing)]) =
        (.ok (some ⟨gathered, .failure failure⟩), []) := by
  intro gathered extra metadata failure
  have proper : extra.keys.Nodup := by decide
  have plain : metadata.Plain := by
    refine ⟨nofun, fun plan some => ?_, nofun⟩
    cases some
    constructor
    · simp [Value.DistinctKeys, Value.DistinctKeysOfEntries, Entries.keys]
    · simp [Value.Unreserved, Value.EachMap, Value.EachMapOfEntries, Entries.keys, signatureKey]
  have success := (summaries_return gathered proper).1 metadata plain (by decide) _ rfl
  have failed := (summaries_return gathered proper).2 failure (by decide) _ rfl
  exact ⟨_, _, rfl, rfl, success.1 _ List.perm_append_comm,
    failed _ (.permuted List.perm_append_comm)⟩

end BoltClient
