import BoltClient.Entity.Form

/-!
What a summary says about a request. Keys that are not known are passed over,
keys that are not there leave their field unset, and unset fields are left out
when metadata are written.
-/

namespace BoltClient

/-- What a statement may do. -/
inductive StatementType where
  | readOnly
  | writeOnly
  | readWrite
  | schema
  deriving DecidableEq, Repr

/-- What a server of a cluster is for. -/
inductive ServerRole where
  | route
  | read
  | write
  deriving DecidableEq, Repr

structure Hints where
  telemetryEnabled : Option Bool
  receiveTimeoutSeconds : Option Int64
  deriving DecidableEq

/-- Update counters of a query. -/
structure Stats where
  constraintsAdded : Int64 := 0
  constraintsRemoved : Int64 := 0
  indexesAdded : Int64 := 0
  indexesRemoved : Int64 := 0
  labelsAdded : Int64 := 0
  labelsRemoved : Int64 := 0
  nodesCreated : Int64 := 0
  nodesDeleted : Int64 := 0
  propertiesSet : Int64 := 0
  relationshipsCreated : Int64 := 0
  relationshipsDeleted : Int64 := 0
  containsUpdates : Bool := false
  containsSystemUpdates : Bool := false
  systemUpdates : Int64 := 0
  deriving DecidableEq

structure Server where
  addresses : List String
  role : ServerRole
  deriving DecidableEq

structure RoutingTable where
  ttl : Int64
  db : String
  servers : List Server
  deriving DecidableEq

structure SuccessMetadata where
  server : Option String := none
  connectionId : Option String := none
  hints : Option Hints := none
  fields : Option (List String) := none
  tFirst : Option Int64 := none
  qid : Option Int64 := none
  hasMore : Option Bool := none
  bookmark : Option String := none
  db : Option String := none
  notifications : Option (List (Entries Value)) := none
  plan : Option (Entries Value) := none
  profile : Option (Entries Value) := none
  stats : Option Stats := none
  tLast : Option Int64 := none
  statementType : Option StatementType := none
  routingTable : Option RoutingTable := none

structure FailureMetadata where
  code : String
  message : String
  deriving DecidableEq

/-- The entries of the fields that are set. -/
def setEntries (fields : List (String × Option Value)) : Entries Value :=
  fields.filterMap fun (name, value?) => value?.map fun value => (name, value)

namespace StatementType

def names : List (String × StatementType) :=
  [("r", readOnly), ("w", writeOnly), ("rw", readWrite), ("s", schema)]

def decoder : Decoder StatementType := Decoder.oneOf names

def toValue : StatementType → Value
  | readOnly => .string "r"
  | writeOnly => .string "w"
  | readWrite => .string "rw"
  | schema => .string "s"

end StatementType

namespace ServerRole

def names : List (String × ServerRole) := [("ROUTE", route), ("READ", read), ("WRITE", write)]

def decoder : Decoder ServerRole := Decoder.oneOf names

def toValue : ServerRole → Value
  | route => .string "ROUTE"
  | read => .string "READ"
  | write => .string "WRITE"

end ServerRole

namespace Hints

def record : Record Hints :=
  ((Record.pure mk).optional "telemetry.enabled" Decoder.boolean).optional
    "connection.recv_timeout_seconds" Decoder.int64

def decoder : Decoder Hints := record.decoder "Hints"

def toValue (hints : Hints) : Value :=
  .map (setEntries
    [("telemetry.enabled", hints.telemetryEnabled.map .boolean),
      ("connection.recv_timeout_seconds", hints.receiveTimeoutSeconds.map .integer)])

end Hints

namespace Stats

def counter {α : Type} (record : Record (Int64 → α)) (name : String) : Record α :=
  record.defaulted name Decoder.int64 0

def flag {α : Type} (record : Record (Bool → α)) (name : String) : Record α :=
  record.defaulted name Decoder.boolean false

def record : Record Stats :=
  let adding := counter (Record.pure mk) "constraints-added"
  let constraints := counter adding "constraints-removed"
  let indexes := counter (counter constraints "indexes-added") "indexes-removed"
  let labels := counter (counter indexes "labels-added") "labels-removed"
  let nodes := counter (counter labels "nodes-created") "nodes-deleted"
  let properties := counter nodes "properties-set"
  let relationships :=
    counter (counter properties "relationships-created") "relationships-deleted"
  let flags := flag (flag relationships "contains-updates") "contains-system-updates"
  counter flags "system-updates"

def decoder : Decoder Stats := record.decoder "Stats"

/-- The counters in the order in which they are shown. -/
def counters (stats : Stats) : List (String × Int64) :=
  [("constraints-added", stats.constraintsAdded),
    ("constraints-removed", stats.constraintsRemoved),
    ("indexes-added", stats.indexesAdded),
    ("indexes-removed", stats.indexesRemoved),
    ("labels-added", stats.labelsAdded),
    ("labels-removed", stats.labelsRemoved),
    ("nodes-created", stats.nodesCreated),
    ("nodes-deleted", stats.nodesDeleted),
    ("properties-set", stats.propertiesSet),
    ("relationships-created", stats.relationshipsCreated),
    ("relationships-deleted", stats.relationshipsDeleted),
    ("system-updates", stats.systemUpdates)]

def flags (stats : Stats) : List (String × Bool) :=
  [("contains-updates", stats.containsUpdates),
    ("contains-system-updates", stats.containsSystemUpdates)]

def toValue (stats : Stats) : Value :=
  .map (stats.counters.map (fun (name, count) => (name, .integer count)) ++
    stats.flags.map fun (name, set) => (name, .boolean set))

/-- The counters that are not zero and the flags that are set. -/
def text (stats : Stats) : String :=
  let counted := (stats.counters.filter fun (_, count) => count ≠ 0).map
    fun (name, count) => s!"{name}: {count.toInt}"
  let marked := (stats.flags.filter Prod.snd).map fun (name, _) => s!"{name}: true"
  ", ".intercalate (counted ++ marked)

end Stats

namespace Server

def record : Record Server :=
  ((Record.pure mk).required "addresses" (Decoder.sequence Decoder.text)).required
    "role" ServerRole.decoder

def decoder : Decoder Server := record.decoder "Server"

def toValue (server : Server) : Value :=
  .map [("addresses", .ofTexts server.addresses), ("role", server.role.toValue)]

end Server

namespace RoutingTable

def record : Record RoutingTable :=
  (((Record.pure mk).required "ttl" Decoder.int64).required "db" Decoder.text).required
    "servers" (Decoder.sequence Server.decoder)

def decoder : Decoder RoutingTable := record.decoder "RoutingTable"

def toValue (table : RoutingTable) : Value :=
  .map [("ttl", .integer table.ttl), ("db", .string table.db),
    ("servers", .list (table.servers.map Server.toValue))]

end RoutingTable

namespace SuccessMetadata

def record : Record SuccessMetadata :=
  let server := (Record.pure mk).optional "server" Decoder.text
  let connection := server.optional "connection_id" Decoder.text
  let hints := connection.optional "hints" Hints.decoder
  let fields := hints.optional "fields" (Decoder.sequence Decoder.text)
  let first := fields.optional "t_first" Decoder.int64
  let qid := first.optional "qid" Decoder.int64
  let more := qid.optional "has_more" Decoder.boolean
  let bookmark := more.optional "bookmark" Decoder.text
  let db := bookmark.optional "db" Decoder.text
  let notes := db.optional "notifications" (Decoder.sequence Decoder.properties)
  let plan := notes.optional "plan" Decoder.properties
  let profile := plan.optional "profile" Decoder.properties
  let stats := profile.optional "stats" Stats.decoder
  let last := stats.optional "t_last" Decoder.int64
  let kind := last.optional "type" StatementType.decoder
  kind.optional "rt" RoutingTable.decoder

def decoder : Decoder SuccessMetadata := record.decoder "SuccessMetadata"

def toValue (metadata : SuccessMetadata) : Value :=
  .map (setEntries
    [("server", metadata.server.map .string),
      ("connection_id", metadata.connectionId.map .string),
      ("hints", metadata.hints.map Hints.toValue),
      ("fields", metadata.fields.map .ofTexts),
      ("t_first", metadata.tFirst.map .integer),
      ("qid", metadata.qid.map .integer),
      ("has_more", metadata.hasMore.map .boolean),
      ("bookmark", metadata.bookmark.map .string),
      ("db", metadata.db.map .string),
      ("notifications", metadata.notifications.map fun notes => .list (notes.map .map)),
      ("plan", metadata.plan.map .map),
      ("profile", metadata.profile.map .map),
      ("stats", metadata.stats.map Stats.toValue),
      ("t_last", metadata.tLast.map .integer),
      ("type", metadata.statementType.map StatementType.toValue),
      ("rt", metadata.routingTable.map RoutingTable.toValue)])

/-- Whether records are left; not to say so means that there are none. -/
def streaming (metadata : SuccessMetadata) : Bool := metadata.hasMore.getD false

/-- The fields that are set, for readers; some are left out. -/
def text (metadata : SuccessMetadata) : String :=
  let parts : List (Option String) :=
    [metadata.server.map ("server: " ++ ·),
      metadata.connectionId.map ("connection_id: " ++ ·),
      metadata.fields.map fun fields => "fields: " ++ Quoted.quoteList fields,
      metadata.qid.map fun qid => s!"qid: {qid.toInt}",
      metadata.hasMore.map fun more => s!"has_more: {more}",
      metadata.bookmark.map ("bookmark: " ++ ·),
      metadata.db.map ("db: " ++ ·),
      metadata.stats.map fun stats => "stats: \x7b" ++ stats.text ++ "\x7d",
      metadata.tLast.map fun last => s!"t_last: {last.toInt}"]
  ", ".intercalate (parts.filterMap id)

end SuccessMetadata

namespace FailureMetadata

def record : Record FailureMetadata :=
  ((Record.pure mk).required "code" Decoder.text).required "message" Decoder.text

def decoder : Decoder FailureMetadata := record.decoder "FailureMetadata"

def toValue (metadata : FailureMetadata) : Value :=
  .map [("code", .string metadata.code), ("message", .string metadata.message)]

def text (metadata : FailureMetadata) : String :=
  s!"code: {metadata.code}, message: {metadata.message}"

end FailureMetadata
end BoltClient
