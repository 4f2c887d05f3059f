import BoltClient.Message.Response
import BoltClient.Value.Labelled

/-!
Summaries as labelled text, with every field of their metadata, set or not. So a summary is
told to those who look for the cause when it leads nowhere.
-/

namespace BoltClient

open Labelled

def StatementType.labelled : StatementType → String
  | readOnly => "ReadOnly"
  | writeOnly => "WriteOnly"
  | readWrite => "ReadWrite"
  | schema => "Schema"

def ServerRole.labelled : ServerRole → String
  | route => "Route"
  | read => "Read"
  | write => "Write"

def Hints.labelled (hints : Hints) : String :=
  named "Hints"
    [("telemetry_enabled", option (hints.telemetryEnabled.map toString)),
      ("connection_recv_timeout_seconds",
        option (hints.receiveTimeoutSeconds.map fun seconds => toString seconds.toInt))]

def Stats.labelled (stats : Stats) : String :=
  named "Stats"
    [("constraints_added", toString stats.constraintsAdded.toInt),
      ("constraints_removed", toString stats.constraintsRemoved.toInt),
      ("indexes_added", toString stats.indexesAdded.toInt),
      ("indexes_removed", toString stats.indexesRemoved.toInt),
      ("labels_added", toString stats.labelsAdded.toInt),
      ("labels_removed", toString stats.labelsRemoved.toInt),
      ("nodes_created", toString stats.nodesCreated.toInt),
      ("nodes_deleted", toString stats.nodesDeleted.toInt),
      ("properties_set", toString stats.propertiesSet.toInt),
      ("relationships_created", toString stats.relationshipsCreated.toInt),
      ("relationships_deleted", toString stats.relationshipsDeleted.toInt),
      ("contains_updates", toString stats.containsUpdates),
      ("contains_system_updates", toString stats.containsSystemUpdates),
      ("system_updates", toString stats.systemUpdates.toInt)]

def Server.labelled (server : Server) : String :=
  named "Server"
    [("addresses", Quoted.quoteList server.addresses), ("role", server.role.labelled)]

def RoutingTable.labelled (table : RoutingTable) : String :=
  named "RoutingTable"
    [("ttl", toString table.ttl.toInt), ("db", Quoted.quote table.db),
      ("servers", sequence (table.servers.map Server.labelled))]

namespace SuccessMetadata

def labelledProperties (properties : Entries Value) : String :=
  entries (Value.labelledEntries properties)

def labelled (metadata : SuccessMetadata) : String :=
  let number (field : Option Int64) := option (field.map fun number => toString number.toInt)
  let text (field : Option String) := option (field.map Quoted.quote)
  named "SuccessMetadata"
    [("server", text metadata.server),
      ("connection_id", text metadata.connectionId),
      ("hints", option (metadata.hints.map Hints.labelled)),
      ("fields", option (metadata.fields.map Quoted.quoteList)),
      ("t_first", number metadata.tFirst),
      ("qid", number metadata.qid),
      ("has_more", option (metadata.hasMore.map toString)),
      ("bookmark", text metadata.bookmark),
      ("db", text metadata.db),
      ("notifications",
        option (metadata.notifications.map fun notes => sequence (notes.map labelledProperties))),
      ("plan", option (metadata.plan.map labelledProperties)),
      ("profile", option (metadata.profile.map labelledProperties)),
      ("stats", option (metadata.stats.map Stats.labelled)),
      ("t_last", number metadata.tLast),
      ("statement_type", option (metadata.statementType.map StatementType.labelled)),
      ("rt", option (metadata.routingTable.map RoutingTable.labelled))]

end SuccessMetadata

def FailureMetadata.labelled (metadata : FailureMetadata) : String :=
  named "FailureMetadata"
    [("code", Quoted.quote metadata.code), ("message", Quoted.quote metadata.message)]

def Summary.labelled : Summary → String
  | success metadata => part "Success" metadata.labelled
  | failure metadata => part "Failure" metadata.labelled
  | ignored => "Ignored"

end BoltClient
