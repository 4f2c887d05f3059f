import BoltClient.Message.Request
import BoltClient.Typed.Datum

/-!
Requests as data. What travels as a map presents itself as a record, without the fields that
are unset; the caller's parameters present themselves entry by entry; and credentials present
those parameters that do not collide with the scheme, and the scheme behind them.
-/

namespace BoltClient

namespace Datum

/-- The fields that are set. -/
def setFields (fields : List (String × Option Datum)) : List (String × Datum) :=
  fields.filterMap fun (name, content?) => content?.map fun content => (name, content)

/-- A record with those of its fields that are set. -/
def ofFields (name : String) (fields : List (String × Option Datum)) : Datum :=
  record name (setFields fields)

/-- A field that may be unset. -/
def optional {α : Type} (present : α → Datum) (content? : Option α) : Option Datum :=
  content?.map fun content => .present (present content)

def ofTexts (texts : List String) : Datum := sequence (texts.map text)

end Datum

open Datum (ofFields optional)

def Agent.presented (agent : Agent) : Datum :=
  ofFields "BoltAgent"
    [("product", some (.text agent.product)),
      ("platform", optional .text agent.platform),
      ("language", optional .text agent.language),
      ("language_details", optional .text agent.languageDetails)]

def ClientInfo.presented (client : ClientInfo) : Datum :=
  ofFields "HelloExtra"
    [("user_agent", some (.text client.userAgent)),
      ("patch_bolt", some (.ofTexts client.patches)),
      ("routing", optional (fun entries => .ofEntries (entries.map fun (key, text) =>
        (.text key, .text text))) client.routing),
      ("notifications_minimum_severity", optional .text client.minimumSeverity),
      ("notifications_disabled_categories", optional .ofTexts client.disabledCategories),
      ("bolt_agent", some client.agent.presented)]

def Auth.presented (auth : Auth) : Datum :=
  .map (Datum.stepsOfEntries (auth.parameters.filter fun (key, _) => key ≠ schemeKey) ++
    [(.key, .text schemeKey), (.item, .text auth.scheme)])

def AccessMode.presented : AccessMode → Datum
  | write => .unitVariant "w"
  | read => .unitVariant "r"

def TransactionOptions.presented (options : TransactionOptions) : Datum :=
  ofFields "BeginExtra"
    [("bookmarks", some (.ofTexts options.bookmarks)),
      ("tx_timeout", optional (fun limit => .integer limit.toInt) options.timeout),
      ("tx_metadata", optional (fun entries => .ofValue (.map entries)) options.metadata),
      ("mode", optional AccessMode.presented options.mode),
      ("db", optional .text options.db),
      ("imp_user", optional .text options.user),
      ("notifications_minimum_severity", optional .text options.minimumSeverity),
      ("notifications_disabled_categories", optional .ofTexts options.disabledCategories)]

def Demand.presented (demand : Demand) : Datum :=
  ofFields "PullExtra"
    [("n", some (.integer demand.count.toInt)),
      ("qid", optional (fun qid => .integer qid.toInt) demand.qid)]

def RouteOptions.presented (options : RouteOptions) : Datum :=
  ofFields "RouteExtra"
    [("db", optional .text options.db), ("imp_user", optional .text options.user)]

def ApiUse.presented (use : ApiUse) : Datum := .integer use.number

namespace Request

/-- The fields of a request as data, in the order in which they are written. -/
def presented : Request → List Datum
  | hello client => [client.presented]
  | logon auth => [auth.presented]
  | telemetry use => [use.presented]
  | run query parameters options => [.text query, .ofValue (.map parameters), options.presented]
  | discard demand | pull demand => [demand.presented]
  | begin options => [options.presented]
  | route routing bookmarks options =>
    [.ofValue (.map routing), .ofTexts bookmarks, options.presented]
  | goodbye | logoff | reset | commit | rollback => []

/-- The structure that is written field by field. -/
def write (request : Request) : Except CodecFault Structure := do
  let fields ← Datum.itemsToValues request.presented
  return ⟨request.kind.signature, fields⟩

end Request
end BoltClient
