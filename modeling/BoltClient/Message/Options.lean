import BoltClient.Message.Metadata

/-!
What a client says along with its requests. Options that are unset are left out
of the map in which they travel.
-/

namespace BoltClient

/-- The name and version under which the client presents itself. -/
def productName : String := "bolt-driver/0.1.0"

/-- The software that speaks for the client. -/
structure Agent where
  product : String
  platform : Option String
  language : Option String
  languageDetails : Option String
  deriving DecidableEq

namespace Agent

def current : Agent := ⟨productName, some "linux; x86_64", some "Rust", none⟩

def toValue (agent : Agent) : Value :=
  .map (setEntries
    [("product", some (.string agent.product)),
      ("platform", agent.platform.map .string),
      ("language", agent.language.map .string),
      ("language_details", agent.languageDetails.map .string)])

end Agent

/-- How a client introduces itself. -/
structure ClientInfo where
  userAgent : String := productName
  patches : List String := []
  routing : Option (Entries String) := none
  minimumSeverity : Option String := none
  disabledCategories : Option (List String) := none
  agent : Agent := .current

def ClientInfo.toValue (client : ClientInfo) : Value :=
  .map (setEntries
    [("user_agent", some (.string client.userAgent)),
      ("patch_bolt", some (.ofTexts client.patches)),
      ("routing", client.routing.map fun entries =>
        .map (entries.map fun (key, text) => (key, .string text))),
      ("notifications_minimum_severity", client.minimumSeverity.map .string),
      ("notifications_disabled_categories", client.disabledCategories.map .ofTexts),
      ("bolt_agent", some client.agent.toValue)])

inductive AccessMode where
  | write
  | read
  deriving DecidableEq, Repr

def AccessMode.toValue : AccessMode → Value
  | write => .string "w"
  | read => .string "r"

/-- How a transaction or a query of its own is to be run. -/
structure TransactionOptions where
  bookmarks : List String := []
  timeout : Option Int64 := none
  metadata : Option (Entries Value) := none
  mode : Option AccessMode := none
  db : Option String := none
  user : Option String := none
  minimumSeverity : Option String := none
  disabledCategories : Option (List String) := none

def TransactionOptions.toValue (options : TransactionOptions) : Value :=
  .map (setEntries
    [("bookmarks", some (.ofTexts options.bookmarks)),
      ("tx_timeout", options.timeout.map .integer),
      ("tx_metadata", options.metadata.map .map),
      ("mode", options.mode.map AccessMode.toValue),
      ("db", options.db.map .string),
      ("imp_user", options.user.map .string),
      ("notifications_minimum_severity", options.minimumSeverity.map .string),
      ("notifications_disabled_categories", options.disabledCategories.map .ofTexts)])

/-- How many records of which result; a negative number asks for all of them. -/
structure Demand where
  count : Int64
  qid : Option Int64
  deriving DecidableEq

namespace Demand

/-- All records of a result, or of the last one. -/
def all (qid : Option Int64) : Demand := ⟨-1, qid⟩

def toValue (demand : Demand) : Value :=
  .map (setEntries [("n", some (.integer demand.count)), ("qid", demand.qid.map .integer)])

end Demand

/-- For which database and for whom a routing table is wanted. -/
structure RouteOptions where
  db : Option String := none
  user : Option String := none

def RouteOptions.toValue (options : RouteOptions) : Value :=
  .map (setEntries [("db", options.db.map .string), ("imp_user", options.user.map .string)])

/-- Which way of using the library a client reports. -/
inductive ApiUse where
  | managedTransaction
  | explicitTransaction
  | implicitTransaction
  | direct
  deriving DecidableEq, Repr

namespace ApiUse

def all : List ApiUse := [managedTransaction, explicitTransaction, implicitTransaction, direct]

def number : ApiUse → Nat
  | managedTransaction => 0
  | explicitTransaction => 1
  | implicitTransaction => 2
  | direct => 3

def toValue (use : ApiUse) : Value := .ofInt use.number

end ApiUse
end BoltClient
