import BoltClient.Connection.Basic
import BoltClient.Fault
import BoltClient.Settings.Basic

/-!
What a caller does on a connection, as a function of the replies that it has had.
With replies left to take it goes on; without them it says which request it would
send next. So a caller can be held, replayed and looked at without a connection,
and a loop over requests is a recursion over replies.
-/

namespace BoltClient

/-- The outcome of a request, and the published state in which the caller goes on. -/
structure Reply where
  outcome : Outcome
  state : ServerState

namespace Session

/-- Where a caller has got to. -/
inductive Progress (α : Type) where
  | finished (value : α) (state : ServerState) (rest : List Reply)
  | asks (request : Request)
  | waits

end Session

/-- A caller that starts in a published state and takes replies one by one. -/
def Session (α : Type) : Type := ServerState → List Reply → Session.Progress α

namespace Session

variable {α β : Type}

instance : Monad Session where
  pure value := fun state replies => .finished value state replies
  bind session next := fun state replies =>
    match session state replies with
    | .finished value state rest => next value state rest
    | .asks request => .asks request
    | .waits => .waits

/-- Sends a request and takes its outcome. -/
def ask (request : Request) : Session Outcome := fun _ replies =>
  match replies with
  | [] => .asks request
  | reply :: rest => .finished reply.outcome reply.state rest

/-- The published state. -/
def current : Session ServerState := fun state replies => .finished state state replies

/-- Waits until the connection has been opened or given up. -/
def awaitOpening : Session Unit := fun state replies =>
  if state = .disconnected then .waits else .finished () state replies

/-- A caller that may fail. -/
abbrev Attempt (α : Type) := ExceptT Fault Session α

/-- Sends a request and takes what it gives. -/
def perform (request : Request) : Attempt Request.Output := do
  match (← ask request).bind request.kind.output with
  | .ok output => return output
  | .error fault => throw (.protocol fault)

/-- Sends a request for what its summary says. -/
def metadata (request : Request) : Attempt SuccessMetadata := do
  match (← ask request).bind Response.metadata with
  | .ok metadata => return metadata
  | .error fault => throw (.protocol fault)

/-- Says goodbye. A peer that has already gone is no failure. -/
def goodbye : Attempt Request.Output := do
  match (← ask .goodbye) with
  | .error fault => if fault.isConnectionClosed then return .done else throw (.protocol fault)
  | .ok _ => return .done

/-- Sends what the connection needs before it can take a query. -/
def prepare (settings : SessionSettings) : Attempt Unit := do
  (awaitOpening : Session Unit)
  match ← (current : Session ServerState) with
  | .negotiation => do
    discard (metadata (.hello settings.client))
    discard (metadata (.logon settings.auth))
  | .authentication => discard (metadata (.logon settings.auth))
  | .failed | .interrupted => discard (metadata .reset)
  | .defunct => throw (.protocol .defunct)
  | _ => return ()

/-- A query with its parameters and options. -/
structure Query where
  text : String
  parameters : Entries Value := []
  options : TransactionOptions := {}

def Query.request (query : Query) : Request := .run query.text query.parameters query.options

/-- A result that has been taken whole. -/
structure QueryResult where
  fields : List String
  records : List (List Value)
  summary : SuccessMetadata

/-- Pulls until no records are left; answers all of them and the last summary. -/
def pullAll (qid : Option Int64) : List (List Value) → Attempt (List (List Value) × SuccessMetadata) :=
  fun gathered state replies => pullFrom gathered state replies
where
  pullFrom (gathered : List (List Value)) (_ : ServerState) : List Reply →
      Progress (Except Fault (List (List Value) × SuccessMetadata))
    | [] => .asks (.pull (.all qid))
    | reply :: rest =>
      match reply.outcome.bind Response.result with
      | .error fault => .finished (.error (.protocol fault)) reply.state rest
      | .ok (batch, summary) =>
        if summary.streaming then pullFrom (gathered ++ batch) reply.state rest
        else .finished (.ok (gathered ++ batch, summary)) reply.state rest

/-- Runs a query and takes every record. -/
def fetchAll (settings : SessionSettings) (query : Query) : Attempt QueryResult := do
  prepare settings
  let run ← metadata query.request
  let (records, summary) ← pullAll run.qid []
  return ⟨run.fields.getD [], records, summary⟩

/-- Runs a query and reads each of its rows; rows are read once all have been taken. -/
def runQuery (settings : SessionSettings) (query : Query) (read : Decoder α) :
    Attempt (List α) := do
  let result ← fetchAll settings query
  match result.records.mapM fun row => read (.list row) with
  | .ok rows => return rows
  | .error fault => throw (.codec fault)

/-- Runs a query for its effects and drops its records. -/
def execute (settings : SessionSettings) (query : Query) : Attempt SuccessMetadata := do
  prepare settings
  let run ← metadata query.request
  metadata (.discard (.all run.qid))

/-- Runs a body in a transaction of its own, and commits when the body succeeds.
When it fails, the transaction is rolled back unless the server has ended it, and
the failure of the body is the answer. The body also leaves a report. -/
def reportTransaction (settings : SessionSettings) (options : TransactionOptions)
    (body : Session (β × Except Fault α)) : Session (Option β × Except Fault α) := do
  let opening : Attempt Unit := do
    prepare settings
    discard (metadata (.begin options))
  match ← opening.run with
  | .error fault => return (none, .error fault)
  | .ok () =>
    let (report, result) ← body
    match result with
    | .ok value =>
      match ← (metadata .commit).run with
      | .ok _ => return (some report, .ok value)
      | .error fault => return (some report, .error fault)
    | .error fault =>
      if (← current).inTransaction then discard (metadata .rollback).run
      return (some report, .error fault)

/-- Runs a body in a transaction of its own. -/
def withinTransaction (settings : SessionSettings) (options : TransactionOptions)
    (body : Attempt α) : Attempt α :=
  ExceptT.mk do
    let (_, result) ← reportTransaction settings options ((fun result => ((), result)) <$> body.run)
    return result

end Session
end BoltClient
