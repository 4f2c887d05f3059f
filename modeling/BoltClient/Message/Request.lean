import BoltClient.Codec.Pack
import BoltClient.Message.Auth
import BoltClient.Message.Options
import BoltClient.Message.Response

/-!
The requests of a client. Each kind has a name, a signature, the states in which
it may be sent, and the state that follows each summary. A pair of state and
summary that the protocol never produces has no next state.
-/

namespace BoltClient

inductive Request.Kind where
  | hello
  | goodbye
  | logon
  | logoff
  | reset
  | telemetry
  | run
  | discard
  | pull
  | begin
  | commit
  | rollback
  | route
  deriving DecidableEq, Repr

namespace Request.Kind

open ServerState

def all : List Kind :=
  [hello, goodbye, logon, logoff, reset, telemetry, run, discard, pull, begin, commit, rollback,
    route]

theorem mem_all (kind : Kind) : kind ∈ all := by cases kind <;> decide

def name : Kind → String
  | hello => "HELLO"
  | goodbye => "GOODBYE"
  | logon => "LOGON"
  | logoff => "LOGOFF"
  | reset => "RESET"
  | telemetry => "TELEMETRY"
  | run => "RUN"
  | discard => "DISCARD"
  | pull => "PULL"
  | begin => "BEGIN"
  | commit => "COMMIT"
  | rollback => "ROLLBACK"
  | route => "ROUTE"

def signature : Kind → UInt8
  | hello => 0x01
  | goodbye => 0x02
  | logon => 0x6a
  | logoff => 0x6b
  | reset => 0x0f
  | telemetry => 0x54
  | run => 0x10
  | discard => 0x2f
  | pull => 0x3f
  | begin => 0x11
  | commit => 0x12
  | rollback => 0x13
  | route => 0x66

/-- The states in which a request may be sent. -/
def allowedStates : Kind → List ServerState
  | hello => [negotiation]
  | goodbye | reset => [ready, streaming, txReady, txStreaming, failed, interrupted]
  | logon => [authentication]
  | logoff | route => [ready, failed]
  | telemetry => [ready]
  | run => [ready, txReady, txStreaming, failed, interrupted]
  | discard | pull => [streaming, txStreaming, failed, interrupted]
  | begin => [ready, failed, interrupted]
  | commit | rollback => [txReady, failed, interrupted]

def isAllowed (kind : Kind) (state : ServerState) : Bool := kind.allowedStates.contains state

/-- A request that is ignored leaves a failed or interrupted server as it is. -/
def whenIgnored : ServerState → Option ServerState
  | failed => some failed
  | interrupted => some interrupted
  | _ => none

/-- Taking records: the stream goes on while more are left. -/
def whileStreaming : ServerState → Summary → Option ServerState
  | streaming, .success metadata => some (if metadata.streaming then streaming else ready)
  | txStreaming, .success metadata => some (if metadata.streaming then txStreaming else txReady)
  | streaming, .failure _ | txStreaming, .failure _ => some failed
  | state, .ignored => whenIgnored state
  | _, _ => none

/-- Ending a transaction. -/
def whenClosing : ServerState → Summary → Option ServerState
  | txReady, .success _ => some ready
  | txReady, .failure _ => some failed
  | state, .ignored => whenIgnored state
  | _, _ => none

/-- Running a query; inside a transaction its result must be named. -/
def whenRunning : ServerState → Summary → Option ServerState
  | ready, .success _ => some streaming
  | ready, .failure _ | txReady, .failure _ | txStreaming, .failure _ => some failed
  | txReady, .success metadata | txStreaming, .success metadata =>
    if metadata.qid.isSome then some txStreaming else none
  | state, .ignored => whenIgnored state
  | _, _ => none

def whenBeginning : ServerState → Summary → Option ServerState
  | _, .success _ => some txReady
  | ready, .failure _ => some failed
  | state, .ignored => whenIgnored state
  | _, _ => none

def whenRouting : ServerState → Summary → Option ServerState
  | ready, .success _ => some ready
  | ready, .failure _ | failed, .ignored => some failed
  | _, _ => none

/-- The state that a summary leads to from the state in which the request was sent. -/
def nextState (kind : Kind) (state : ServerState) (summary : Summary) : Option ServerState :=
  match kind with
  | hello | logoff => some (if summary.isSuccess then authentication else defunct)
  | logon | reset => some (if summary.isSuccess then ready else defunct)
  | goodbye => some defunct
  | telemetry => some (if summary.isSuccess then ready else failed)
  | run => whenRunning state summary
  | discard | pull => whileStreaming state summary
  | begin => whenBeginning state summary
  | commit | rollback => whenClosing state summary
  | route => whenRouting state summary

/-- What becomes of a state when a request is tried. -/
inductive Move where
  | refused
  | unreachable
  | to (state : ServerState)
  deriving DecidableEq, Repr

def move (kind : Kind) (state : ServerState) (summary : Summary) : Move :=
  if kind.isAllowed state then
    match kind.nextState state summary with
    | some next => .to next
    | none => .unreachable
  else .refused

/-- The state after a move; only a move that leads somewhere changes it. -/
def Move.after (state : ServerState) : Move → ServerState
  | .to next => next
  | _ => state

/-- Tries requests one after the other; answers every move and the last state. -/
def walk (state : ServerState) : List (Kind × Summary) → List Move × ServerState
  | [] => ([], state)
  | (kind, summary) :: rest =>
    let step := kind.move state summary
    let (moves, final) := walk (step.after state) rest
    (step :: moves, final)

end Request.Kind

inductive Request where
  | hello (client : ClientInfo)
  | goodbye
  | logon (auth : Auth)
  | logoff
  | reset
  | telemetry (use : ApiUse)
  | run (query : String) (parameters : Entries Value) (options : TransactionOptions)
  | discard (demand : Demand)
  | pull (demand : Demand)
  | begin (options : TransactionOptions)
  | commit
  | rollback
  | route (routing : Entries Value) (bookmarks : List String) (options : RouteOptions)

/-- What a request gives to its caller. -/
inductive Request.Output where
  | done
  | metadata (metadata : SuccessMetadata)
  | rows (records : List (List Value)) (metadata : SuccessMetadata)

namespace Request

def kind : Request → Kind
  | hello _ => .hello
  | goodbye => .goodbye
  | logon _ => .logon
  | logoff => .logoff
  | reset => .reset
  | telemetry _ => .telemetry
  | run .. => .run
  | discard _ => .discard
  | pull _ => .pull
  | begin _ => .begin
  | commit => .commit
  | rollback => .rollback
  | route .. => .route

def name (request : Request) : String := request.kind.name

/-- The fields of a request, in the order in which they travel. -/
def fields : Request → List Value
  | hello client => [client.toValue]
  | logon auth => [auth.toValue]
  | telemetry use => [use.toValue]
  | run query parameters options => [.string query, .map parameters, options.toValue]
  | discard demand | pull demand => [demand.toValue]
  | begin options => [options.toValue]
  | route routing bookmarks options => [.map routing, .ofTexts bookmarks, options.toValue]
  | goodbye | logoff | reset | commit | rollback => []

def toStructure (request : Request) : Structure := ⟨request.kind.signature, request.fields⟩

def toValue (request : Request) : Value := request.toStructure.toValue

/-- The request as the payload of one message. -/
def encode (request : Request) : Except CodecFault Bytes := request.toValue.encode

/-- What a whole answer gives to the caller of a request. -/
def Kind.output (kind : Kind) (response : Response) : Except ProtocolFault Output :=
  match kind with
  | .goodbye => .ok .done
  | .pull => response.result.map fun (records, metadata) => .rows records metadata
  | _ => response.metadata.map .metadata

end Request
end BoltClient
