import BoltClient.Codec.Fault
import BoltClient.Protocol.State

/-!
What can go wrong on a connection. A transport fault is a broken stream; a
protocol fault is what a request may answer, with a category, a detail for
readers and a message that joins the two.
-/

namespace BoltClient

/-- Why a stream cannot be used. -/
inductive TransportFault.Kind where
  | unexpectedEnd
  | connectionReset
  | connectionAborted
  | brokenPipe
  | notConnected
  | other
  deriving DecidableEq, Repr

structure TransportFault where
  kind : TransportFault.Kind
  text : String
  deriving DecidableEq, Repr

namespace TransportFault

/-- The stream ended before the bytes that were wanted. -/
def earlyEnd : TransportFault := ⟨.unexpectedEnd, "early eof"⟩

/-- The peer takes no more bytes. -/
def brokenPipe : TransportFault := ⟨.brokenPipe, "broken pipe"⟩

/-- Whether the stream was there and is lost. -/
def isLoss (fault : TransportFault) : Bool := fault.kind ≠ .other

end TransportFault

/-- Stable categories of protocol faults. -/
inductive ProtocolFault.Kind where
  | generic
  | connectionClosed
  | notValidResponse
  | forbidden
  | failed (code message : String)
  | ignored
  | handshakeFailed
  | codec (kind : CodecFault.Kind)
  | transport
  deriving DecidableEq, Repr

namespace ProtocolFault.Kind

def name : Kind → String
  | generic => "Generic"
  | connectionClosed => "ConnectionClosed"
  | notValidResponse => "NotValidResponse"
  | forbidden => "Forbidden"
  | failed .. => "Failed"
  | ignored => "Ignored"
  | handshakeFailed => "HandshakeFailed"
  | codec kind => "Codec." ++ kind.name
  | transport => "Io"

def text : Kind → String
  | generic => "Generic error."
  | connectionClosed => "The connection is closed."
  | notValidResponse => "The response sent from server is not valid."
  | forbidden => "The operation is forbidden in the current state."
  | failed code message =>
    s!"The server has reported a failure outcome. code: {code}, message: {message}"
  | ignored => "The server has ignored the request."
  | handshakeFailed => "Unable to negotiate a compatible Bolt version."
  | codec kind => "Codec error: " ++ kind.text
  | transport => "I/O error."

end ProtocolFault.Kind

/-- A cause for which a connection cannot be opened or a request not be served. -/
inductive ProtocolFault where
  | reported (kind : ProtocolFault.Kind) (detail : Option String)
  | codec (fault : CodecFault)
  | transport (fault : TransportFault)
  | failed (code message : String)
  | ignored
  | forbidden (request : String) (state : ServerState)
  | noTransition (request : String) (state : ServerState) (summary : String)
  | notStructure (found : String)
  | unknownResponse (signature : UInt8)
  | candidateCount (limit count : Nat)
  | noCommonVersion
  | truncatedAnswer (fault : TransportFault)
  | connectionLost (detail : String)
  | shutDown
  | terminated (request : String)
  | defunct
  deriving DecidableEq, Repr

namespace ProtocolFault

def kind : ProtocolFault → Kind
  | reported kind _ => kind
  | codec fault => .codec fault.kind
  | transport fault => if fault.isLoss then .connectionClosed else .transport
  | failed code message => .failed code message
  | ignored => .ignored
  | forbidden .. => .forbidden
  | noTransition .. => .generic
  | notStructure _ | unknownResponse _ => .notValidResponse
  | candidateCount .. | noCommonVersion | truncatedAnswer _ => .handshakeFailed
  | connectionLost _ | shutDown | terminated _ | defunct => .connectionClosed

def detail : ProtocolFault → Option String
  | reported _ detail => detail
  | codec fault => fault.detail
  | transport fault => some fault.text
  | failed .. | ignored => none
  | forbidden request state => some s!"{request} is not allowed in state {state.name}"
  | noTransition request state summary =>
    some s!"No transition for {request} from state {state.name} on {summary}"
  | notStructure found => some s!"expected a structure, found {found}"
  | unknownResponse signature =>
    some s!"unknown response signature {CodecFault.hexByte signature}"
  | candidateCount limit count =>
    some s!"Between 1 and {limit} candidate versions are required, got {count}"
  | noCommonVersion => some "The server does not support any of the proposed versions"
  | truncatedAnswer fault => some s!"Failed to read the negotiated version: {fault.text}"
  | connectionLost detail =>
    some s!"The connection to the server was unexpectedly closed: {detail}"
  | shutDown => some "The connection to the server has been shut down"
  | terminated request => some s!"Cannot send {request}, the connection is terminated"
  | defunct => some "The connection is defunct"

def message (fault : ProtocolFault) : String :=
  match fault.detail with
  | some detail => fault.kind.text ++ " " ++ detail
  | none => fault.kind.text

def isConnectionClosed (fault : ProtocolFault) : Bool := fault.kind = .connectionClosed

def isForbidden (fault : ProtocolFault) : Bool := fault.kind = .forbidden

/-- The code and the message of a failure that the server reported. -/
def failure? (fault : ProtocolFault) : Option (String × String) :=
  match fault.kind with
  | .failed code message => some (code, message)
  | _ => none

end ProtocolFault
end BoltClient
