/-!
The state of the server as a client tracks it.
-/

namespace BoltClient

inductive ServerState where
  | disconnected
  | defunct
  | negotiation
  | authentication
  | ready
  | streaming
  | txReady
  | txStreaming
  | failed
  | interrupted
  deriving DecidableEq, Repr

namespace ServerState

def all : List ServerState :=
  [disconnected, defunct, negotiation, authentication, ready, streaming, txReady, txStreaming,
    failed, interrupted]

/-- The state before anything is known of the server. -/
def start : ServerState := disconnected

def name : ServerState → String
  | disconnected => "DISCONNECTED"
  | defunct => "DEFUNCT"
  | negotiation => "NEGOTIATION"
  | authentication => "AUTHENTICATION"
  | ready => "READY"
  | streaming => "STREAMING"
  | txReady => "TX_READY"
  | txStreaming => "TX_STREAMING"
  | failed => "FAILED"
  | interrupted => "INTERRUPTED"

/-- No request leads out of a terminal state. -/
def isTerminal (state : ServerState) : Bool := state = defunct

def inTransaction (state : ServerState) : Bool := state = txReady || state = txStreaming

theorem mem_all (state : ServerState) : state ∈ all := by cases state <;> decide

end ServerState
end BoltClient
