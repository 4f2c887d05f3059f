import BoltClient.Codec.Unpack
import BoltClient.Message.Labelled
import BoltClient.Message.Request
import BoltClient.Wire.Framing
import BoltClient.Wire.Handshake

/-!
One connection as a state with events. Requests wait in a queue and are served in
order, one at a time: a request is written when its turn comes, and messages are
read until its summary arrives. What has become of a connection is published before
the answer that changed it is given. Once a connection is defunct it reads and
writes nothing more.
-/

namespace BoltClient

/-- What anyone may see of a connection. -/
structure Status where
  state : ServerState
  version : Option Version
  deriving DecidableEq, Repr

/-- How a stream ends for its reader. -/
inductive StreamEnd where
  | closed
  | failed (fault : TransportFault)
  deriving DecidableEq, Repr

/-- The fault of reading on behind the end. -/
def StreamEnd.fault : StreamEnd → TransportFault
  | closed => .earlyEnd
  | failed fault => fault

/-- How much of what is written reaches the stream. -/
inductive Delivery where
  | whole
  | cut (count : Nat) (fault : TransportFault)
  deriving DecidableEq, Repr

/-- An answer as it is given to whoever waits for it. -/
abbrev Outcome := Except ProtocolFault Response

namespace Connection

/-- A request that waits for its turn. -/
structure Queued where
  ticket : Nat
  kind : Request.Kind
  payload : Bytes
  deriving DecidableEq

/-- What a connection is at. An idle one may watch for its peer to go away. -/
inductive Phase where
  | connecting
  | negotiating
  | idle (watching : Bool)
  | serving (ticket : Nat) (kind : Request.Kind)
  | closing
  | stopped
  deriving DecidableEq

/-- What a connection does to the outside. -/
inductive Effect where
  | write (bytes : Bytes)
  | publish (status : Status)
  | answer (ticket : Nat) (outcome : Outcome)

/-- What happens to a connection. The first five come from outside: requests,
the opening of the stream, and its bytes and end. The others are its own steps. -/
inductive Event where
  | submit (ticket : Nat) (request : Request)
  | opened (delivery : Delivery)
  | unreachable (fault : TransportFault)
  | receive (bytes : Bytes)
  | hangUp (ending : StreamEnd)
  | take (delivery : Delivery)
  | poll
  | drain

end Connection

structure Connection where
  versions : List Version
  phase : Connection.Phase
  status : Status
  queue : List Connection.Queued
  incoming : Bytes
  ending : Option StreamEnd
  gathered : Gathered

namespace Connection

def start (versions : List Version) : Connection :=
  ⟨versions, .connecting, ⟨.start, none⟩, [], [], none, []⟩

def state (connection : Connection) : ServerState := connection.status.state

def isClosed (connection : Connection) : Bool :=
  connection.state.isTerminal || connection.phase = .stopped

def setState (connection : Connection) (state : ServerState) : Connection :=
  { connection with status := { connection.status with state } }

/-- The end of a connection; what still waits is refused next. -/
def close (connection : Connection) : Connection :=
  { connection.setState .defunct with phase := .closing }

/-- The effect of making known what a connection has become. -/
def announce (connection : Connection) : Effect := .publish connection.status

/-- Ends a connection while no request is in flight. -/
def abandon (connection : Connection) : Connection × List Effect :=
  (connection.close, [connection.close.announce])

/-- The effect of writing: what reaches the stream, and the fault if not all does. -/
def send (bytes : Bytes) : Delivery → List Effect × Option TransportFault
  | .whole => ([.write bytes], none)
  | .cut count fault => ([.write (bytes.take count)], some fault)

/-- Accepts a request into the queue. One that cannot be packed is refused, and so
is any request to a connection that has stopped. -/
def submit (connection : Connection) (ticket : Nat) (request : Request) :
    Connection × List Effect :=
  match request.encode with
  | .error fault => (connection, [.answer ticket (.error (.codec fault))])
  | .ok payload =>
    if connection.phase = .stopped then
      (connection, [.answer ticket (.error (.terminated request.name))])
    else ({ connection with queue := connection.queue ++ [⟨ticket, request.kind, payload⟩] }, [])

/-- Sends the handshake over a stream that has just been opened. -/
def greet (connection : Connection) (delivery : Delivery) : Connection × List Effect :=
  match Handshake.request connection.versions with
  | .error _ => connection.abandon
  | .ok request =>
    match send request delivery with
    | (effects, some _) =>
      let (connection, announced) := connection.abandon
      (connection, effects ++ announced)
    | (effects, none) => ({ connection with phase := .negotiating }, effects)

/-- Reads the answer to the handshake. -/
def negotiate (connection : Connection) : Connection × List Effect :=
  match Handshake.readAnswer? connection.incoming, connection.ending with
  | some (.ok (version, rest)), _ =>
    let connection := { connection with
      phase := .idle true, status := ⟨.negotiation, some version⟩, incoming := rest }
    (connection, [connection.announce])
  | some (.error _), _ => connection.abandon
  | none, some _ => connection.abandon
  | none, none => (connection, [])

/-- Ends the connection with an answer to the request in flight. -/
def fail (connection : Connection) (ticket : Nat) (fault : ProtocolFault) :
    Connection × List Effect :=
  (connection.close, [connection.close.announce, .answer ticket (.error fault)])

/-- Ends the connection because its stream is lost. -/
def lose (connection : Connection) (ticket : Nat) (fault : TransportFault) :
    Connection × List Effect :=
  connection.fail ticket (.connectionLost fault.text)

/-- Gives the whole answer to the request in flight. A summary that leads nowhere
ends the connection, and so does a state that is terminal. -/
def finish (connection : Connection) (ticket : Nat) (kind : Request.Kind) (response : Response) :
    Connection × List Effect :=
  match kind.nextState connection.state response.summary with
  | none =>
    connection.fail ticket (.noTransition kind.name connection.state response.summary.labelled)
  | some next =>
    let phase := if next.isTerminal then Phase.closing else .idle true
    let connection := { connection.setState next with phase }
    (connection, [connection.announce, .answer ticket (.ok response)])

/-- Takes one message of the answer to the request in flight. -/
def takeMessage (connection : Connection) (ticket : Nat) (kind : Request.Kind) (message : Bytes) :
    Connection × List Effect :=
  match Value.decodeExact message with
  | .error fault => connection.fail ticket (.codec fault)
  | .ok value =>
    match connection.gathered.push value with
    | (.error fault, _) => connection.fail ticket fault
    | (.ok none, gathered) => ({ connection with gathered }, [])
    | (.ok (some response), gathered) =>
      { connection with gathered }.finish ticket kind response

/-- Reads on for the request in flight. -/
def readOn (connection : Connection) (ticket : Nat) (kind : Request.Kind) :
    Connection × List Effect :=
  match Framing.readMessage connection.incoming, connection.ending with
  | some (message, rest), _ =>
    { connection with incoming := rest }.takeMessage ticket kind message
  | none, some ending => connection.lose ticket ending.fault
  | none, none => (connection, [])

/-- Looks after the peer while idle. Bytes that nobody asked for stay for the next
answer and end the watch; the end of the stream ends the connection. -/
def watch (connection : Connection) : Connection × List Effect :=
  if !connection.incoming.isEmpty then ({ connection with phase := .idle false }, [])
  else if connection.ending.isSome then connection.abandon
  else (connection, [])

/-- Serves the next request: refuses it in the wrong state, and writes it otherwise. -/
def serve (connection : Connection) (next : Queued) (rest : List Queued) (delivery : Delivery) :
    Connection × List Effect :=
  let connection := { connection with queue := rest }
  if next.kind.isAllowed connection.state then
    match send (Framing.frame next.payload) delivery with
    | (effects, none) => ({ connection with phase := .serving next.ticket next.kind }, effects)
    | (effects, some fault) =>
      let (connection, answers) := connection.lose next.ticket fault
      (connection, effects ++ answers)
  else
    ({ connection with phase := .idle true },
      [.answer next.ticket (.error (.forbidden next.kind.name connection.state))])

/-- Refuses all that waits and accepts nothing more. -/
def drain (connection : Connection) : Connection × List Effect :=
  ({ connection with phase := .stopped, queue := [] },
    connection.queue.map fun queued => .answer queued.ticket (.error .shutDown))

/-- What an event makes of a connection. An event that does not fit the phase changes nothing. -/
def step (connection : Connection) : Event → Connection × List Effect
  | .submit ticket request => connection.submit ticket request
  | .opened delivery =>
    if connection.phase = .connecting then connection.greet delivery else (connection, [])
  | .unreachable _ =>
    if connection.phase = .connecting then connection.abandon else (connection, [])
  | .receive bytes =>
    if connection.ending.isSome then (connection, [])
    else ({ connection with incoming := connection.incoming ++ bytes }, [])
  | .hangUp ending =>
    ({ connection with ending := some (connection.ending.getD ending) }, [])
  | .take delivery =>
    match connection.phase, connection.queue with
    | .idle _, next :: rest => connection.serve next rest delivery
    | _, _ => (connection, [])
  | .poll =>
    match connection.phase with
    | .negotiating => connection.negotiate
    | .idle true => connection.watch
    | .serving ticket kind => connection.readOn ticket kind
    | _ => (connection, [])
  | .drain => if connection.phase = .closing then connection.drain else (connection, [])

/-- The effects of events that happen one after the other, and where they lead. -/
def run (connection : Connection) : List Event → Connection × List Effect
  | [] => (connection, [])
  | event :: rest =>
    let (connection, effects) := connection.step event
    let (connection, later) := connection.run rest
    (connection, effects ++ later)

/-- The step that a connection makes by itself, unless it has to wait. Requests
come before the peer. -/
def nextEvent? (connection : Connection) (delivery : Delivery) : Option Event :=
  let ended := connection.ending.isSome
  match connection.phase with
  | .connecting | .stopped => none
  | .closing => some .drain
  | .negotiating =>
    if ended || (Handshake.readAnswer? connection.incoming).isSome then some .poll else none
  | .serving .. =>
    if ended || (Framing.readMessage connection.incoming).isSome then some .poll else none
  | .idle watching =>
    if !connection.queue.isEmpty then some (.take delivery)
    else if watching && (ended || !connection.incoming.isEmpty) then some .poll
    else none

end Connection
end BoltClient
