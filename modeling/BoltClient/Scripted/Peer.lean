import BoltClient.Connection.Basic

/-!
A peer that follows a script, for trying out a connection. It reads the handshake
and then requests, and does for each of them what the script says next; when the
script says nothing it stays silent.
-/

namespace BoltClient.Scripted

/-- What a peer does to the stream. -/
inductive Action where
  | message (value : Value)
  | payload (bytes : Bytes)
  | raw (bytes : Bytes)
  | close

/-- What a peer has read. -/
inductive Received where
  | handshake (bytes : Bytes)
  | request (value : Value)

structure Peer where
  present : Bool
  greeted : Bool
  greeting : List Action
  replies : List (List Action)
  unread : Bytes
  received : List Received

namespace Peer

/-- A peer that answers the handshake by `greeting`. -/
def ready (greeting : List Action) : Peer := ⟨true, false, greeting, [], [], []⟩

/-- A peer that has gone before anything is said. -/
def gone : Peer := ⟨false, false, [], [], [], []⟩

/-- The bytes that an action puts on the stream. -/
def Action.bytes : Action → Bytes
  | .message value => match value.encode with
    | .ok payload => Framing.frame payload
    | .error _ => []
  | .payload bytes => Framing.frame bytes
  | .raw bytes => bytes
  | .close => []

/-- Does actions in order; answers what the other side notices. -/
def act (peer : Peer) : List Action → Peer × List Connection.Event
  | [] => (peer, [])
  | .close :: _ => ({ peer with present := false }, [.hangUp .closed])
  | action :: rest =>
    let (peer, events) := act peer rest
    (peer, .receive (Action.bytes action) :: events)

/-- Actions of a peer that is there; one that has gone does nothing. -/
def actIfPresent (peer : Peer) (actions : List Action) : Peer × List Connection.Event :=
  if peer.present then peer.act actions else (peer, [])

/-- Reads the handshake or the next request, if it is there, and acts on it. -/
def read? (peer : Peer) : Option (Peer × List Connection.Event) :=
  if !peer.present then none
  else if peer.greeted then do
    let (message, unread) ← Framing.readMessage peer.unread
    let value := (Value.decodeExact message).toOption.getD .null
    let peer := { peer with unread, received := peer.received ++ [Received.request value] }
    return { peer with replies := peer.replies.tail }.act (peer.replies.headD [])
  else do
    let (handshake, unread) ← Bytes.split? 20 peer.unread
    let received := peer.received ++ [Received.handshake handshake]
    return { peer with unread, received, greeted := true }.act peer.greeting

end Peer
end BoltClient.Scripted
