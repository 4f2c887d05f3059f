import BoltClient.Scripted.Peer
import BoltClient.Session.Basic

/-!
A connection, a scripted peer and callers, played without the passing of time. The
connection goes on until it has to wait; then every caller that has been answered
goes on; and when none can, the peer does. So it continues until nothing moves. A
caller that is not answered by then will not be.
-/

namespace BoltClient.Scripted

structure Stage where
  connection : Connection
  peer : Peer
  obstacle : Option TransportFault
  answers : List (Nat × Outcome)
  tickets : Nat

namespace Stage

/-- Before the stream is opened. With an obstacle it cannot be. -/
def start (versions : List Version) (peer : Peer) (obstacle : Option TransportFault) : Stage :=
  ⟨.start versions, peer, obstacle, [], 0⟩

def state (stage : Stage) : ServerState := stage.connection.state

/-- Whether what the connection writes arrives. -/
def delivery (stage : Stage) : Delivery :=
  if stage.peer.present then .whole else .cut 0 .brokenPipe

def record (stage : Stage) : Connection.Effect → Stage
  | .write bytes => { stage with peer := { stage.peer with unread := stage.peer.unread ++ bytes } }
  | .publish _ => stage
  | .answer ticket outcome => { stage with answers := (ticket, outcome) :: stage.answers }

/-- Lets an event happen to the connection. -/
def happen (stage : Stage) (event : Connection.Event) : Stage :=
  let (connection, effects) := stage.connection.step event
  effects.foldl record { stage with connection }

def happenAll (stage : Stage) (events : List Connection.Event) : Stage := events.foldl happen stage

/-- Opens the stream, or finds that it cannot be opened. -/
def openingEvent (stage : Stage) : Connection.Event :=
  match stage.obstacle with
  | some fault => .unreachable fault
  | none => .opened stage.delivery

/-- The next step of the connection by itself. -/
def ownTick? (stage : Stage) : Option Stage :=
  if stage.connection.phase = .connecting then some (stage.happen stage.openingEvent)
  else (stage.connection.nextEvent? stage.delivery).map stage.happen

/-- The next step of the peer. -/
def peerTick? (stage : Stage) : Option Stage :=
  stage.peer.read?.map fun (peer, events) => { stage with peer }.happenAll events

/-- The next thing that happens by itself, first in the connection and then at its peer. -/
def tick? (stage : Stage) : Option Stage :=
  match stage.ownTick? with
  | some next => some next
  | none => stage.peerTick?

/-- Enough ticks for all bytes, requests and actions that are about. -/
def budget (stage : Stage) : Nat :=
  let script := (stage.peer.greeting :: stage.peer.replies).flatten
  let bytes := (script.flatMap Peer.Action.bytes).length + stage.connection.incoming.length +
    stage.peer.unread.length
  16 + 4 * (bytes + script.length + stage.peer.replies.length + stage.connection.queue.length)

/-- Takes steps of one kind until there are none. -/
def goOn (tick? : Stage → Option Stage) : Nat → Stage → Stage
  | 0, stage => stage
  | fuel + 1, stage =>
    match tick? stage with
    | some next => goOn tick? fuel next
    | none => stage

/-- Lets everything happen that happens by itself. -/
def settle (stage : Stage) : Stage := stage.goOn tick? stage.budget

end Stage

/-- A caller in the middle of what it does. -/
structure Caller (α : Type) where
  program : Session α
  start : ServerState
  replies : List Reply
  ticket : Option Nat
  result : Option α

namespace Caller

variable {α : Type}

def enter (program : Session α) : Caller α := ⟨program, .start, [], none, none⟩

/-- Takes the answer to the request in flight. -/
def hear (caller : Caller α) (stage : Stage) : Option (Caller α) := do
  let ticket ← caller.ticket
  let outcome ← stage.answers.lookup ticket
  let reply := ⟨outcome, stage.state⟩
  return { caller with replies := caller.replies ++ [reply], ticket := none }

/-- Takes one step; `none` when the caller has ended or has to wait. -/
def step? (caller : Caller α) (stage : Stage) : Option (Caller α × Stage) :=
  let fresh := caller.replies.isEmpty && caller.ticket.isNone
  let caller := if fresh then { caller with start := stage.state } else caller
  if caller.result.isSome then none
  else if caller.ticket.isSome then (caller.hear stage).map fun caller => (caller, stage)
  else match caller.program caller.start caller.replies with
    | .finished value _ _ => some ({ caller with result := some value }, stage)
    | .waits => none
    | .asks request =>
      some ({ caller with ticket := some stage.tickets },
        { stage with tickets := stage.tickets + 1 }.happen (.submit stage.tickets request))

def advanceWithin : Nat → Caller α → Stage → Caller α × Stage
  | 0, caller, stage => (caller, stage)
  | fuel + 1, caller, stage =>
    match caller.step? stage with
    | some (caller, stage) => advanceWithin fuel caller stage
    | none => (caller, stage)

end Caller

namespace Stage

variable {α : Type}

/-- Lets every caller go on, in order. -/
def advance (stage : Stage) (fuel : Nat) : List (Caller α) → List (Caller α) × Stage
  | [] => ([], stage)
  | caller :: rest =>
    let (caller, stage) := caller.advanceWithin fuel stage
    let (others, stage) := stage.advance fuel rest
    (caller :: others, stage)

def playWithin : Nat → Nat → List (Caller α) → Stage → List (Caller α) × Stage
  | 0, _, callers, stage => (callers, stage)
  | rounds + 1, fuel, callers, stage =>
    let (callers, stage) := stage.advance fuel callers
    let stage := stage.goOn ownTick? stage.budget
    if callers.any fun caller => (caller.step? stage).isSome then
      playWithin rounds fuel callers stage
    else match stage.peerTick? with
      | some stage => playWithin rounds fuel callers stage
      | none => (callers, stage)

/-- Plays callers that begin together against a peer with the replies `script`;
answers what each of them gives. What is left of the script is dropped. -/
def play (stage : Stage) (script : List (List Action)) (programs : List (Session α)) :
    List (Option α) × Stage :=
  let stage := { stage with peer := { stage.peer with replies := script } }
  let rounds := stage.budget + 4 * programs.length
  let (callers, stage) := playWithin rounds rounds (programs.map Caller.enter) stage
  (callers.map Caller.result,
    { stage with peer := { stage.peer with replies := [] }, answers := [] })

/-- The peer acts by itself. -/
def peerActs (stage : Stage) (actions : List Action) : Stage :=
  let (peer, events) := stage.peer.actIfPresent actions
  ({ stage with peer }.happenAll events).settle

/-- The state that the next borrower finds when the connection goes back to its pool.
A closed connection is not lent again: a fresh one takes its place. -/
def stateForNext (stage fresh : Stage) : ServerState :=
  if stage.connection.isClosed then fresh.settle.state else stage.state

/-- What the peer has read since the last time it was asked. -/
def takeReceived (stage : Stage) : List Received × Stage :=
  (stage.peer.received, { stage with peer := { stage.peer with received := [] } })

end Stage
end BoltClient.Scripted
