import BoltClient.Pool.Basic
import BoltClient.Pool.Group

/-!
Groups of pools and those who borrow from them, played on a clock of whole
milliseconds. Making a connection takes a fixed time, in which its pool takes no
command; the commands wait in the order in which they were given. Whatever can
happen without the passing of time has happened after each deed.
-/

namespace BoltClient.Scripted

/-- A stand-in for a connection: its number within its group, in the order of
making, and the context that it was made for. -/
structure Stub where
  group : Nat
  serial : Nat
  madeFor : ContextId
  deriving DecidableEq, Repr

/-- Where a pool is: its group, and its context there. -/
structure Place where
  group : Nat
  context : ContextId
  deriving DecidableEq, Repr

/-- What happens when its moment has come. -/
inductive Alarm where
  | expiry (place : Place) (id : UInt64)
  | completion (place : Place)
  deriving DecidableEq, Repr

/-- A pool and the commands that it has not taken yet. -/
structure Desk where
  place : Place
  pool : Pool Stub
  commands : List (Pool.Command Stub)

/-- What whoever gave a command is told. -/
inductive Answer where
  | borrowed (result : Except PoolFault (Pool.Lent Stub))
  | stopped

/-- What became of a borrow that was started under a name. -/
inductive Slot where
  | asked (ticket : Nat)
  | returned
  | dropped
  | cancelled
  deriving DecidableEq, Repr

/-- The clock with its alarms, the pools with the number of connections that each
group has made, and what borrowers were told, have given up and have started. -/
structure Lending where
  makingMillis : Nat
  now : Nat
  groups : List Pool.Group
  desks : List Desk
  serials : List Nat
  spoiled : List (Nat × Nat)
  alarms : List (Nat × Alarm)
  tickets : Nat
  answers : List (Nat × Answer)
  departed : List Nat
  slots : List (String × Slot)

namespace Lending

/-- Groups of equal pools that have lent nothing yet. -/
def start (groups contexts limit timeoutMillis makingMillis : Nat) : Lending where
  makingMillis
  now := 0
  groups := List.replicate groups (.ofContexts contexts)
  desks := (List.range groups).flatMap fun group =>
    (List.range contexts).map fun index =>
      ⟨⟨group, ⟨index⟩⟩, .start ⟨index⟩ limit timeoutMillis, []⟩
  serials := List.replicate groups 0
  spoiled := []
  alarms := []
  tickets := 0
  answers := []
  departed := []
  slots := []

def isClosed (lending : Lending) (stub : Stub) : Bool :=
  lending.spoiled.contains (stub.group, stub.serial)

def world (lending : Lending) : Pool.World Stub :=
  ⟨lending.isClosed, lending.departed.contains⟩

/-! What happens by itself. -/

def setAlarm (lending : Lending) (delay : Nat) (alarm : Alarm) : Lending :=
  { lending with alarms := lending.alarms ++ [(lending.now + delay, alarm)] }

def tell (lending : Lending) (ticket : Nat) (answer : Answer) : Lending :=
  { lending with answers := (ticket, answer) :: lending.answers }

def carryOut (place : Place) (timeoutMillis : Nat) (lending : Lending) :
    Pool.Effect Stub → Lending
  | .reply ticket result => lending.tell ticket (.borrowed result)
  | .stopped ticket => lending.tell ticket .stopped
  | .arm id => lending.setAlarm timeoutMillis (.expiry place id)
  | .disarm id =>
    { lending with alarms := lending.alarms.filter (·.2 ≠ .expiry place id) }
  | .make => lending.setAlarm lending.makingMillis (.completion place)

def replace (lending : Lending) (desk : Desk) : Lending :=
  { lending with
    desks := lending.desks.map fun other =>
      if other.place = desk.place then desk else other }

/-- Lets an event happen to the pool of a desk. -/
def happen (lending : Lending) (desk : Desk) (event : Pool.Event Stub) : Lending :=
  let (pool, effects) := desk.pool.step lending.world event
  effects.foldl (carryOut desk.place pool.timeoutMillis)
    (lending.replace { desk with pool })

def deskAt? (lending : Lending) (place : Place) : Option Desk :=
  lending.desks.find? (·.place = place)

/-- Puts a command behind those that a pool has not taken yet. -/
def post (lending : Lending) (place : Place) (command : Pool.Command Stub) : Lending :=
  match lending.deskAt? place with
  | some desk => lending.replace { desk with commands := desk.commands ++ [command] }
  | none => lending

/-- The next connection of a group, which counts as made from now on. -/
def makeStub (lending : Lending) (place : Place) : Stub × Lending :=
  (⟨place.group, lending.serials.getD place.group 0, place.context⟩,
    { lending with serials := lending.serials.modify place.group (· + 1) })

def ring (lending : Lending) : Alarm → Lending
  | .expiry place id => lending.post place (.expire id)
  | .completion place =>
    match lending.deskAt? place with
    | some desk =>
      let (stub, lending) := lending.makeStub place
      lending.happen desk (.made stub)
    | none => lending

/-- Lets the first pool that is ready and has a command take it. -/
def takeCommand? (lending : Lending) : List Desk → Option Lending
  | [] => none
  | desk :: rest =>
    match desk.pool.activity, desk.commands with
    | .ready, command :: commands =>
      some (lending.happen { desk with commands } (.command command))
    | _, _ => takeCommand? lending rest

/-- The next thing that happens without the passing of time: alarms whose moment has
come go before commands. -/
def tick? (lending : Lending) : Option Lending :=
  match lending.alarms.find? (·.1 ≤ lending.now) with
  | some alarm => some ({ lending with alarms := lending.alarms.erase alarm }.ring alarm.2)
  | none => lending.takeCommand? lending.desks

/-- Enough for all that can still happen. A command is taken once, and makes one
connection at most for its request; a waiting request has one connection made and
expires once. -/
def budget (lending : Lending) : Nat :=
  let load := lending.desks.foldl (fun load desk =>
    load + desk.commands.length + desk.pool.waiting.length) lending.alarms.length
  4 * (load + 1)

def settleWithin : Nat → Lending → Lending
  | 0, lending => lending
  | fuel + 1, lending =>
    match lending.tick? with
    | some next => settleWithin fuel next
    | none => lending

/-- Lets everything happen that happens without the passing of time. -/
def settle (lending : Lending) : Lending := settleWithin lending.budget lending

/-- The moment of the alarm that rings first. -/
def nextMoment? (lending : Lending) : Option Nat := (lending.alarms.map Prod.fst).min?

def advanceWithin : Nat → Nat → Lending → Lending
  | 0, moment, lending => { lending with now := moment }
  | fuel + 1, moment, lending =>
    match lending.nextMoment? with
    | some next =>
      if next ≤ moment then advanceWithin fuel moment { lending with now := next }.settle
      else { lending with now := moment }
    | none => { lending with now := moment }

/-- Lets time pass; what is due happens at its moment. -/
def advance (lending : Lending) (milliseconds : Nat) : Lending :=
  let lending := lending.settle
  advanceWithin lending.budget (lending.now + milliseconds) lending

def awaitWithin (ticket : Nat) : Nat → Lending → Option Answer × Lending
  | 0, lending => (lending.answers.lookup ticket, lending)
  | fuel + 1, lending =>
    match lending.answers.lookup ticket, lending.nextMoment? with
    | none, some moment => awaitWithin ticket fuel { lending with now := moment }.settle
    | answer?, _ => (answer?, lending)

/-- Lets time pass until a ticket is answered. -/
def await (lending : Lending) (ticket : Nat) : Option Answer × Lending :=
  let lending := lending.settle
  awaitWithin ticket lending.budget lending

/-! What borrowers do. -/

inductive Deed where
  | request (name : String) (place : Place)
  | giveBack (name : String) (group : Nat)
  | giveBackTo (name : String) (place : Place)
  | drop (name : String)
  | cancel (name : String)
  | spoil (group serial : Nat)
  | advance (milliseconds : Nat)
  | useOnce (place : Place) (failure : Option String) (spoils : Bool)
  | shutdown (place : Place)
  | shutdownGroup (group : Nat)
  | takeTurn (group : Nat)
  | find (place : Place)
  | count (group : Nat)

inductive Result where
  | nothing
  | done
  | notHeld
  | wasHeld (held : Bool)
  | serial (serial : Nat)
  | turn (context : ContextId)
  | found (context : ContextId)
  | size (contexts : Nat) (empty : Bool)
  | failed (fault : PoolFault)

def Result.ofExcept : Except PoolFault Unit → Result
  | .ok () => done
  | .error fault => failed fault

/-- How a borrow that was started under a name stands. -/
inductive Standing where
  | waiting
  | held (lent : Pool.Lent Stub) (closed : Bool)
  | failed (fault : PoolFault)
  | returned
  | dropped
  | cancelled

def standing (lending : Lending) : Slot → Standing
  | .asked ticket =>
    match lending.answers.lookup ticket with
    | some (.borrowed (.ok lent)) => .held lent (lending.isClosed lent.connection)
    | some (.borrowed (.error fault)) => .failed fault
    | _ => .waiting
  | .returned => .returned
  | .dropped => .dropped
  | .cancelled => .cancelled

/-- How all borrows stand that were started under a name. -/
def standings (lending : Lending) : List (String × Standing) :=
  lending.slots.map fun (name, slot) => (name, lending.standing slot)

/-- The connection that is held under a name. -/
def held? (lending : Lending) (name : String) : Option (Pool.Lent Stub) :=
  match (lending.slots.lookup name).map lending.standing with
  | some (.held lent _) => some lent
  | _ => none

def setSlot (lending : Lending) (name : String) (slot : Slot) : Lending :=
  { lending with slots := lending.slots.filter (·.1 ≠ name) ++ [(name, slot)] }

/-- Ends a name that no borrow was started under as if something had been held. -/
def markUnknown (lending : Lending) (name : String) (slot : Slot) : Lending :=
  if (lending.slots.lookup name).isSome then lending else lending.setSlot name slot

def groupAt (lending : Lending) (group : Nat) : Pool.Group :=
  lending.groups.getD group (.ofContexts 0)

/-- Asks for a connection; the answer comes under a ticket. -/
def ask (lending : Lending) (place : Place) : Nat × Lending :=
  let ticket := lending.tickets
  let lending := { lending with tickets := ticket + 1 }
  (ticket, match (lending.groupAt place.group).find place.context with
    | .ok _ => lending.post place (.request ticket)
    | .error fault => lending.tell ticket (.borrowed (.error fault)))

/-- Hands a held connection to a pool. A pool that refuses it loses it. -/
def giveBack (lending : Lending) (name : String) (lent : Pool.Lent Stub) (place : Place) :
    Result × Lending :=
  match (lending.groupAt place.group).find place.context with
  | .error fault => (.failed fault, lending)
  | .ok _ =>
    let lending := lending.setSlot name .returned
    match Pool.accepts place.context lent with
    | .ok () => (.done, lending.post place (.giveBack lent))
    | .error fault => (.failed fault, lending)

/-- Hands what is held under a name to a pool that depends on it. -/
def giveBackHeld (lending : Lending) (name : String) (place : Pool.Lent Stub → Place) :
    Result × Lending :=
  match lending.held? name with
  | some lent => lending.giveBack name lent (place lent)
  | none => (.notHeld, lending.markUnknown name .returned)

def spoil (lending : Lending) (group serial : Nat) : Lending :=
  { lending with spoiled := (group, serial) :: lending.spoiled }

/-- Borrows a connection for as long as it takes to look at its number. -/
def useOnce (lending : Lending) (place : Place) (failure : Option String) (spoils : Bool) :
    Result × Lending :=
  let (ticket, lending) := lending.ask place
  match lending.await ticket with
  | (some (.borrowed (.ok lent)), lending) =>
    let stub := lent.connection
    let lending := if spoils then lending.spoil stub.group stub.serial else lending
    (failure.elim (.serial stub.serial) fun text => .failed (.reported text),
      lending.post place (.giveBack lent))
  | (some (.borrowed (.error fault)), lending) => (.failed fault, lending)
  | (_, lending) => (.failed .stopped, lending)

/-- Shuts one pool down and waits until it has stopped lending. -/
def shutdown (lending : Lending) (place : Place) : Except PoolFault Unit × Lending :=
  match (lending.groupAt place.group).find place.context with
  | .error fault => (.error fault, lending)
  | .ok _ =>
    let ticket := lending.tickets
    let lending := { lending with tickets := ticket + 1 }.post place (.shutdown ticket)
    match lending.await ticket with
    | (some _, lending) => (.ok (), lending)
    | (none, lending) => (.error .stopped, lending)

/-- Shuts pools down one after the other, up to the first that fails. -/
def shutdownAll (lending : Lending) : List Place → Except PoolFault Unit × Lending
  | [] => (.ok (), lending)
  | place :: rest =>
    match lending.shutdown place with
    | (.ok (), lending) => lending.shutdownAll rest
    | (.error fault, lending) => (.error fault, lending)

def cancel (lending : Lending) (name : String) : Lending :=
  match lending.slots.lookup name with
  | some (.asked ticket) =>
    match lending.standing (.asked ticket) with
    | .waiting =>
      { lending with departed := ticket :: lending.departed }.setSlot name .cancelled
    | _ => lending
  | _ => lending

/-- Does a deed, before anything follows from it. -/
def act (lending : Lending) : Deed → Result × Lending
  | .request name place =>
    let (ticket, lending) := lending.ask place
    (.nothing, lending.setSlot name (.asked ticket))
  | .giveBack name group => lending.giveBackHeld name fun lent => ⟨group, lent.context⟩
  | .giveBackTo name place => lending.giveBackHeld name fun _ => place
  | .drop name =>
    match lending.held? name with
    | some _ => (.wasHeld true, lending.setSlot name .dropped)
    | none => (.wasHeld false, lending.markUnknown name .dropped)
  | .cancel name => (.nothing, lending.cancel name)
  | .spoil group serial => (.nothing, lending.spoil group serial)
  | .advance milliseconds => (.nothing, lending.advance milliseconds)
  | .useOnce place failure spoils => lending.useOnce place failure spoils
  | .shutdown place =>
    let (result, lending) := lending.shutdown place
    (.ofExcept result, lending)
  | .shutdownGroup group =>
    let places := (List.range (lending.groupAt group).contexts).map fun index =>
      Place.mk group ⟨index⟩
    let (result, lending) := lending.shutdownAll places
    (.ofExcept result, lending)
  | .takeTurn group =>
    let (result, turned) := (lending.groupAt group).any
    (match result with
      | .ok context => .turn context
      | .error fault => .failed fault,
      { lending with groups := lending.groups.set group turned })
  | .find place =>
    (match (lending.groupAt place.group).find place.context with
      | .ok context => .found context
      | .error fault => .failed fault, lending)
  | .count group =>
    let group := lending.groupAt group
    (.size group.contexts group.isEmpty, lending)

/-- Does a deed, and lets everything happen that follows at once. -/
def perform (lending : Lending) (deed : Deed) : Result × Lending :=
  let (result, lending) := lending.act deed
  (result, lending.settle)

end Lending
end BoltClient.Scripted
