import BoltClient.Pool.Stock

/-!
The pool of one context as a state with commands. A request takes an idle
connection or has one made while there is room; otherwise it waits. A connection
that comes back goes to whoever has waited longest and is still there. Waiting
requests expire. After a shutdown nothing is lent any more.

While a connection is being made the pool takes no other command.
-/

namespace BoltClient

namespace Pool

/-- A request that waits, under a number of its own. -/
structure Waiter where
  id : UInt64
  ticket : Nat
  deriving DecidableEq, Repr

/-- Whether the pool takes commands, or for what it waits for a new connection. -/
inductive Activity where
  | ready
  | making (ticket : Nat)
  | refilling
  deriving DecidableEq, Repr

inductive Command (κ : Type) where
  | request (ticket : Nat)
  | giveBack (lent : Lent κ)
  | expire (id : UInt64)
  | shutdown (ticket : Nat)

/-- What a pool takes next: a command when it is ready, a new connection when it
waits for one. -/
inductive Event (κ : Type) where
  | command (command : Command κ)
  | made (connection : κ)

/-- What a pool does to the outside. -/
inductive Effect (κ : Type) where
  | reply (ticket : Nat) (result : Except PoolFault (Lent κ))
  | arm (id : UInt64)
  | disarm (id : UInt64)
  | make
  | stopped (ticket : Nat)

/-- What a pool can find out while it acts. -/
structure World (κ : Type) where
  isClosed : κ → Bool
  isDeparted : Nat → Bool

end Pool

structure Pool (κ : Type) where
  limit : Nat
  timeoutMillis : Nat
  stock : Pool.Stock κ
  waiting : List Pool.Waiter
  nextWaiter : UInt64
  terminated : Bool
  activity : Pool.Activity

namespace Pool

variable {κ : Type}

def start (context : ContextId) (limit timeoutMillis : Nat) : Pool κ :=
  ⟨limit, timeoutMillis, .empty context, [], 0, false, .ready⟩

/-- The fault of a request that has waited too long. -/
def timeout (pool : Pool κ) : PoolFault := .timeout (pool.timeoutMillis * Elapsed.nanosPerMilli)

/-- What a pool can offer to a request. -/
inductive Offer (κ : Type) where
  | lent (lent : Lent κ)
  | room
  | nothing

/-- Looks for a connection: an idle one first, then room for a new one. -/
def offer (world : World κ) (pool : Pool κ) : Offer κ × Pool κ :=
  if pool.terminated then (.nothing, pool)
  else match pool.stock.borrow world.isClosed with
    | (some lent, stock) => (.lent lent, { pool with stock })
    | (none, stock) =>
      (if stock.count < pool.limit then .room else .nothing, { pool with stock })

/-- Puts a connection that nobody took among the idle ones. -/
def shelve (pool : Pool κ) (lent : Lent κ) : Pool κ :=
  { pool with stock := (pool.stock.giveBack lent true).getD pool.stock }

/-- Hands a connection to a request, unless whoever asked has gone. -/
def hand (world : World κ) (pool : Pool κ) (ticket : Nat) (lent : Lent κ) :
    Pool κ × List (Effect κ) :=
  if world.isDeparted ticket then (pool.shelve lent, [])
  else (pool, [.reply ticket (.ok lent)])

/-- Lets a request wait behind those that wait already. -/
def enqueue (pool : Pool κ) (ticket : Nat) : Pool κ × List (Effect κ) :=
  ({ pool with
      waiting := pool.waiting ++ [⟨pool.nextWaiter, ticket⟩],
      nextWaiter := pool.nextWaiter + 1 },
    [.arm pool.nextWaiter])

def request (world : World κ) (pool : Pool κ) (ticket : Nat) : Pool κ × List (Effect κ) :=
  match pool.offer world with
  | (.lent lent, pool) => pool.hand world ticket lent
  | (.room, pool) => ({ pool with activity := .making ticket }, [.make])
  | (.nothing, pool) => pool.enqueue ticket

/-- Serves those who wait, in order, as long as there are connections; a connection
already at hand comes first. Whoever has gone is passed over. -/
def serve (world : World κ) (pool : Pool κ) (atHand : Option (Lent κ)) :
    List Waiter → Pool κ × List (Effect κ)
  | [] =>
    let pool := { pool with waiting := [], activity := .ready }
    (match atHand with
      | some lent => pool.shelve lent
      | none => pool, [])
  | waiter :: rest =>
    let (offer, pool) := match atHand with
      | some lent => (Offer.lent lent, pool)
      | none => pool.offer world
    match offer with
    | .lent lent =>
      let departed := world.isDeparted waiter.ticket
      let (pool, effects) := serve world pool (if departed then some lent else none) rest
      let reply := if departed then [] else [Effect.reply waiter.ticket (.ok lent)]
      (pool, .disarm waiter.id :: reply ++ effects)
    | .room => ({ pool with waiting := waiter :: rest, activity := .refilling }, [.make])
    | .nothing => ({ pool with waiting := waiter :: rest, activity := .ready }, [])

/-- Takes a connection back and serves those who wait. -/
def takeBack (world : World κ) (pool : Pool κ) (lent : Lent κ) : Pool κ × List (Effect κ) :=
  if pool.terminated then
    ({ pool with stock := (pool.stock.giveBack lent false).getD pool.stock }, [])
  else match pool.stock.giveBack lent (!world.isClosed lent.connection) with
    | none => (pool, [])
    | some stock => serve world { pool with stock } none pool.waiting

/-- Ends the wait of a request. One that waits no longer is not affected. -/
def expire (pool : Pool κ) (id : UInt64) : Pool κ × List (Effect κ) :=
  match pool.waiting.find? (·.id = id) with
  | none => (pool, [])
  | some waiter =>
    ({ pool with waiting := pool.waiting.filter (·.id ≠ id) },
      [.reply waiter.ticket (.error pool.timeout)])

def shutdown (pool : Pool κ) (ticket : Nat) : Pool κ × List (Effect κ) :=
  ({ pool with terminated := true, stock := pool.stock.drainIdle }, [.stopped ticket])

def obey (world : World κ) (pool : Pool κ) : Command κ → Pool κ × List (Effect κ)
  | .request ticket => pool.request world ticket
  | .giveBack lent => pool.takeBack world lent
  | .expire id => pool.expire id
  | .shutdown ticket => pool.shutdown ticket

/-- Takes a new connection for the request, or the waiting requests, that it was made for. -/
def takeMade (world : World κ) (pool : Pool κ) (connection : κ) : Pool κ × List (Effect κ) :=
  match pool.activity with
  | .ready => (pool, [])
  | .making ticket =>
    let (lent, stock) := pool.stock.register connection
    { pool with stock, activity := .ready }.hand world ticket lent
  | .refilling =>
    let (lent, stock) := pool.stock.register connection
    serve world { pool with stock } (some lent) pool.waiting

/-- What an event makes of a pool. A pool that waits for a new connection takes no command. -/
def step (world : World κ) (pool : Pool κ) : Event κ → Pool κ × List (Effect κ)
  | .command command => if pool.activity = .ready then pool.obey world command else (pool, [])
  | .made connection => pool.takeMade world connection

/-- Whether a connection may be given to this pool to take back. -/
def accepts (context : ContextId) (lent : Lent κ) : Except PoolFault Unit :=
  if lent.context = context then .ok () else .error (.otherContext lent.context context)

end Pool
end BoltClient
