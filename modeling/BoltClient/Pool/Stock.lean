import BoltClient.Pool.Fault

/-!
The connections of one context. Each connection that was ever registered has a
number; those that belong to the context are its members, and the idle ones among
them wait in a queue. A borrowed connection is a member that is not idle.
-/

namespace BoltClient.Pool

/-- A connection with its number and the context that it belongs to. -/
structure Lent (κ : Type) where
  id : UInt64
  context : ContextId
  connection : κ
  deriving DecidableEq

structure Stock (κ : Type) where
  context : ContextId
  idle : List (Lent κ)
  members : List UInt64
  nextId : UInt64

namespace Stock

variable {κ : Type}

def empty (context : ContextId) : Stock κ := ⟨context, [], [], 0⟩

def count (stock : Stock κ) : Nat := stock.members.length

def idleCount (stock : Stock κ) : Nat := stock.idle.length

def owns (stock : Stock κ) (id : UInt64) : Bool := stock.members.contains id

def forget (stock : Stock κ) (id : UInt64) : Stock κ :=
  { stock with members := stock.members.filter (· ≠ id) }

/-- Skips idle connections that are closed, which are members no longer, and takes
the first that is open. -/
def takeOpen (isClosed : κ → Bool) (members : List UInt64) :
    List (Lent κ) → Option (Lent κ) × List (Lent κ) × List UInt64
  | [] => (none, [], members)
  | lent :: rest =>
    if isClosed lent.connection then takeOpen isClosed (members.filter (· ≠ lent.id)) rest
    else (some lent, rest, members)

/-- Takes the open connection that has been idle longest. -/
def borrow (isClosed : κ → Bool) (stock : Stock κ) : Option (Lent κ) × Stock κ :=
  let (lent?, idle, members) := takeOpen isClosed stock.members stock.idle
  (lent?, { stock with idle, members })

/-- Makes a new connection a member and lends it. -/
def register (stock : Stock κ) (connection : κ) : Lent κ × Stock κ :=
  (⟨stock.nextId, stock.context, connection⟩,
    { stock with
      members := if stock.owns stock.nextId then stock.members else stock.members ++ [stock.nextId],
      nextId := stock.nextId + 1 })

/-- Takes a connection back. One of another context, or with a number that is no
member's, is not taken; one that cannot be used again is a member no longer. -/
def giveBack (stock : Stock κ) (lent : Lent κ) (reusable : Bool) : Option (Stock κ) :=
  if lent.context ≠ stock.context || !stock.owns lent.id then none
  else if reusable then some { stock with idle := stock.idle ++ [lent] }
  else some (stock.forget lent.id)

/-- Gives all idle connections away. -/
def drainIdle (stock : Stock κ) : Stock κ :=
  let idle := stock.idle.map Lent.id
  { stock with idle := [], members := stock.members.filter fun id => !idle.contains id }

end Stock
end BoltClient.Pool
