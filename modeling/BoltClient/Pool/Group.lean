import BoltClient.Pool.Fault

/-!
A group of pools, one per context, and the choice of one of them. A caller that
does not care takes them in turn.
-/

namespace BoltClient.Pool

/-- How many contexts a group has, and how often one of them was taken in turn. -/
structure Group where
  contexts : Nat
  turns : UInt64
  deriving DecidableEq, Repr

namespace Group

def ofContexts (contexts : Nat) : Group := ⟨contexts, 0⟩

def isEmpty (group : Group) : Bool := group.contexts = 0

/-- A context that the group has. -/
def find (group : Group) (context : ContextId) : Except PoolFault ContextId :=
  if context.index < group.contexts then .ok context else .error (.unknownContext context)

/-- The context whose turn it is. -/
def any (group : Group) : Except PoolFault ContextId × Group :=
  if group.isEmpty then (.error .noContexts, group)
  else (.ok ⟨group.turns.toNat % group.contexts⟩, { group with turns := group.turns + 1 })

end Group
end BoltClient.Pool
