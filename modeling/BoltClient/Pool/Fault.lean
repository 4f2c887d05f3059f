import BoltClient.Text.Elapsed

/-!
What can go wrong when a connection is borrowed from a pool or returned to it.
-/

namespace BoltClient

/-- The group member that a pool serves. -/
structure ContextId where
  index : Nat
  deriving DecidableEq, Repr

def ContextId.name (context : ContextId) : String := s!"context-{context.index}"

inductive PoolFault where
  | reported (text : String)
  | otherContext (held pool : ContextId)
  | unknownContext (context : ContextId)
  | noContexts
  | stopped
  | timeout (nanoseconds : Nat)
  deriving DecidableEq, Repr

namespace PoolFault

def isTimeout : PoolFault → Bool
  | timeout _ => true
  | _ => false

private def detail : PoolFault → String
  | reported text => text
  | otherContext held pool => s!"connection belongs to {held.name}, not {pool.name}"
  | unknownContext context => s!"unknown {context.name}"
  | noContexts => "group has no contexts"
  | stopped => "pool task has stopped"
  | timeout nanoseconds => s!"no connection became available within {Elapsed.text nanoseconds}"

def message (fault : PoolFault) : String :=
  (if fault.isTimeout then "Timeout: " else "Invalid state: ") ++ fault.detail

end PoolFault
end BoltClient
