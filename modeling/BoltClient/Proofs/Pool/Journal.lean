import BoltClient.Pool.Basic

/-!
What is to be seen of a pool at work. Every event leaves a note: which request has
to wait, who was called of those that waited, what was answered, and which
connections came back or were made. A journal lists the notes of a run in order.
What a pool can find out may be different at each event, so connections close and
those who asked go away whenever they like.
-/

namespace BoltClient.Pool

variable {κ : Type}

@[simp] def Effect.reply? : Effect κ → Option (Nat × Except PoolFault (Lent κ))
  | reply ticket result => some (ticket, result)
  | arm _ | disarm _ | make | stopped _ => none

@[simp] def Effect.armed? : Effect κ → Option UInt64
  | arm id => some id
  | reply _ _ | disarm _ | make | stopped _ => none

@[simp] def Effect.isDisarm : Effect κ → Bool
  | disarm _ => true
  | reply _ _ | arm _ | make | stopped _ => false

def repliesOf (effects : List (Effect κ)) : List (Nat × Except PoolFault (Lent κ)) :=
  effects.filterMap Effect.reply?

/-- The connections that are lent with answers. -/
def lentOf (replies : List (Nat × Except PoolFault (Lent κ))) : List (Lent κ) :=
  replies.filterMap fun (_, result) => result.toOption

/-- Who a connection is lent to with answers. -/
def borrowersOf (replies : List (Nat × Except PoolFault (Lent κ))) : List Nat :=
  replies.filterMap fun (ticket, result) => result.toOption.map fun _ => ticket

/-- Those of the waiting requests that are called, in order; each has its timer stopped. -/
def called (waiting : List Waiter) (effects : List (Effect κ)) : List Waiter :=
  waiting.take (effects.countP Effect.isDisarm)

section Effects

variable {effects : List (Effect κ)}

@[simp] theorem repliesOf_reply (ticket : Nat) (result : Except PoolFault (Lent κ)) :
    repliesOf (.reply ticket result :: effects) = (ticket, result) :: repliesOf effects := rfl

@[simp] theorem repliesOf_disarm (id : UInt64) :
    repliesOf (.disarm id :: effects) = repliesOf effects := rfl

@[simp] theorem called_nil (waiting : List Waiter) :
    called waiting ([] : List (Effect κ)) = [] := rfl

@[simp] theorem called_make (waiting : List Waiter) :
    called waiting [(.make : Effect κ)] = [] := rfl

@[simp] theorem called_disarm (waiter : Waiter) (waiting : List Waiter) (id : UInt64) :
    called (waiter :: waiting) (.disarm id :: effects) = waiter :: called waiting effects := by
  rw [called, List.countP_cons_of_pos rfl, List.take_succ_cons, called]

@[simp] theorem called_reply (waiting : List Waiter) (ticket : Nat)
    (result : Except PoolFault (Lent κ)) :
    called waiting (.reply ticket result :: effects) = called waiting effects := by
  rw [called, List.countP_cons_of_neg Bool.false_ne_true, called]

end Effects

/-- What is to be seen of one event. -/
structure Notes (κ : Type) where
  /-- the request that waits from now on -/
  queued : List Waiter := []
  /-- the requests whose wait ended with a connection -/
  handed : List Waiter := []
  /-- the requests that were passed over, since whoever asked had gone -/
  passed : List Waiter := []
  /-- the requests that have waited too long -/
  expired : List Waiter := []
  replies : List (Nat × Except PoolFault (Lent κ)) := []
  /-- the connection that came back -/
  returned : List (Lent κ) := []
  /-- the connection that was made -/
  made : List κ := []

def Notes.lent (seen : Notes κ) : List (Lent κ) := lentOf seen.replies

def Notes.borrowers (seen : Notes κ) : List Nat := borrowersOf seen.replies

/-- The notes of serving those that wait. -/
def Notes.ofService (world : World κ) (waiting : List Waiter) (effects : List (Effect κ)) :
    Notes κ where
  handed := (called waiting effects).filter fun waiter => !world.isDeparted waiter.ticket
  passed := (called waiting effects).filter fun waiter => world.isDeparted waiter.ticket
  replies := repliesOf effects

/-- An event, and what the pool can find out when it happens. -/
structure Moment (κ : Type) where
  world : World κ
  event : Event κ

abbrev Journal (κ : Type) := List (Notes κ)

/-- What is to be seen of an event that happens to a pool. -/
def notes (pool : Pool κ) (world : World κ) (event : Event κ) : Notes κ :=
  let effects := (pool.step world event).2
  { Notes.ofService world pool.waiting effects with
    queued := match event with
      | .command (.request ticket) => (effects.filterMap Effect.armed?).map fun id => ⟨id, ticket⟩
      | _ => []
    expired := match event with
      | .command (.expire id) =>
        if pool.activity = .ready then pool.waiting.filter (·.id = id) else []
      | _ => []
    returned := match event with
      | .command (.giveBack lent) => if pool.activity = .ready then [lent] else []
      | _ => []
    made := match event with
      | .made connection => if pool.activity = .ready then [] else [connection]
      | _ => [] }

/-- What events make of a pool, one after the other. -/
def run (pool : Pool κ) : List (Moment κ) → Pool κ
  | [] => pool
  | moment :: rest => run (pool.step moment.world moment.event).1 rest

/-- The notes of events that happen one after the other. -/
def journal (pool : Pool κ) : List (Moment κ) → Journal κ
  | [] => []
  | moment :: rest =>
    pool.notes moment.world moment.event ::
      journal (pool.step moment.world moment.event).1 rest

theorem run_append (pool : Pool κ) (first second : List (Moment κ)) :
    pool.run (first ++ second) = (pool.run first).run second := by
  induction first generalizing pool with
  | nil => rfl
  | cons moment rest ih => exact ih _

theorem journal_append (pool : Pool κ) (first second : List (Moment κ)) :
    pool.journal (first ++ second) = pool.journal first ++ (pool.run first).journal second := by
  induction first generalizing pool with
  | nil => rfl
  | cons moment rest ih => exact congrArg (List.cons _) (ih _)

/-- The journals that a pool can have, with what it has become. -/
inductive Reached (context : ContextId) (limit timeoutMillis : Nat) :
    Journal κ → Pool κ → Prop where
  | start : Reached context limit timeoutMillis [] (.start context limit timeoutMillis)
  | step {journal : Journal κ} {pool : Pool κ} : Reached context limit timeoutMillis journal pool →
      (world : World κ) → (event : Event κ) →
      Reached context limit timeoutMillis (journal ++ [pool.notes world event])
        (pool.step world event).1

theorem Reached.append {context : ContextId} {limit timeoutMillis : Nat} {journal : Journal κ}
    {pool : Pool κ} (reached : Reached context limit timeoutMillis journal pool)
    (moments : List (Moment κ)) :
    Reached context limit timeoutMillis (journal ++ pool.journal moments) (pool.run moments) := by
  induction moments generalizing journal pool with
  | nil => simpa [Pool.journal, run] using reached
  | cons moment rest ih =>
    have later := ih (reached.step moment.world moment.event)
    rwa [List.append_assoc] at later

/-- Every run has a journal. -/
theorem reached_run (context : ContextId) (limit timeoutMillis : Nat) (moments : List (Moment κ)) :
    Reached context limit timeoutMillis ((start context limit timeoutMillis).journal moments)
      ((start context limit timeoutMillis).run moments) :=
  Reached.start.append moments

end BoltClient.Pool
