import BoltClient.Proofs.Pool.Journal
import BoltClient.Proofs.Pool.Stock

/-!
What one event can do to a pool. `Serving` follows the waiting requests one by one,
as long as there are connections, and each rule of `Stride` is one way in which an
event can go. `step_stride` says that every event goes one of these ways, so an
invariant is shown rule by rule and the step is not opened again.
-/

namespace BoltClient.Pool

variable {κ : Type}

/-- How the waiting requests are served, a connection at hand first. -/
inductive Serving (world : World κ) :
    Pool κ → Option (Lent κ) → List Waiter → Pool κ → List (Effect κ) → Prop where
  | done (pool : Pool κ) :
    Serving world pool none [] { pool with waiting := [], activity := .ready } []
  /-- nobody is left who would take the connection at hand -/
  | shelve (pool : Pool κ) (lent : Lent κ) :
    Serving world pool (some lent) []
      ({ pool with waiting := [], activity := .ready }.shelve lent) []
  | pass {pool after : Pool κ} {lent : Lent κ} {waiter : Waiter} {rest : List Waiter}
    {effects : List (Effect κ)} (departed : world.isDeparted waiter.ticket = true)
    (later : Serving world pool (some lent) rest after effects) :
    Serving world pool (some lent) (waiter :: rest) after (.disarm waiter.id :: effects)
  | hand {pool after : Pool κ} {lent : Lent κ} {waiter : Waiter} {rest : List Waiter}
    {effects : List (Effect κ)} (present : world.isDeparted waiter.ticket = false)
    (later : Serving world pool none rest after effects) :
    Serving world pool (some lent) (waiter :: rest) after
      (.disarm waiter.id :: .reply waiter.ticket (.ok lent) :: effects)
  /-- an idle connection comes to hand -/
  | fetch {pool after : Pool κ} {stock : Stock κ} {lent : Lent κ} {waiter : Waiter}
    {rest : List Waiter} {effects : List (Effect κ)} (going : pool.terminated = false)
    (found : pool.stock.borrow world.isClosed = (some lent, stock))
    (later : Serving world { pool with stock } (some lent) (waiter :: rest) after effects) :
    Serving world pool none (waiter :: rest) after effects
  /-- a connection is made for those who wait -/
  | refill {pool : Pool κ} {stock : Stock κ} (waiter : Waiter) (rest : List Waiter)
    (going : pool.terminated = false)
    (missing : pool.stock.borrow world.isClosed = (none, stock))
    (room : stock.count < pool.limit) :
    Serving world pool none (waiter :: rest)
      { pool with stock, waiting := waiter :: rest, activity := .refilling } [.make]
  | full {pool : Pool κ} {stock : Stock κ} (waiter : Waiter) (rest : List Waiter)
    (going : pool.terminated = false)
    (missing : pool.stock.borrow world.isClosed = (none, stock))
    (enough : pool.limit ≤ stock.count) :
    Serving world pool none (waiter :: rest)
      { pool with stock, waiting := waiter :: rest, activity := .ready } []
  /-- a pool that is shut down does not serve -/
  | stopped {pool : Pool κ} (waiter : Waiter) (rest : List Waiter)
    (terminated : pool.terminated = true) :
    Serving world pool none (waiter :: rest)
      { pool with waiting := waiter :: rest, activity := .ready } []

section Offer

variable {world : World κ} {pool : Pool κ} {stock : Stock κ}

theorem offer_stopped (terminated : pool.terminated = true) :
    pool.offer world = (.nothing, pool) := by
  simp [offer, terminated]

theorem offer_found {lent : Lent κ} (going : pool.terminated = false)
    (found : pool.stock.borrow world.isClosed = (some lent, stock)) :
    pool.offer world = (.lent lent, { pool with stock }) := by
  simp [offer, going, found]

theorem offer_room (going : pool.terminated = false)
    (missing : pool.stock.borrow world.isClosed = (none, stock))
    (room : stock.count < pool.limit) : pool.offer world = (.room, { pool with stock }) := by
  simp [offer, going, missing, room]

theorem offer_full (going : pool.terminated = false)
    (missing : pool.stock.borrow world.isClosed = (none, stock))
    (enough : pool.limit ≤ stock.count) : pool.offer world = (.nothing, { pool with stock }) := by
  simp [offer, going, missing, Nat.not_lt.2 enough]

end Offer

theorem serving_atHand {world : World κ} {rest : List Waiter}
    (later : ∀ (pool : Pool κ) (atHand : Option (Lent κ)),
      Serving world pool atHand rest (serve world pool atHand rest).1
        (serve world pool atHand rest).2)
    (pool : Pool κ) (lent : Lent κ) (waiter : Waiter) :
    Serving world pool (some lent) (waiter :: rest)
      (serve world pool (some lent) (waiter :: rest)).1
      (serve world pool (some lent) (waiter :: rest)).2 := by
  cases departed : world.isDeparted waiter.ticket with
  | false => simpa [serve, departed] using Serving.hand departed (later pool none)
  | true => simpa [serve, departed] using Serving.pass departed (later pool (some lent))

theorem serve_serving (world : World κ) (pool : Pool κ) (atHand : Option (Lent κ))
    (waiters : List Waiter) :
    Serving world pool atHand waiters (serve world pool atHand waiters).1
      (serve world pool atHand waiters).2 := by
  induction waiters generalizing pool atHand with
  | nil =>
    cases atHand with
    | none => exact .done pool
    | some lent => exact .shelve pool lent
  | cons waiter rest ih =>
    cases atHand with
    | some lent => exact serving_atHand ih pool lent waiter
    | none =>
      cases going : pool.terminated with
      | true => simpa [serve, offer_stopped going] using Serving.stopped waiter rest going
      | false =>
        rcases looked : pool.stock.borrow world.isClosed with ⟨taken, stock⟩
        cases taken with
        | some lent =>
          have next := serving_atHand ih { pool with stock } lent waiter
          have same : serve world pool none (waiter :: rest) =
              serve world { pool with stock } (some lent) (waiter :: rest) := by
            simp [serve, offer_found going looked]
          rw [same]
          exact .fetch going looked next
        | none =>
          by_cases room : stock.count < pool.limit
          · simpa [serve, offer_room going looked room] using
              Serving.refill waiter rest going looked room
          · have enough := Nat.not_lt.1 room
            simpa [serve, offer_full going looked enough] using
              Serving.full waiter rest going looked enough

/-- The ways in which an event can go. -/
inductive Stride (world : World κ) (pool : Pool κ) : Event κ → Notes κ → Pool κ → Prop where
  /-- a pool that waits for a connection takes no command -/
  | deaf (command : Command κ) (busy : pool.activity ≠ .ready) :
    Stride world pool (.command command) {} pool
  /-- nobody has asked for this connection -/
  | surplus (connection : κ) (ready : pool.activity = .ready) :
    Stride world pool (.made connection) {} pool
  | lend (ticket : Nat) (lent : Lent κ) (stock : Stock κ) (ready : pool.activity = .ready)
    (going : pool.terminated = false)
    (found : pool.stock.borrow world.isClosed = (some lent, stock))
    (present : world.isDeparted ticket = false) :
    Stride world pool (.command (.request ticket)) { replies := [(ticket, .ok lent)] }
      { pool with stock }
  /-- whoever asked has gone -/
  | withhold (ticket : Nat) (lent : Lent κ) (stock : Stock κ) (ready : pool.activity = .ready)
    (going : pool.terminated = false)
    (found : pool.stock.borrow world.isClosed = (some lent, stock))
    (departed : world.isDeparted ticket = true) :
    Stride world pool (.command (.request ticket)) {} ({ pool with stock }.shelve lent)
  | make (ticket : Nat) (stock : Stock κ) (ready : pool.activity = .ready)
    (going : pool.terminated = false)
    (missing : pool.stock.borrow world.isClosed = (none, stock))
    (room : stock.count < pool.limit) :
    Stride world pool (.command (.request ticket)) {}
      { pool with stock, activity := .making ticket }
  | queue (ticket : Nat) (stock : Stock κ) (ready : pool.activity = .ready)
    (going : pool.terminated = false)
    (missing : pool.stock.borrow world.isClosed = (none, stock))
    (enough : pool.limit ≤ stock.count) :
    Stride world pool (.command (.request ticket)) { queued := [⟨pool.nextWaiter, ticket⟩] }
      ({ pool with stock }.enqueue ticket).1
  /-- a pool that is shut down lets everyone wait -/
  | defer (ticket : Nat) (ready : pool.activity = .ready) (terminated : pool.terminated = true) :
    Stride world pool (.command (.request ticket)) { queued := [⟨pool.nextWaiter, ticket⟩] }
      (pool.enqueue ticket).1
  /-- a pool that is shut down keeps nothing that comes back -/
  | release (lent : Lent κ) (ready : pool.activity = .ready) (terminated : pool.terminated = true) :
    Stride world pool (.command (.giveBack lent)) { returned := [lent] }
      { pool with stock := (pool.stock.giveBack lent false).getD pool.stock }
  /-- what the pool does not own is ignored -/
  | ignore (lent : Lent κ) (ready : pool.activity = .ready) (going : pool.terminated = false)
    (unknown : pool.stock.giveBack lent (!world.isClosed lent.connection) = none) :
    Stride world pool (.command (.giveBack lent)) { returned := [lent] } pool
  | takeBack (lent : Lent κ) (stock : Stock κ) (after : Pool κ) (effects : List (Effect κ))
    (ready : pool.activity = .ready) (going : pool.terminated = false)
    (taken : pool.stock.giveBack lent (!world.isClosed lent.connection) = some stock)
    (serving : Serving world { pool with stock } none pool.waiting after effects) :
    Stride world pool (.command (.giveBack lent))
      { Notes.ofService world pool.waiting effects with returned := [lent] } after
  | expire (id : UInt64) (ready : pool.activity = .ready) :
    Stride world pool (.command (.expire id))
      { expired := pool.waiting.filter (·.id = id),
        replies := ((pool.waiting.find? (·.id = id)).map
          fun waiter => (waiter.ticket, .error pool.timeout)).toList }
      { pool with waiting := pool.waiting.filter (·.id ≠ id) }
  | shutdown (ticket : Nat) (ready : pool.activity = .ready) :
    Stride world pool (.command (.shutdown ticket)) {}
      { pool with terminated := true, stock := pool.stock.drainIdle }
  | supply (ticket : Nat) (connection : κ) (making : pool.activity = .making ticket)
    (present : world.isDeparted ticket = false) :
    Stride world pool (.made connection)
      { made := [connection], replies := [(ticket, .ok (pool.stock.register connection).1)] }
      { pool with stock := (pool.stock.register connection).2, activity := .ready }
  /-- whoever asked has gone while the connection was made -/
  | store (ticket : Nat) (connection : κ) (making : pool.activity = .making ticket)
    (departed : world.isDeparted ticket = true) :
    Stride world pool (.made connection) { made := [connection] }
      ({ pool with stock := (pool.stock.register connection).2, activity := .ready }.shelve
        (pool.stock.register connection).1)
  | restock (connection : κ) (after : Pool κ) (effects : List (Effect κ))
    (refilling : pool.activity = .refilling)
    (serving : Serving world { pool with stock := (pool.stock.register connection).2 }
      (some (pool.stock.register connection).1) pool.waiting after effects) :
    Stride world pool (.made connection)
      { Notes.ofService world pool.waiting effects with made := [connection] } after

/-- An event goes a way when its notes and its outcome are those of the rule. -/
theorem Stride.of_eq {world : World κ} {pool after : Pool κ} {event : Event κ} {seen : Notes κ}
    (rule : Stride world pool event seen after) (notes : pool.notes world event = seen)
    (step : (pool.step world event).1 = after) :
    Stride world pool event (pool.notes world event) (pool.step world event).1 := by
  rw [notes, step]
  exact rule

section Steps

variable {world : World κ} {pool : Pool κ}

theorem step_command (ready : pool.activity = .ready) (command : Command κ) :
    pool.step world (.command command) = pool.obey world command :=
  if_pos ready

theorem takeBack_taken {lent : Lent κ} {stock : Stock κ} (going : pool.terminated = false)
    (taken : pool.stock.giveBack lent (!world.isClosed lent.connection) = some stock) :
    pool.takeBack world lent = serve world { pool with stock } none pool.waiting := by
  unfold takeBack
  rw [if_neg (Bool.eq_false_iff.1 going), taken]

theorem takeMade_refilling (refilling : pool.activity = .refilling) (connection : κ) :
    pool.takeMade world connection =
      serve world { pool with stock := (pool.stock.register connection).2 }
        (some (pool.stock.register connection).1) pool.waiting := by
  unfold takeMade
  rw [refilling]

theorem stride_request (ready : pool.activity = .ready) (ticket : Nat) :
    Stride world pool (.command (.request ticket)) (pool.notes world (.command (.request ticket)))
      (pool.step world (.command (.request ticket))).1 := by
  cases going : pool.terminated with
  | true =>
    refine (Stride.defer ticket ready going).of_eq ?_ ?_
    · simp [notes, step, ready, obey, request, offer_stopped going, enqueue,
        Notes.ofService, called, repliesOf]
    · simp [step, ready, obey, request, offer_stopped going]
  | false =>
    rcases looked : pool.stock.borrow world.isClosed with ⟨taken, stock⟩
    cases taken with
    | some lent =>
      cases departed : world.isDeparted ticket with
      | false =>
        refine (Stride.lend ticket lent stock ready going looked departed).of_eq ?_ ?_
        · simp [notes, step, ready, obey, request, offer_found going looked, hand, departed,
            Notes.ofService, called, repliesOf]
        · simp [step, ready, obey, request, offer_found going looked, hand, departed]
      | true =>
        refine (Stride.withhold ticket lent stock ready going looked departed).of_eq ?_ ?_
        · simp [notes, step, ready, obey, request, offer_found going looked, hand, departed,
            Notes.ofService, called, repliesOf]
        · simp [step, ready, obey, request, offer_found going looked, hand, departed]
    | none =>
      by_cases room : stock.count < pool.limit
      · refine (Stride.make ticket stock ready going looked room).of_eq ?_ ?_
        · simp [notes, step, ready, obey, request, offer_room going looked room,
            Notes.ofService, called, repliesOf]
        · simp [step, ready, obey, request, offer_room going looked room]
      · have enough := Nat.not_lt.1 room
        refine (Stride.queue ticket stock ready going looked enough).of_eq ?_ ?_
        · simp [notes, step, ready, obey, request, offer_full going looked enough, enqueue,
            Notes.ofService, called, repliesOf]
        · simp [step, ready, obey, request, offer_full going looked enough]

theorem stride_giveBack (ready : pool.activity = .ready) (lent : Lent κ) :
    Stride world pool (.command (.giveBack lent)) (pool.notes world (.command (.giveBack lent)))
      (pool.step world (.command (.giveBack lent))).1 := by
  cases going : pool.terminated with
  | true =>
    refine (Stride.release lent ready going).of_eq ?_ ?_
    · simp [notes, step, ready, obey, takeBack, going, Notes.ofService, called, repliesOf]
    · simp [step, ready, obey, takeBack, going]
  | false =>
    cases taken : pool.stock.giveBack lent (!world.isClosed lent.connection) with
    | none =>
      refine (Stride.ignore lent ready going taken).of_eq ?_ ?_
      · simp [notes, step, ready, obey, takeBack, going, taken, Notes.ofService, called, repliesOf]
      · simp [step, ready, obey, takeBack, going, taken]
    | some stock =>
      have served : pool.step world (.command (.giveBack lent)) =
          serve world { pool with stock } none pool.waiting :=
        (step_command ready _).trans (takeBack_taken going taken)
      refine (Stride.takeBack lent stock _ _ ready going taken
        (serve_serving world { pool with stock } none pool.waiting)).of_eq ?_ ?_
      · rw [notes, served, if_pos ready]
        rfl
      · rw [served]

theorem stride_expire (ready : pool.activity = .ready) (id : UInt64) :
    Stride world pool (.command (.expire id)) (pool.notes world (.command (.expire id)))
      (pool.step world (.command (.expire id))).1 := by
  cases found : pool.waiting.find? (·.id = id) with
  | none =>
    have others : ∀ waiter ∈ pool.waiting, waiter.id ≠ id := by simpa using found
    have stay : pool.waiting.filter (·.id ≠ id) = pool.waiting :=
      List.filter_eq_self.2 fun waiter member => decide_eq_true (others waiter member)
    refine (Stride.expire id ready).of_eq ?_ ?_
    · simp [notes, step, ready, obey, Pool.expire, found, Notes.ofService, called, repliesOf]
    · rw [step_command ready, stay]
      simp only [obey, Pool.expire, found]
  | some waiter =>
    refine (Stride.expire id ready).of_eq ?_ ?_
    · simp [notes, step, ready, obey, Pool.expire, found, Notes.ofService, called, repliesOf]
    · simp [step, ready, obey, Pool.expire, found]

theorem stride_made (connection : κ) :
    Stride world pool (.made connection) (pool.notes world (.made connection))
      (pool.step world (.made connection)).1 := by
  cases activity : pool.activity with
  | ready =>
    refine (Stride.surplus connection activity).of_eq ?_ ?_
    · simp [notes, step, activity, takeMade, Notes.ofService, called, repliesOf]
    · simp [step, activity, takeMade]
  | making ticket =>
    cases departed : world.isDeparted ticket with
    | false =>
      refine (Stride.supply ticket connection activity departed).of_eq ?_ ?_
      · simp [notes, step, activity, takeMade, hand, departed, Notes.ofService, called, repliesOf]
      · simp [step, activity, takeMade, hand, departed]
    | true =>
      refine (Stride.store ticket connection activity departed).of_eq ?_ ?_
      · simp [notes, step, activity, takeMade, hand, departed, Notes.ofService, called, repliesOf]
      · simp [step, activity, takeMade, hand, departed]
  | refilling =>
    have busy : pool.activity ≠ .ready := by simp [activity]
    have served : pool.takeMade world connection = _ := takeMade_refilling activity connection
    refine (Stride.restock connection _ _ activity (serve_serving ..)).of_eq ?_ ?_
    · rw [notes, step, served, if_neg busy]
      rfl
    · rw [step, served]

end Steps

theorem step_stride (world : World κ) (pool : Pool κ) (event : Event κ) :
    Stride world pool event (pool.notes world event) (pool.step world event).1 := by
  cases event with
  | made connection => exact stride_made connection
  | command command =>
    by_cases ready : pool.activity = .ready
    · cases command with
      | request ticket => exact stride_request ready ticket
      | giveBack lent => exact stride_giveBack ready lent
      | expire id => exact stride_expire ready id
      | shutdown ticket =>
        refine (Stride.shutdown ticket ready).of_eq ?_ ?_
        · simp [notes, step, ready, obey, Pool.shutdown, Notes.ofService, called, repliesOf]
        · simp [step, ready, obey, Pool.shutdown]
    · refine (Stride.deaf command ready).of_eq ?_ ?_
      · cases command <;> simp [notes, step, ready, Notes.ofService, called, repliesOf]
      · simp [step, ready]

/-- What holds at the start and is kept by every rule holds of every run. -/
theorem Reached.keeps {context : ContextId} {limit timeoutMillis : Nat}
    (Holds : Journal κ → Pool κ → Prop) (begins : Holds [] (.start context limit timeoutMillis))
    (goesOn : ∀ {journal : Journal κ} {pool after : Pool κ} {world : World κ} {event : Event κ}
      {seen : Notes κ}, Reached context limit timeoutMillis journal pool → Holds journal pool →
        Stride world pool event seen after → Holds (journal ++ [seen]) after)
    {journal : Journal κ} {pool : Pool κ}
    (reached : Reached context limit timeoutMillis journal pool) : Holds journal pool := by
  induction reached with
  | start => exact begins
  | step before world event ih => exact goesOn before ih (step_stride world _ event)

end BoltClient.Pool
