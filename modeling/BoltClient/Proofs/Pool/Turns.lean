import BoltClient.Proofs.Pool.Queueing

/-!
Whose turn it is. A connection that comes back open, or that is made for those who wait,
goes to the first of them who is still there; it stays idle only when all of them have gone.
`HandsOn` says so of one connection and `Diligent` of all that a pool can get, which it is
in every reachable state: what it has it lends, and where it has nothing but room it asks
for a connection.
-/

namespace BoltClient.Pool

variable {κ : Type}

open Stock

/-- What becomes of a connection when those who wait are called: the first who is still there
gets it, when everybody in front has gone, and it is kept if nobody is there. -/
structure HandsOn (world : World κ) (pool : Pool κ) (lent : Lent κ) (seen : Notes κ)
    (after : Pool κ) : Prop where
  served : ∀ {gone : List Waiter} {waiter : Waiter} {rest : List Waiter},
    pool.waiting = gone ++ waiter :: rest →
    (∀ other ∈ gone, world.isDeparted other.ticket = true) →
    world.isDeparted waiter.ticket = false →
      seen.passed = gone ∧ seen.handed = [waiter] ∧
        seen.replies = [(waiter.ticket, .ok lent)] ∧
        after.waiting = rest ∧ after.stock.idle = []
  kept : (∀ waiter ∈ pool.waiting, world.isDeparted waiter.ticket = true) →
    seen.passed = pool.waiting ∧ seen.handed = [] ∧ seen.replies = [] ∧
      after.waiting = [] ∧ after.stock.idle = pool.stock.idle ++ [lent]

section Serving

variable {world : World κ} {pool after : Pool κ} {lent : Lent κ} {waiter : Waiter}
  {waiters gone rest : List Waiter} {effects : List (Effect κ)}

/-- With nothing at hand and nothing idle nobody is called. -/
theorem Serving.nothing (serving : Serving world pool none waiters after effects)
    (empty : pool.stock.idle = []) :
    called waiters effects = [] ∧ repliesOf effects = [] ∧ after.waiting = waiters ∧
      after.stock = pool.stock := by
  cases serving with
  | done | stopped => exact ⟨rfl, rfl, rfl, rfl⟩
  | fetch _ found =>
    rw [borrow_empty empty] at found
    cases found
  | refill _ _ _ missing | full _ _ _ missing =>
    rw [borrow_empty empty] at missing
    cases missing
    exact ⟨rfl, rfl, rfl, rfl⟩

/-- Whoever has gone is passed over. -/
theorem Serving.passes (serving : Serving world pool (some lent) (waiter :: rest) after effects)
    (departed : world.isDeparted waiter.ticket = true) :
    ∃ later, effects = .disarm waiter.id :: later ∧
      Serving world pool (some lent) rest after later := by
  cases serving with
  | pass _ later => exact ⟨_, rfl, later⟩
  | hand present => exact absurd (departed.symm.trans present) nofun

/-- The connection at hand goes to the first who is still there. -/
theorem Serving.first (serving : Serving world pool (some lent) (gone ++ waiter :: rest) after
      effects) (empty : pool.stock.idle = [])
    (departed : ∀ other ∈ gone, world.isDeparted other.ticket = true)
    (present : world.isDeparted waiter.ticket = false) :
    called (gone ++ waiter :: rest) effects = gone ++ [waiter] ∧
      repliesOf effects = [(waiter.ticket, .ok lent)] ∧ after.waiting = rest ∧
      after.stock.idle = [] := by
  induction gone generalizing effects with
  | nil =>
    cases serving with
    | pass away => exact absurd (away.symm.trans present) nofun
    | hand _ later =>
      -- Behind that nothing is left for the others.
      obtain ⟨nobody, silent, all, same⟩ := later.nothing empty
      simp [nobody, silent, all, same, empty]
  | cons first others ih =>
    obtain ⟨later, rfl, passed⟩ := serving.passes (departed first List.mem_cons_self)
    simpa using ih passed fun other member => departed other (List.mem_cons_of_mem _ member)

/-- The connection at hand is put away when all who wait have gone. -/
theorem Serving.nobody (serving : Serving world pool (some lent) waiters after effects)
    (departed : ∀ waiter ∈ waiters, world.isDeparted waiter.ticket = true) :
    called waiters effects = waiters ∧ repliesOf effects = [] ∧
      after = { pool with waiting := [], activity := .ready }.shelve lent := by
  induction waiters generalizing effects with
  | nil =>
    cases serving
    exact ⟨rfl, rfl, rfl⟩
  | cons first others ih =>
    obtain ⟨later, rfl, passed⟩ := serving.passes (departed first List.mem_cons_self)
    simpa using ih passed fun other member => departed other (List.mem_cons_of_mem _ member)

/-- An idle connection comes to hand before anybody is called. -/
theorem Serving.fetched {stock : Stock κ}
    (serving : Serving world pool none (waiter :: rest) after effects)
    (going : pool.terminated = false)
    (found : pool.stock.borrow world.isClosed = (some lent, stock)) :
    Serving world { pool with stock } (some lent) (waiter :: rest) after effects := by
  cases serving with
  | fetch _ looked later =>
    cases looked.symm.trans found
    exact later
  | refill _ _ _ missing | full _ _ _ missing => cases missing.symm.trans found
  | stopped _ _ terminated => simp [going] at terminated

theorem filter_present_nil (departed : ∀ waiter ∈ waiters, world.isDeparted waiter.ticket = true) :
    waiters.filter (fun waiter => !world.isDeparted waiter.ticket) = [] :=
  List.filter_eq_nil_iff.2 fun waiter member => by simp [departed waiter member]

/-- A connection at hand is handed on by a pool that has nothing else. -/
theorem Serving.handsOn {before : Pool κ}
    (serving : Serving world before (some lent) pool.waiting after effects)
    (bare : before.stock.idle = []) (empty : pool.stock.idle = [])
    (ours : lent.context = before.stock.context) (known : lent.id ∈ before.stock.members) :
    HandsOn world pool lent (Notes.ofService world pool.waiting effects) after where
  served {gone waiter rest} queue departed present := by
    rw [queue] at serving ⊢
    obtain ⟨calls, replies, waiting, idle⟩ := serving.first bare departed present
    have passes : gone.filter (fun other => world.isDeparted other.ticket) = gone :=
      List.filter_eq_self.2 departed
    have hands := filter_present_nil departed
    exact ⟨by simp [Notes.ofService, calls, passes, present],
      by simp [Notes.ofService, calls, hands, present], replies, waiting, idle⟩
  kept departed := by
    obtain ⟨calls, replies, rfl⟩ := serving.nobody departed
    refine ⟨?_, ?_, replies, rfl, ?_⟩
    · rw [Notes.ofService, calls, List.filter_eq_self.2 departed]
    · rw [Notes.ofService, calls, filter_present_nil departed]
    · rw [Pool.shelve, giveBack_own ours known, bare, empty]
      rfl

end Serving

/-- What a pool does that goes on. -/
structure Diligent (world : World κ) (pool : Pool κ) : Prop where
  /-- an open connection that comes back goes to those who wait -/
  returned : ∀ lent : Lent κ, pool.activity = .ready → lent.context = pool.stock.context →
    lent.id ∈ pool.stock.members → world.isClosed lent.connection = false →
    HandsOn world pool lent (pool.notes world (.command (.giveBack lent)))
      (pool.step world (.command (.giveBack lent))).1
  /-- in place of one that comes back closed another is made for those who wait -/
  replaced : ∀ lent : Lent κ, pool.activity = .ready → lent.context = pool.stock.context →
    lent.id ∈ pool.stock.members → world.isClosed lent.connection = true → pool.waiting ≠ [] →
    pool.step world (.command (.giveBack lent)) =
      ({ pool with stock := pool.stock.forget lent.id, activity := .refilling }, [.make])
  /-- a connection that was made for those who wait goes to them -/
  refilled : ∀ connection : κ, pool.activity = .refilling →
    HandsOn world pool (pool.stock.register connection).1
      (pool.notes world (.made connection)) (pool.step world (.made connection)).1
  /-- whoever asks gets the first open connection that is idle -/
  lends : ∀ (ticket : Nat) (shut : List (Lent κ)) (lent : Lent κ) (others : List (Lent κ)),
    pool.activity = .ready → world.isDeparted ticket = false →
    pool.stock.idle = shut ++ lent :: others →
    (∀ other ∈ shut, world.isClosed other.connection = true) →
    world.isClosed lent.connection = false →
    (pool.step world (.command (.request ticket))).2 = [.reply ticket (.ok lent)] ∧
      (pool.step world (.command (.request ticket))).1.stock.idle = others
  /-- where none is, one is made if there is room for it, and otherwise whoever asks waits -/
  asks : ∀ ticket : Nat, pool.activity = .ready →
    (∀ lent ∈ pool.stock.idle, world.isClosed lent.connection = true) →
    let moved := pool.step world (.command (.request ticket))
    if pool.stock.members.countP (fun id => id ∉ pool.stock.idle.map Lent.id) < pool.limit
    then moved.1.activity = .making ticket ∧ moved.2 = [.make]
    else moved.1.waiting = pool.waiting ++ [⟨pool.nextWaiter, ticket⟩] ∧
      moved.2 = [.arm pool.nextWaiter]
  /-- what was made for somebody who asked is lent -/
  supplied : ∀ (ticket : Nat) (connection : κ), pool.activity = .making ticket →
    world.isDeparted ticket = false →
    (pool.step world (.made connection)).2 =
      [.reply ticket (.ok (pool.stock.register connection).1)]

section Steps

variable {world : World κ} {pool after : Pool κ} {lent : Lent κ} {seen : Notes κ}

theorem Stride.returned
    (stride : Stride world pool (.command (.giveBack lent)) seen after)
    (conserving : Conserving pool) (going : pool.terminated = false)
    (ready : pool.activity = .ready) (ours : lent.context = pool.stock.context)
    (known : lent.id ∈ pool.stock.members) (isOpen : world.isClosed lent.connection = false) :
    HandsOn world pool lent seen after := by
  cases stride with
  | deaf _ busy => exact absurd ready busy
  | release _ _ terminated => simp [going] at terminated
  | ignore _ _ _ unknown =>
    rw [giveBack_own ours known] at unknown
    cases unknown
  | takeBack _ stock _ effects _ _ taken serving =>
    rw [giveBack_own ours known, isOpen] at taken
    cases taken
    cases queue : pool.waiting with
    | nil =>
      rw [queue] at serving
      cases serving
      refine ⟨fun someone => ?_, fun _ => ?_⟩
      · simp [queue] at someone
      · simp [Notes.ofService, queue, repliesOf]
    | cons waiter rest =>
      -- Nothing else is idle while somebody waits, so this connection comes to hand next.
      obtain ⟨empty, -⟩ := conserving.waits going ready (by simp [queue])
      rw [queue] at serving
      have only : pool.stock.idle ++ [lent] = [] ++ lent :: [] := by rw [empty]
      have later := serving.fetched going (borrow_first only (List.forall_mem_nil _) isOpen)
      rw [← queue] at later ⊢
      have hands := later.handsOn rfl empty ours (by simpa using known)
      exact ⟨hands.served, hands.kept⟩

theorem serve_room (pool : Pool κ) {stock : Stock κ} (going : pool.terminated = false)
    (someone : pool.waiting ≠ []) (missing : pool.stock.borrow world.isClosed = (none, stock))
    (room : stock.count < pool.limit) :
    serve world pool none pool.waiting =
      ({ pool with stock, activity := .refilling }, [.make]) := by
  obtain ⟨waiter, rest, queue⟩ := List.exists_cons_of_ne_nil someone
  simp [queue, serve, offer_room going missing room]

theorem Conserving.replaced (conserving : Conserving pool) (going : pool.terminated = false)
    (ready : pool.activity = .ready) (ours : lent.context = pool.stock.context)
    (known : lent.id ∈ pool.stock.members) (shut : world.isClosed lent.connection = true)
    (someone : pool.waiting ≠ []) :
    pool.step world (.command (.giveBack lent)) =
      ({ pool with stock := pool.stock.forget lent.id, activity := .refilling }, [.make]) := by
  obtain ⟨empty, -⟩ := conserving.waits going ready someone
  have taken : pool.stock.giveBack lent (!world.isClosed lent.connection) =
      some (pool.stock.forget lent.id) := by rw [giveBack_own ours known, shut]; rfl
  have room : (pool.stock.forget lent.id).count < pool.limit :=
    Nat.lt_of_lt_of_le (forget_count_lt known) conserving.within
  have missing : (pool.stock.forget lent.id).borrow world.isClosed = (none, _) :=
    borrow_empty empty
  rw [step_command ready, obey, takeBack_taken going taken]
  exact serve_room { pool with stock := pool.stock.forget lent.id } going someone missing room

theorem Stride.refilled {connection : κ}
    (stride : Stride world pool (.made connection) seen after) (conserving : Conserving pool)
    (refilling : pool.activity = .refilling) :
    HandsOn world pool (pool.stock.register connection).1 seen after := by
  cases stride with
  | surplus _ ready => exact absurd (ready.symm.trans refilling) nofun
  | supply _ _ making | store _ _ making => exact absurd (making.symm.trans refilling) nofun
  | restock _ _ effects _ serving =>
    obtain ⟨-, empty, -⟩ := conserving.busy (by simp [refilling])
    have hands := serving.handsOn empty empty rfl (register_known ..)
    exact ⟨hands.served, hands.kept⟩

theorem Conserving.diligent (conserving : Conserving pool) (going : pool.terminated = false)
    (world : World κ) : Diligent world pool where
  returned lent ready ours known isOpen :=
    (step_stride ..).returned conserving going ready ours known isOpen
  replaced lent ready ours known shut someone :=
    conserving.replaced going ready ours known shut someone
  refilled connection refilling := (step_stride ..).refilled conserving refilling
  lends ticket shut lent others ready present idle closed isOpen := by
    have found := borrow_first idle closed isOpen
    rw [step_command ready, obey, request, offer_found going found]
    simp [hand, present]
  asks ticket ready closed := by
    have missing := borrow_none closed
    rw [step_command ready, obey, request, List.countP_eq_length_filter]
    by_cases room : (pool.stock.members.filter fun id => id ∉ pool.stock.idle.map Lent.id).length <
      pool.limit
    · rw [if_pos room, offer_room going missing room]
      exact ⟨rfl, rfl⟩
    · rw [if_neg room, offer_full going missing (Nat.not_lt.1 room)]
      exact ⟨rfl, rfl⟩
  supplied ticket connection making present := by
    simp [step, takeMade, making, hand, present]

end Steps

/-- While anybody waits nothing is idle and, between two commands, there is no room for another
connection; whoever asks then goes behind all who wait, and connections go only to them. A
connection that comes back open, or that is made for those who wait, goes to the first who is still
there. Those who queued are served in that order: passed over is only who has gone, and besides
those only they leave whose time was over. -/
theorem serves_in_turn (context : ContextId) (limit timeoutMillis : Nat)
    (moments : List (Moment κ)) :
    let pool := (start context limit timeoutMillis).run moments
    let journal := (start context limit timeoutMillis).journal moments
    let queued := journal.flatMap Notes.queued
    let handed := journal.flatMap Notes.handed
    let passed := journal.flatMap Notes.passed
    let expired := journal.flatMap Notes.expired
    (pool.terminated = false → pool.waiting ≠ [] →
      pool.stock.idle = [] ∧ (pool.activity = .ready → pool.stock.count = limit) ∧
        (pool.activity ≠ .ready → pool.stock.count < limit)) ∧
    (pool.waiting ≠ [] → ∀ (world : World κ),
      (∀ ticket, pool.activity = .ready →
        pool.step world (.command (.request ticket)) = pool.enqueue ticket) ∧
      ∀ event, (pool.notes world event).borrowers =
        (pool.notes world event).handed.map Waiter.ticket) ∧
    (pool.terminated = false → ∀ world : World κ, Diligent world pool) ∧
    (handed ++ pool.waiting).Sublist queued ∧
    queued.Perm (handed ++ (passed ++ (expired ++ pool.waiting))) ∧
    (∀ (world : World κ) (event : Event κ),
      (∀ waiter ∈ (pool.notes world event).passed, world.isDeparted waiter.ticket = true) ∧
      ∀ waiter ∈ (pool.notes world event).expired, event = .command (.expire waiter.id)) ∧
    (queued.length ≤ UInt64.size →
      pool.waiting.Pairwise fun first second => first.id < second.id) := by
  intro pool journal queued handed passed expired
  have reached : Reached context limit timeoutMillis journal pool := reached_run ..
  have conserving := reached.conserving
  have lined := reached.lined
  have stride := fun world event => step_stride world pool event
  refine ⟨fun going someone => ?_, fun someone world => ⟨?_, fun event => ?_⟩,
    fun going world => conserving.diligent going world, lined.order, lined.whole,
    fun world event => ⟨?_, (stride world event).expired⟩, lined.ascending⟩
  · by_cases ready : pool.activity = .ready
    · obtain ⟨empty, full⟩ := conserving.waits going ready someone
      rw [reached.limit_eq] at full
      have within := reached.limit_eq ▸ conserving.within
      exact ⟨empty, fun _ => Nat.le_antisymm within full, fun busy => absurd ready busy⟩
    · obtain ⟨-, empty, room⟩ := conserving.busy ready
      exact ⟨empty, fun now => absurd now ready, fun _ => reached.limit_eq ▸ room⟩
  · exact fun ticket ready => conserving.request_behind ready someone world ticket
  · exact (stride world event).borrowers conserving someone
  · exact fun waiter member => (List.mem_filter.1 member).2

/-- Two wait for the only connection, and the first of them has gone. The second gets the connection
when it comes back open, and the one that is made in its place when it comes back closed. -/
theorem served_past_departed :
    let world : World Nat := ⟨fun connection => connection = 7, fun ticket => ticket = 2⟩
    let moment (event : Event Nat) : Moment Nat := ⟨world, event⟩
    let waiting (connection : Nat) := [moment (.command (.request 1)), moment (.made connection),
      moment (.command (.request 2)), moment (.command (.request 3))]
    let pool := (start ⟨0⟩ 1 50).run (waiting 6)
    let seen := pool.notes world (.command (.giveBack ⟨0, ⟨0⟩, 6⟩))
    let refilling := (start ⟨0⟩ 1 50).run
      (waiting 7 ++ [moment (.command (.giveBack ⟨0, ⟨0⟩, 7⟩))])
    let next := refilling.notes world (.made 8)
    (pool.waiting = [⟨0, 2⟩, ⟨1, 3⟩] ∧ pool.stock.count = 1) ∧
    (seen.passed = [⟨0, 2⟩] ∧ seen.handed = [⟨1, 3⟩] ∧ seen.replies = [(3, .ok ⟨0, ⟨0⟩, 6⟩)]) ∧
    (refilling.waiting = [⟨0, 2⟩, ⟨1, 3⟩] ∧ refilling.activity = .refilling) ∧
    (next.passed = [⟨0, 2⟩] ∧ next.handed = [⟨1, 3⟩] ∧ next.replies = [(3, .ok ⟨1, ⟨0⟩, 8⟩)]) := by
  intro world moment waiting pool seen refilling next
  have gone : ∀ other ∈ [(⟨0, 2⟩ : Waiter)], world.isDeparted other.ticket = true := by decide
  have queue : pool.waiting = [⟨0, 2⟩] ++ ⟨1, 3⟩ :: [] := by decide
  have still : refilling.waiting = [⟨0, 2⟩] ++ ⟨1, 3⟩ :: [] := by decide
  have ready : pool.activity = .ready := by decide
  have known : 0 ∈ pool.stock.members := by decide
  have fresh : (refilling.stock.register 8).1 = ⟨1, ⟨0⟩, 8⟩ := by decide
  have busy : refilling.activity = .refilling := by decide
  have going : pool.terminated = false := by decide
  have goesOn : refilling.terminated = false := by decide
  obtain ⟨full, -, diligent, -⟩ := serves_in_turn ⟨0⟩ 1 50 (waiting 6)
  obtain ⟨-, -, refills, -⟩ := serves_in_turn ⟨0⟩ 1 50
    (waiting 7 ++ [moment (.command (.giveBack ⟨0, ⟨0⟩, 7⟩))])
  have back : HandsOn world pool ⟨0, ⟨0⟩, 6⟩ seen _ :=
    (diligent going world).returned _ ready rfl known rfl
  have made : HandsOn world refilling _ next _ := (refills goesOn world).refilled 8 busy
  rw [fresh] at made
  obtain ⟨passed, handed, replies, -⟩ := back.served queue gone rfl
  obtain ⟨skipped, given, answers, -⟩ := made.served still gone rfl
  have someone : pool.waiting ≠ [] := by simp [queue]
  exact ⟨⟨queue, (full going someone).2.1 ready⟩, ⟨passed, handed, replies⟩, ⟨still, busy⟩,
    skipped, given, answers⟩

end BoltClient.Pool
