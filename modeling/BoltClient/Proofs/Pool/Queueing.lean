import BoltClient.Proofs.Pool.Service

/-!
Who is served, and when. A pool lets nobody wait while it has a connection or room
for one: `Conserving` is the invariant, and a request that comes while others wait
goes behind them. Those who wait are served in the order in which they came;
`Lined` follows each of them to a connection, a timeout, or the end of whoever asked.
-/

namespace BoltClient.Pool

variable {κ : Type}

open Stock

theorem Stock.count_register_within {stock : Stock κ} {limit : Nat} (room : stock.count < limit)
    (connection : κ) : (stock.register connection).2.count ≤ limit := by
  simp only [register, Stock.count] at room ⊢
  split
  · exact Nat.le_of_lt room
  · rw [List.length_append]
    exact room

theorem Stock.borrow_empty {isClosed : κ → Bool} {stock : Stock κ} (empty : stock.idle = []) :
    stock.borrow isClosed = (none, stock) := by
  obtain ⟨context, idle, members, nextId⟩ := stock
  cases empty
  rfl

/-- Nobody waits for what is there, and there is never too much. -/
structure Conserving (pool : Pool κ) : Prop where
  within : pool.stock.count ≤ pool.limit
  waits : pool.terminated = false → pool.activity = .ready → pool.waiting ≠ [] →
    pool.stock.idle = [] ∧ pool.limit ≤ pool.stock.count
  busy : pool.activity ≠ .ready →
    pool.terminated = false ∧ pool.stock.idle = [] ∧ pool.stock.count < pool.limit
  makes : ∀ ticket, pool.activity = .making ticket → pool.waiting = []

namespace Conserving

variable {world : World κ} {pool : Pool κ} {stock : Stock κ}

theorem of_ready (within : pool.stock.count ≤ pool.limit) (ready : pool.activity = .ready)
    (waits : pool.terminated = false → pool.waiting ≠ [] →
      pool.stock.idle = [] ∧ pool.limit ≤ pool.stock.count) : Conserving pool :=
  ⟨within, fun going _ => waits going, fun busy => absurd ready busy,
    fun _ making => absurd (ready.symm.trans making) nofun⟩

theorem of_nobody (within : pool.stock.count ≤ pool.limit) (ready : pool.activity = .ready)
    (nobody : pool.waiting = []) : Conserving pool :=
  of_ready within ready fun _ someone => absurd nobody someone

theorem of_busy (room : pool.stock.count < pool.limit) (going : pool.terminated = false)
    (empty : pool.stock.idle = [])
    (makes : ∀ ticket, pool.activity = .making ticket → pool.waiting = [])
    (busy : pool.activity ≠ .ready) : Conserving pool :=
  ⟨Nat.le_of_lt room, fun _ ready => absurd ready busy, fun _ => ⟨going, empty, room⟩, makes⟩

theorem waiting_of_found {lent : Lent κ} (conserving : Conserving pool)
    (ready : pool.activity = .ready) (going : pool.terminated = false)
    (found : pool.stock.borrow world.isClosed = (some lent, stock)) : pool.waiting = [] := by
  by_contra someone
  rw [borrow_empty (conserving.waits going ready someone).1] at found
  cases found

theorem waiting_of_room (conserving : Conserving pool) (ready : pool.activity = .ready)
    (going : pool.terminated = false)
    (missing : pool.stock.borrow world.isClosed = (none, stock))
    (room : stock.count < pool.limit) : pool.waiting = [] := by
  by_contra someone
  obtain ⟨empty, full⟩ := conserving.waits going ready someone
  rw [borrow_empty empty] at missing
  cases missing
  exact Nat.not_lt.2 full room

end Conserving

section Serving

variable {world : World κ} {pool after : Pool κ} {atHand : Option (Lent κ)}
  {waiters : List Waiter} {effects : List (Effect κ)}

theorem Serving.nextWaiter (serving : Serving world pool atHand waiters after effects) :
    after.nextWaiter = pool.nextWaiter := by
  induction serving with
  | done | shelve | refill | full | stopped => rfl
  | pass _ _ ih | hand _ _ ih | fetch _ _ _ ih => exact ih

theorem Serving.limit (serving : Serving world pool atHand waiters after effects) :
    after.limit = pool.limit := by
  induction serving with
  | done | shelve | refill | full | stopped => rfl
  | pass _ _ ih | hand _ _ ih | fetch _ _ _ ih => exact ih

/-- Serving ends when nobody waits any more or nothing is left. -/
theorem Serving.conserving (serving : Serving world pool atHand waiters after effects)
    (within : pool.stock.count ≤ pool.limit) : Conserving after := by
  induction serving with
  | done pool => exact .of_nobody within rfl rfl
  | shelve pool lent => exact .of_nobody ((shelve_shrinks pool lent).within within) rfl rfl
  | pass _ _ ih | hand _ _ ih => exact ih within
  | fetch _ found _ ih =>
    obtain ⟨skipped, borrows⟩ := borrows_of_eq found
    exact ih (borrows.shrinks.within within)
  | refill waiter rest going missing room =>
    obtain ⟨skipped, borrows⟩ := borrows_of_eq missing
    exact .of_busy room going (borrows.all rfl) nofun nofun
  | full waiter rest going missing enough =>
    obtain ⟨skipped, borrows⟩ := borrows_of_eq missing
    exact .of_ready (borrows.shrinks.within within) rfl fun _ _ => ⟨borrows.all rfl, enough⟩
  | stopped waiter rest terminated =>
    exact .of_ready within rfl fun going => absurd going (by simp [terminated])

/-- Those that are called, the ones that are there and the ones that have gone, come before
all who wait on. -/
theorem Serving.lined (serving : Serving world pool atHand waiters after effects) :
    let isDeparted waiter := world.isDeparted waiter.ticket
    ((called waiters effects).filter (!isDeparted ·) ++ after.waiting).Sublist waiters ∧
      waiters.Perm ((called waiters effects).filter (!isDeparted ·) ++
        ((called waiters effects).filter isDeparted ++ after.waiting)) := by
  intro isDeparted
  have parts := (List.filter_append_perm isDeparted (called waiters effects)).symm.trans
    List.perm_append_comm
  have called := List.filter_sublist (p := (!isDeparted ·)) (l := called waiters effects)
  have order := called.append_right after.waiting
  have whole := parts.append_right after.waiting
  rw [serving.queue] at order whole
  rw [List.append_assoc] at whole
  exact ⟨order, whole⟩

/-- Those that are called and have not gone get the connections, in order. -/
theorem Serving.borrowers (serving : Serving world pool atHand waiters after effects) :
    borrowersOf (repliesOf effects) =
      ((called waiters effects).filter fun waiter => !world.isDeparted waiter.ticket).map
        Waiter.ticket := by
  induction serving with
  | done | shelve | refill | full | stopped => rfl
  | pass departed _ ih => simpa [departed] using ih
  | hand present _ ih => simpa [present, borrowersOf, Except.toOption] using ih
  | fetch _ _ _ ih => exact ih

end Serving

section Stride

variable {world : World κ} {pool after : Pool κ} {event : Event κ} {seen : Notes κ}

theorem Stride.limit (stride : Stride world pool event seen after) : after.limit = pool.limit := by
  cases stride with
  | takeBack _ _ _ _ _ _ _ serving | restock _ _ _ _ serving => exact serving.limit
  | _ => rfl

theorem Stride.conserving (stride : Stride world pool event seen after)
    (before : Conserving pool) : Conserving after := by
  cases stride with
  | deaf | surplus | ignore => exact before
  | lend _ _ _ ready going found =>
    obtain ⟨skipped, borrows⟩ := borrows_of_eq found
    have nobody := before.waiting_of_found ready going found
    exact .of_nobody (borrows.shrinks.within before.within) ready nobody
  | withhold _ lent stock ready going found =>
    obtain ⟨skipped, borrows⟩ := borrows_of_eq found
    have nobody := before.waiting_of_found ready going found
    have shrinks := borrows.shrinks.trans (shelve_shrinks { pool with stock } lent)
    exact .of_nobody (shrinks.within before.within) ready nobody
  | make _ stock ready going missing room =>
    obtain ⟨skipped, borrows⟩ := borrows_of_eq missing
    have nobody := before.waiting_of_room ready going missing room
    exact .of_busy room going (borrows.all rfl) (fun _ _ => nobody) (by simp)
  | queue _ stock ready going missing enough =>
    obtain ⟨skipped, borrows⟩ := borrows_of_eq missing
    exact .of_ready (borrows.shrinks.within before.within) ready
      fun _ _ => ⟨borrows.all rfl, enough⟩
  | defer _ ready terminated =>
    exact .of_ready before.within ready fun going => absurd going (by simp [enqueue, terminated])
  | release lent ready terminated =>
    have shrinks := giveBack_getD_shrinks pool.stock lent false
    exact .of_ready (shrinks.within before.within) ready
      fun going => absurd going (by simp [terminated])
  | takeBack _ stock _ _ _ _ taken serving =>
    exact serving.conserving ((giveBack_shrinks taken).within before.within)
  | expire id ready =>
    refine .of_ready before.within ready fun going someone =>
      before.waits going ready fun nobody => someone ?_
    simp [nobody]
  | shutdown _ ready =>
    exact .of_ready ((drainIdle_shrinks pool.stock).within before.within) ready (by simp)
  | supply ticket connection making =>
    have room := (before.busy (by simp [making])).2.2
    exact .of_nobody (count_register_within room connection) rfl (before.makes ticket making)
  | store ticket connection making =>
    have room := (before.busy (by simp [making])).2.2
    have shrinks := giveBack_getD_shrinks (pool.stock.register connection).2
      (pool.stock.register connection).1 true
    exact .of_nobody (shrinks.within (count_register_within room connection)) rfl
      (before.makes ticket making)
  | restock connection _ _ refilling serving =>
    have room := (before.busy (by simp [refilling])).2.2
    exact serving.conserving (count_register_within room connection)

/-- Whoever asks while others wait goes behind them. -/
theorem Conserving.request_behind (conserving : Conserving pool) (ready : pool.activity = .ready)
    (someone : pool.waiting ≠ []) (world : World κ) (ticket : Nat) :
    pool.step world (.command (.request ticket)) = pool.enqueue ticket := by
  rw [step_command ready, obey, request]
  cases going : pool.terminated with
  | true => rw [offer_stopped going]
  | false =>
    obtain ⟨empty, full⟩ := conserving.waits going ready someone
    rw [offer_full going (borrow_empty empty) full]

/-- While somebody waits, connections go only to those who wait. -/
theorem Stride.borrowers (stride : Stride world pool event seen after)
    (before : Conserving pool) (someone : pool.waiting ≠ []) :
    seen.borrowers = seen.handed.map Waiter.ticket := by
  cases stride with
  | lend _ _ _ ready going found =>
    exact absurd (before.waiting_of_found ready going found) someone
  | supply ticket _ making => exact absurd (before.makes ticket making) someone
  | takeBack _ _ _ _ _ _ _ serving | restock _ _ _ _ serving => exact serving.borrowers
  | expire id =>
    cases found : pool.waiting.find? (·.id = id) <;>
      simp [Notes.borrowers, borrowersOf, Except.toOption]
  | _ => rfl

/-- Nobody is called before those in front, and whoever waited is accounted for. -/
theorem Stride.lined (stride : Stride world pool event seen after) :
    (seen.handed ++ after.waiting).Sublist (pool.waiting ++ seen.queued) ∧
      (pool.waiting ++ seen.queued).Perm
        (seen.handed ++ (seen.passed ++ (seen.expired ++ after.waiting))) := by
  cases stride with
  | takeBack _ _ _ _ _ _ _ serving | restock _ _ _ _ serving =>
    simpa [Notes.ofService] using serving.lined
  | expire id =>
    have parts := List.filter_append_perm (fun waiter => decide (waiter.id = id)) pool.waiting
    rw [List.append_nil]
    refine ⟨List.filter_sublist, ?_⟩
    simpa using parts.symm
  | _ => simp [enqueue, shelve]

/-- Numbers are given to those who wait one after the other. -/
theorem Stride.numbers (stride : Stride world pool event seen after) :
    seen.queued = [] ∧ after.nextWaiter = pool.nextWaiter ∨
      ∃ ticket, seen.queued = [⟨pool.nextWaiter, ticket⟩] ∧
        after.nextWaiter = pool.nextWaiter + 1 := by
  cases stride with
  | queue ticket | defer ticket => exact .inr ⟨ticket, rfl, rfl⟩
  | takeBack _ _ _ _ _ _ _ serving | restock _ _ _ _ serving => exact .inl ⟨rfl, serving.nextWaiter⟩
  | _ => exact .inl ⟨rfl, rfl⟩

theorem Stride.expired (stride : Stride world pool event seen after) :
    ∀ waiter ∈ seen.expired, event = .command (.expire waiter.id) := by
  cases stride with
  | expire id =>
    intro waiter member
    have same : waiter.id = id := by simpa using (List.mem_filter.1 member).2
    rw [same]
  | _ => exact nofun

end Stride

/-- Where everybody is who ever waited. -/
structure Lined (journal : Journal κ) (pool : Pool κ) : Prop where
  order : (journal.flatMap Notes.handed ++ pool.waiting).Sublist (journal.flatMap Notes.queued)
  whole : (journal.flatMap Notes.queued).Perm (journal.flatMap Notes.handed ++
    (journal.flatMap Notes.passed ++ (journal.flatMap Notes.expired ++ pool.waiting)))
  numbers : (journal.flatMap Notes.queued).map Waiter.id =
    (List.range (journal.flatMap Notes.queued).length).map UInt64.ofNat
  next : pool.nextWaiter = UInt64.ofNat (journal.flatMap Notes.queued).length

section Runs

variable {context : ContextId} {limit timeoutMillis : Nat} {journal : Journal κ} {pool : Pool κ}

theorem Reached.limit_eq (reached : Reached context limit timeoutMillis journal pool) :
    pool.limit = limit :=
  reached.keeps (fun _ pool => pool.limit = limit) rfl
    fun _ before stride => stride.limit.trans before

theorem Reached.conserving (reached : Reached context limit timeoutMillis journal pool) :
    Conserving pool :=
  reached.keeps (fun _ pool => Conserving pool)
    (.of_nobody (Nat.zero_le _) rfl rfl) fun _ before stride => stride.conserving before

theorem Lined.step {world : World κ} {event : Event κ} {seen : Notes κ} {after : Pool κ}
    (lined : Lined journal pool) (stride : Stride world pool event seen after) :
    Lined (journal ++ [seen]) after := by
  obtain ⟨order, whole⟩ := stride.lined
  constructor <;> simp only [List.flatMap_append, List.flatMap_singleton]
  case order =>
    have later := (order.append_left (journal.flatMap Notes.handed)).trans
      (List.append_assoc .. ▸ lined.order.append_right seen.queued)
    rwa [List.append_assoc]
  case whole =>
    rw [List.perm_iff_count] at whole ⊢
    have before := List.perm_iff_count.1 lined.whole
    intro waiter
    have here := whole waiter
    have there := before waiter
    simp only [List.count_append] at here there ⊢
    omega
  case numbers =>
    rcases stride.numbers with ⟨none, -⟩ | ⟨ticket, one, -⟩
    · simpa [none] using lined.numbers
    · simp [one, lined.numbers, lined.next, List.range_succ]
  case next =>
    rcases stride.numbers with ⟨none, same⟩ | ⟨ticket, one, later⟩
    · rw [same, lined.next, none, List.append_nil]
    · simp [one, later, lined.next]

theorem Reached.lined (reached : Reached context limit timeoutMillis journal pool) :
    Lined journal pool :=
  reached.keeps Lined ⟨.refl _, .refl _, rfl, rfl⟩ fun _ before stride => before.step stride

/-- Until they run out, numbers are given in ascending order. -/
theorem Lined.increasing (lined : Lined journal pool)
    (few : (journal.flatMap Notes.queued).length ≤ UInt64.size) :
    ((journal.flatMap Notes.queued).map Waiter.id).Pairwise (· < ·) := by
  rw [lined.numbers, List.pairwise_map]
  refine List.pairwise_lt_range.imp_of_mem fun {first second} front back less => ?_
  rw [List.mem_range] at front back
  rw [UInt64.lt_iff_toNat_lt, UInt64.toNat_ofNat_of_lt' (Nat.lt_of_lt_of_le front few),
    UInt64.toNat_ofNat_of_lt' (Nat.lt_of_lt_of_le back few)]
  exact less

/-- Until the numbers run out, whoever waits longer has a smaller number. -/
theorem Lined.ascending (lined : Lined journal pool)
    (few : (journal.flatMap Notes.queued).length ≤ UInt64.size) :
    pool.waiting.Pairwise fun first second => first.id < second.id :=
  (List.pairwise_map.1 (lined.increasing few)).sublist
    ((List.sublist_append_right ..).trans lined.order)

/-- Until the numbers run out, nobody has the number of somebody else. -/
theorem Lined.distinct (lined : Lined journal pool)
    (few : (journal.flatMap Notes.queued).length ≤ UInt64.size) :
    ((journal.flatMap Notes.queued).map Waiter.id).Nodup :=
  (lined.increasing few).imp UInt64.ne_of_lt

end Runs

end BoltClient.Pool
