import BoltClient.Proofs.Pool.Coverage
import BoltClient.Proofs.Pool.Foreign
import BoltClient.Proofs.Pool.Outcomes

/-!
A pool that is shut down. It has nothing to lend and will have nothing: what comes back
it lets go, and it has nothing made. Whoever asks waits, with those who waited before,
until his time is over. `Waning` lists all that such a pool does with an event, so what
holds of it over a run is shown along this list.
-/

namespace BoltClient.Pool

variable {κ : Type}

open Stock

/-- A pool that is shut down takes commands, and nothing is idle. -/
structure ShutDown (pool : Pool κ) : Prop where
  terminated : pool.terminated = true
  ready : pool.activity = .ready
  bare : pool.stock.idle = []

/-- The ways of an event of a pool that is shut down. -/
inductive Waning (pool : Pool κ) : Event κ → List (Effect κ) → Notes κ → Pool κ → Prop where
  | surplus (connection : κ) : Waning pool (.made connection) [] {} pool
  | defer (ticket : Nat) :
    Waning pool (.command (.request ticket)) [.arm pool.nextWaiter]
      { queued := [⟨pool.nextWaiter, ticket⟩] } (pool.enqueue ticket).1
  | release (lent : Lent κ) :
    Waning pool (.command (.giveBack lent)) [] { returned := [lent] }
      { pool with stock := (pool.stock.giveBack lent false).getD pool.stock }
  /-- nobody waits under this number any more -/
  | miss (id : UInt64) (nobody : ∀ waiter ∈ pool.waiting, waiter.id ≠ id) :
    Waning pool (.command (.expire id)) [] {} pool
  | expire (waiter : Waiter) (first : pool.waiting.find? (·.id = waiter.id) = some waiter) :
    Waning pool (.command (.expire waiter.id)) [.reply waiter.ticket (.error pool.timeout)]
      { expired := pool.waiting.filter (·.id = waiter.id),
        replies := [(waiter.ticket, .error pool.timeout)] }
      { pool with waiting := pool.waiting.filter (·.id ≠ waiter.id) }
  | shutdown (ticket : Nat) :
    Waning pool (.command (.shutdown ticket)) [.stopped ticket] {}
      { pool with terminated := true, stock := pool.stock.drainIdle }

/-- The numbers of those that come back which belong to the context. -/
def numbersOf (context : ContextId) (returned : List (Lent κ)) : List UInt64 :=
  (returned.filter (·.context = context)).map Lent.id

theorem numbersOf_append (context : ContextId) (first second : List (Lent κ)) :
    numbersOf context (first ++ second) = numbersOf context first ++ numbersOf context second := by
  rw [numbersOf, List.filter_append, List.map_append]
  rfl

namespace Stock

variable (stock : Stock κ) (lent : Lent κ)

theorem release_members : ((stock.giveBack lent false).getD stock).members =
    stock.members.filter (· ∉ numbersOf stock.context [lent]) := by
  by_cases ours : lent.context = stock.context
  · have one : numbersOf stock.context [lent] = [lent.id] := by simp [numbersOf, ours]
    rw [one]
    by_cases known : lent.id ∈ stock.members
    · rw [giveBack_own ours known]
      simp [forget]
    · rw [giveBack_foreign (.inr known)]
      refine (List.filter_eq_self.2 fun id member => ?_).symm
      have other : id ≠ lent.id := fun same => known (same ▸ member)
      simpa using other
  · have none : numbersOf stock.context [lent] = [] := by simp [numbersOf, ours]
    rw [none, giveBack_foreign (.inl ours)]
    simp

theorem release_idle : ((stock.giveBack lent false).getD stock).idle = stock.idle := by
  unfold giveBack
  split <;> rfl

variable {stock lent}

/-- A member that comes back is one member less. -/
theorem release_count (distinct : stock.members.Nodup) (ours : lent.context = stock.context)
    (known : lent.id ∈ stock.members) :
    lent.id ∉ ((stock.giveBack lent false).getD stock).members ∧
      ((stock.giveBack lent false).getD stock).count + 1 = stock.count := by
  have fewer : ((stock.giveBack lent false).getD stock).members = stock.members.erase lent.id := by
    rw [giveBack_own ours known, distinct.erase_eq_filter]
    simp [forget, bne, Bool.beq_eq_decide_eq]
  have occupied : 0 < stock.members.length := List.length_pos_of_mem known
  constructor
  · rw [fewer]
    exact distinct.not_mem_erase
  · rw [Stock.count, Stock.count, fewer, List.length_erase_of_mem known]
    omega

end Stock

/-- What a pool that is shut down makes of an event. -/
structure Denies (pool : Pool κ) (event : Event κ) (effects : List (Effect κ)) (after : Pool κ) :
    Prop where
  /-- no connection is made -/
  unmade : .make ∉ effects
  /-- nobody is told anything but that his time is over, and only when it is -/
  refusals : ∀ ticket result, .reply ticket result ∈ effects → result = .error pool.timeout ∧
    ∃ waiter ∈ pool.waiting, waiter.ticket = ticket ∧ event = .command (.expire waiter.id)
  /-- whoever asks waits behind the others -/
  deferred : ∀ ticket, event = .command (.request ticket) →
    effects = [.arm pool.nextWaiter] ∧ after.waiting = pool.waiting ++ [⟨pool.nextWaiter, ticket⟩]
  /-- whoever waits waits on until his time is over, and is told so -/
  patient : ∀ waiter ∈ pool.waiting, waiter ∈ after.waiting ∨
    event = .command (.expire waiter.id) ∧ ((pool.waiting.map Waiter.id).Nodup →
      .reply waiter.ticket (.error pool.timeout) ∈ effects)
  /-- a member that comes back is a member no longer -/
  returned : ∀ lent, event = .command (.giveBack lent) → lent.context = pool.stock.context →
    lent.id ∈ pool.stock.members →
      lent.id ∉ after.stock.members ∧ after.stock.count + 1 = pool.stock.count
  /-- nothing else changes the members -/
  kept : (∀ lent, event = .command (.giveBack lent) →
    lent.context = pool.stock.context → lent.id ∉ pool.stock.members) →
      after.stock.members = pool.stock.members

section Steps

variable {pool after : Pool κ} {event : Event κ} {effects : List (Effect κ)} {seen : Notes κ}

theorem step_shutdown (ready : pool.activity = .ready) (world : World κ) (ticket : Nat) :
    ShutDown (pool.step world (.command (.shutdown ticket))).1 := by
  rw [step_command ready]
  exact ⟨rfl, ready, rfl⟩

theorem Waning.of_eq {world : World κ} (rule : Waning pool event effects seen after)
    (step : pool.step world event = (after, effects)) (notes : pool.notes world event = seen) :
    Waning pool event (pool.step world event).2 (pool.notes world event)
      (pool.step world event).1 := by
  rw [step, notes]
  exact rule

theorem waning_expire (ready : pool.activity = .ready) (world : World κ) (id : UInt64) :
    Waning pool (.command (.expire id)) (pool.step world (.command (.expire id))).2
      (pool.notes world (.command (.expire id))) (pool.step world (.command (.expire id))).1 := by
  have obeys : pool.step world (.command (.expire id)) = pool.expire id := step_command ready _
  cases found : pool.waiting.find? (·.id = id) with
  | none =>
    have nobody : ∀ waiter ∈ pool.waiting, waiter.id ≠ id := by simpa using found
    apply (Waning.miss id nobody).of_eq
    · simp only [obeys, Pool.expire, found]
    · simpa [notes, obeys, Pool.expire, found, ready, Notes.ofService, called, repliesOf]
  | some waiter =>
    obtain rfl : waiter.id = id := by simpa using List.find?_some found
    apply (Waning.expire waiter found).of_eq
    · simp only [obeys, Pool.expire, found]
    · simp [notes, obeys, Pool.expire, found, ready, Notes.ofService, called, repliesOf]

/-- Every event of a pool that is shut down goes one of these ways. -/
theorem step_waning (down : ShutDown pool) (world : World κ) (event : Event κ) :
    Waning pool event (pool.step world event).2 (pool.notes world event)
      (pool.step world event).1 := by
  obtain ⟨terminated, ready, bare⟩ := down
  cases event with
  | made connection =>
    have ignores : pool.step world (.made connection) = (pool, []) := by
      simp only [step, takeMade, ready]
    apply (Waning.surplus connection).of_eq ignores
    simp [notes, ignores, ready, Notes.ofService, called, repliesOf]
  | command command =>
    have obeys : pool.step world (.command command) = pool.obey world command :=
      step_command ready command
    cases command with
    | request ticket =>
      have waits : pool.step world (.command (.request ticket)) = pool.enqueue ticket := by
        rw [obeys, obey, request, offer_stopped terminated]
      apply (Waning.defer ticket).of_eq waits
      simp [notes, waits, enqueue, Notes.ofService, called, repliesOf]
    | giveBack lent =>
      have lets : pool.step world (.command (.giveBack lent)) =
          ({ pool with stock := (pool.stock.giveBack lent false).getD pool.stock }, []) := by
        rw [obeys, obey, takeBack, if_pos terminated]
      apply (Waning.release lent).of_eq lets
      simp [notes, lets, ready, Notes.ofService, called, repliesOf]
    | expire id => exact waning_expire ready world id
    | shutdown ticket =>
      apply (Waning.shutdown ticket).of_eq obeys
      simp [notes, obeys, obey, Pool.shutdown, Notes.ofService, called, repliesOf]

end Steps

namespace Waning

variable {pool after : Pool κ} {event : Event κ} {effects : List (Effect κ)} {seen : Notes κ}

theorem down (waning : Waning pool event effects seen after) (before : ShutDown pool) :
    ShutDown after := by
  obtain ⟨terminated, ready, bare⟩ := before
  cases waning with
  | release lent => exact ⟨terminated, ready, (release_idle ..).trans bare⟩
  | shutdown => exact ⟨rfl, ready, rfl⟩
  | _ => exact ⟨terminated, ready, bare⟩

theorem context (waning : Waning pool event effects seen after) :
    after.stock.context = pool.stock.context := by
  cases waning with
  | release lent => exact giveBack_context ..
  | _ => rfl

/-- Those that come back are members no longer, and nothing else changes the members. -/
theorem members (waning : Waning pool event effects seen after) (before : ShutDown pool) :
    after.stock.members =
      pool.stock.members.filter (· ∉ numbersOf pool.stock.context seen.returned) := by
  cases waning with
  | release lent => exact release_members ..
  | shutdown => simp [drainIdle, before.bare, numbersOf]
  | surplus | defer | miss | expire => exact (List.filter_eq_self.2 fun _ _ => rfl).symm

theorem lined (waning : Waning pool event effects seen after) :
    (pool.waiting ++ seen.queued).Perm (seen.expired ++ after.waiting) := by
  cases waning with
  | defer ticket => exact .refl _
  | expire waiter =>
    have parts := List.filter_append_perm (fun other => decide (other.id = waiter.id)) pool.waiting
    rw [List.append_nil]
    simpa using parts.symm
  | surplus | release | miss | shutdown => exact List.Perm.of_eq (List.append_nil _)

theorem replies (waning : Waning pool event effects seen after) :
    ∀ reply ∈ seen.replies, reply.2 = .error pool.timeout ∧
      ∃ waiter ∈ seen.expired, waiter.ticket = reply.1 := by
  cases waning with
  | expire waiter first =>
    have late : waiter ∈ pool.waiting.filter (·.id = waiter.id) :=
      List.mem_filter.2 ⟨List.mem_of_find?_eq_some first, decide_eq_true rfl⟩
    intro reply member
    rw [List.mem_singleton.1 member]
    exact ⟨rfl, waiter, late, rfl⟩
  | _ => exact nofun

theorem timeout_eq (waning : Waning pool event effects seen after) :
    after.timeout = pool.timeout := by
  cases waning <;> rfl

theorem denies (waning : Waning pool event effects seen after)
    (distinct : pool.stock.members.Nodup) (before : ShutDown pool) :
    Denies pool event effects after := by
  constructor
  case unmade => cases waning <;> simp
  case refusals =>
    intro ticket result told
    cases waning with
    | expire waiter first =>
      cases List.mem_singleton.1 told
      exact ⟨rfl, waiter, List.mem_of_find?_eq_some first, rfl, rfl⟩
    | _ => simp at told
  case deferred =>
    rintro ticket rfl
    cases waning with
    | defer => exact ⟨rfl, rfl⟩
  case patient =>
    intro waiter waits
    cases waning with
    | defer ticket => exact .inl (List.mem_append_left _ waits)
    | expire other first =>
      by_cases same : waiter.id = other.id
      · right
        rw [same]
        refine ⟨rfl, fun apart => ?_⟩
        have one : waiter = other := List.inj_on_of_nodup_map apart waits
          (List.mem_of_find?_eq_some first) same
        rw [one]
        exact List.mem_singleton_self _
      · left
        exact List.mem_filter.2 ⟨waits, decide_eq_true same⟩
    | surplus | release | miss | shutdown => exact .inl waits
  case returned =>
    rintro lent rfl ours known
    cases waning with
    | release => exact release_count distinct ours known
  case kept =>
    intro others
    cases waning with
    | release lent =>
      have foreign := not_or_of_imp (others lent rfl)
      rw [giveBack_foreign foreign, Option.getD_none]
    | shutdown => simp [drainIdle, before.bare]
    | surplus | defer | miss | expire => rfl

end Waning

namespace ShutDown

variable {pool : Pool κ}

theorem run (down : ShutDown pool) (later : List (Moment κ)) : ShutDown (pool.run later) := by
  induction later generalizing pool with
  | nil => exact down
  | cons moment rest ih => exact ih ((step_waning down moment.world moment.event).down down)

/-- Over a run as well, the members are those that have not come back. -/
theorem members_run (down : ShutDown pool) (later : List (Moment κ)) :
    (pool.run later).stock.members = pool.stock.members.filter
      (· ∉ numbersOf pool.stock.context ((pool.journal later).flatMap Notes.returned)) := by
  induction later generalizing pool with
  | nil => exact (List.filter_eq_self.2 fun _ _ => rfl).symm
  | cons moment rest ih =>
    have waning := step_waning down moment.world moment.event
    have rest := ih (waning.down down)
    rw [waning.context, waning.members down, List.filter_filter] at rest
    rw [Pool.run, rest, journal, List.flatMap_cons, numbersOf_append]
    exact List.filter_congr fun id _ => by simp [Bool.and_comm]

/-- Over a run as well, whoever waits waits on, or his time was over. -/
theorem lined_run (down : ShutDown pool) (later : List (Moment κ)) :
    (pool.waiting ++ (pool.journal later).flatMap Notes.queued).Perm
      ((pool.journal later).flatMap Notes.expired ++ (pool.run later).waiting) := by
  induction later generalizing pool with
  | nil => exact List.Perm.of_eq (List.append_nil _)
  | cons moment rest ih =>
    have waning := step_waning down moment.world moment.event
    have rest := ih (waning.down down)
    rw [journal, Pool.run, List.flatMap_cons, List.flatMap_cons, ← List.append_assoc,
      List.append_assoc (pool.notes _ _).expired]
    refine (waning.lined.append_right _).trans ?_
    rw [List.append_assoc]
    exact rest.append_left _

/-- Nobody is told anything but that his time is over. -/
theorem replies_run (down : ShutDown pool) (later : List (Moment κ)) :
    ∀ reply ∈ (pool.journal later).flatMap Notes.replies, reply.2 = .error pool.timeout ∧
      ∃ waiter ∈ (pool.journal later).flatMap Notes.expired, waiter.ticket = reply.1 := by
  induction later generalizing pool with
  | nil => exact nofun
  | cons moment rest ih =>
    have waning := step_waning down moment.world moment.event
    intro reply member
    rw [journal, List.flatMap_cons] at member ⊢
    rcases List.mem_append.1 member with now | after
    · obtain ⟨fault, waiter, late, same⟩ := waning.replies reply now
      exact ⟨fault, waiter, List.mem_append_left _ late, same⟩
    · obtain ⟨fault, waiter, late, same⟩ := ih (waning.down down) reply after
      rw [waning.timeout_eq] at fault
      exact ⟨fault, waiter, List.mem_append_right _ late, same⟩

end ShutDown

/-- Once a pool has taken a shutdown, whatever happens then, nothing is idle, and with no event is a
connection asked for or lent. Those who waited and those who ask wait on, and are told that their
time is over when it is; as long as the numbers do not run out, everyone is. The members are those
of the shutdown that have not come back, and each that does is one less. -/
theorem shutdown_is_final {context : ContextId} {limit timeoutMillis : Nat}
    {before : List (Moment κ)}
    (ready : ((start context limit timeoutMillis).run before).activity = .ready)
    (world : World κ) (ticket : Nat) (later : List (Moment κ)) :
    let earlier := (start context limit timeoutMillis).run before
    let closed := (earlier.step world (.command (.shutdown ticket))).1
    let pool := closed.run later
    let journal := closed.journal later
    let fault : PoolFault := .timeout (timeoutMillis * Elapsed.nanosPerMilli)
    ShutDown pool ∧
    pool.stock.members.Nodup ∧
    pool.stock.members = closed.stock.members.filter
      (· ∉ numbersOf context (journal.flatMap Notes.returned)) ∧
    (earlier.waiting ++ journal.flatMap Notes.queued).Perm
      (journal.flatMap Notes.expired ++ pool.waiting) ∧
    (∀ reply ∈ journal.flatMap Notes.replies, reply.2 = .error fault ∧
      ∃ waiter ∈ journal.flatMap Notes.expired, waiter.ticket = reply.1) ∧
    pool.timeout = fault ∧
    ((((start context limit timeoutMillis).journal before ++ journal).flatMap Notes.queued).length ≤
      UInt64.size → (pool.waiting.map Waiter.id).Nodup) ∧
    ∀ world event, Denies pool event (pool.step world event).2 (pool.step world event).1 := by
  intro earlier closed pool journal fault
  have begun := (reached_run context limit timeoutMillis before).step world
    (.command (.shutdown ticket))
  have reached := begun.append later
  have down : ShutDown closed := step_shutdown ready world ticket
  have waits : closed.waiting = earlier.waiting := by
    rw [show closed = _ from congrArg Prod.fst (step_command ready _)]
    rfl
  have told (other : Pool κ) (millis : other.timeoutMillis = timeoutMillis) :
      other.timeout = fault := by rw [timeout, millis]
  refine ⟨down.run later, reached.members_nodup, ?members, ?lined, ?replies, ?fault, ?distinct,
    ?denies⟩
  case members =>
    rw [← begun.context_eq]
    exact down.members_run later
  case lined =>
    rw [← waits]
    exact down.lined_run later
  case replies =>
    rw [← told closed begun.timeoutMillis_eq]
    exact down.replies_run later
  case fault => exact told pool reached.timeoutMillis_eq
  case distinct =>
    intro few
    have quiet : (earlier.notes world (.command (.shutdown ticket))).queued = [] := rfl
    have rising := reached.lined.ascending (by
      rwa [List.flatMap_append, List.flatMap_append, List.flatMap_singleton, quiet,
        List.append_nil, ← List.flatMap_append])
    exact (List.pairwise_map.2 rising).imp UInt64.ne_of_lt
  case denies =>
    intro world event
    have down := down.run later
    exact (step_waning down world event).denies reached.members_nodup down

/-- One connection is lent and one request waits when the pool is shut down. Another request comes
to wait as well, the connection comes back, and the time of the first is over. -/
theorem shutdown_with_waiting :
    let world : World Nat := ⟨fun _ => false, fun _ => false⟩
    let moments (events : List (Event Nat)) : List (Moment Nat) :=
      events.map fun event => ⟨world, event⟩
    let before := moments [.command (.request 1), .made 7, .command (.request 2)]
    let later := moments [.command (.request 3), .command (.giveBack ⟨0, ⟨0⟩, 7⟩),
      .command (.expire 0), .command (.shutdown 9)]
    let earlier := (start ⟨0⟩ 1 10).run before
    let closed := (earlier.step world (.command (.shutdown 8))).1
    let pool := closed.run later
    earlier.activity = .ready ∧ earlier.waiting = [⟨0, 2⟩] ∧ closed.stock.members = [0] ∧
      pool.stock.members = [] ∧ pool.waiting = [⟨1, 3⟩] ∧ ShutDown pool ∧
      ∀ world event, Denies pool event (pool.step world event).2 (pool.step world event).1 := by
  intro world moments before later earlier closed pool
  have ready : earlier.activity = .ready := by decide
  obtain ⟨down, -, -, -, -, -, -, denies⟩ := shutdown_is_final ready world 8 later
  exact ⟨ready, by decide, by decide, by decide, by decide, down, denies⟩

end BoltClient.Pool
