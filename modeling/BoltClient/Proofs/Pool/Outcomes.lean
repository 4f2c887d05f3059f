import Mathlib.Data.List.Nodup
import Mathlib.Data.List.Perm.Subperm
import BoltClient.Proofs.Pool.Queueing

/-!
What becomes of a request. Its ticket stands for the channel that it is answered on:
when a pool takes a request the ticket is owed an answer, and an answer clears it. A
request that waited leaves with a connection, with a timeout, or because whoever asked
has gone.
-/

namespace BoltClient.Pool

variable {κ : Type}

/-- Who a connection is being made for. -/
def Activity.ticket? : Activity → Option Nat
  | making ticket => some ticket
  | ready | refilling => none

/-- The tickets that are still owed an answer. -/
def owed (pool : Pool κ) : List Nat :=
  pool.activity.ticket?.toList ++ pool.waiting.map Waiter.ticket

/-- The ticket of the request that a pool takes with an event. -/
def taken (pool : Pool κ) : Event κ → List Nat
  | .command (.request ticket) => if pool.activity = .ready then [ticket] else []
  | .command (.giveBack _) | .command (.expire _) | .command (.shutdown _) | .made _ => []

/-- The tickets of all requests that a pool takes, in order. -/
def requests (pool : Pool κ) : List (Moment κ) → List Nat
  | [] => []
  | moment :: rest =>
    pool.taken moment.event ++ requests (pool.step moment.world moment.event).1 rest

theorem owed_ready (pool : Pool κ) (ready : pool.activity = .ready) :
    pool.owed = pool.waiting.map Waiter.ticket := by
  rw [owed, ready]
  rfl

theorem owed_making (pool : Pool κ) {ticket : Nat} (making : pool.activity = .making ticket) :
    pool.owed = ticket :: pool.waiting.map Waiter.ticket := by
  rw [owed, making]
  rfl

section Serving

variable {world : World κ} {pool after : Pool κ} {atHand : Option (Lent κ)}
  {waiters : List Waiter} {effects : List (Effect κ)}

theorem Serving.timeoutMillis (serving : Serving world pool atHand waiters after effects) :
    after.timeoutMillis = pool.timeoutMillis := by
  induction serving with
  | done | shelve | refill | full | stopped => rfl
  | pass _ _ ih | hand _ _ ih | fetch _ _ _ ih => exact ih

/-- Serving answers with connections only. -/
theorem Serving.lends (serving : Serving world pool atHand waiters after effects) :
    ∀ reply ∈ repliesOf effects, ∃ lent, reply.2 = .ok lent := by
  induction serving with
  | done | shelve | refill | full | stopped => exact nofun
  | pass _ _ ih => exact ih
  | @hand _ _ lent waiter _ effects _ _ ih =>
    intro reply member
    rw [repliesOf_disarm, repliesOf_reply] at member
    rcases List.mem_cons.1 member with rfl | later
    · exact ⟨lent, rfl⟩
    · exact ih reply later
  | fetch _ _ _ ih => exact ih

theorem borrowersOf_lent {replies : List (Nat × Except PoolFault (Lent κ))}
    (lends : ∀ reply ∈ replies, ∃ lent, reply.2 = .ok lent) :
    borrowersOf replies = replies.map Prod.fst := by
  induction replies with
  | nil => rfl
  | cons reply replies ih =>
    obtain ⟨ticket, result⟩ := reply
    obtain ⟨lent, rfl⟩ := lends _ (List.mem_cons_self ..)
    have later := ih fun other member => lends other (List.mem_cons_of_mem _ member)
    rw [List.map_cons, ← later]
    rfl

/-- Those that are called and are there are the ones that are answered. -/
theorem Serving.tickets (serving : Serving world pool atHand waiters after effects) :
    (repliesOf effects).map Prod.fst =
      ((called waiters effects).filter fun waiter => !world.isDeparted waiter.ticket).map
        Waiter.ticket := by
  rw [← borrowersOf_lent serving.lends, serving.borrowers]

/-- Whoever is handed a connection is answered with it. -/
theorem Serving.resolved (serving : Serving world pool atHand waiters after effects)
    {waiter : Waiter} (handed : waiter ∈ (called waiters effects).filter fun waiter =>
      !world.isDeparted waiter.ticket) :
    ∃ lent, (waiter.ticket, .ok lent) ∈ repliesOf effects := by
  have ticket := List.mem_map_of_mem (f := Waiter.ticket) handed
  rw [← serving.tickets] at ticket
  obtain ⟨⟨_, result⟩, member, rfl⟩ := List.mem_map.1 ticket
  obtain ⟨lent, rfl⟩ := serving.lends _ member
  exact ⟨lent, member⟩

theorem Serving.owed (serving : Serving world pool atHand waiters after effects) :
    after.owed = after.waiting.map Waiter.ticket := by
  induction serving with
  | done | shelve | refill | full | stopped => rfl
  | pass _ _ ih | hand _ _ ih | fetch _ _ _ ih => exact ih

theorem Serving.clears (serving : Serving world pool atHand waiters after effects) :
    ((repliesOf effects).map Prod.fst ++ after.owed).Sublist (waiters.map Waiter.ticket) := by
  have present := (List.filter_sublist (p := fun waiter : Waiter => !world.isDeparted waiter.ticket)
    (l := called waiters effects)).map Waiter.ticket
  have whole := congrArg (List.map Waiter.ticket) serving.queue
  rw [List.map_append] at whole
  rw [serving.tickets, serving.owed, ← whole]
  exact present.append_right _

end Serving

section Stride

variable {world : World κ} {pool after : Pool κ} {event : Event κ} {seen : Notes κ}
  {waiter : Waiter}

theorem Stride.timeoutMillis (stride : Stride world pool event seen after) :
    after.timeoutMillis = pool.timeoutMillis := by
  cases stride with
  | takeBack _ _ _ _ _ _ _ serving | restock _ _ _ _ serving => exact serving.timeoutMillis
  | _ => rfl

/-- Answers are connections or timeouts. -/
theorem Stride.answers (stride : Stride world pool event seen after) :
    ∀ reply ∈ seen.replies,
      (∃ lent, reply.2 = .ok lent) ∨ reply.2 = .error pool.timeout := by
  cases stride with
  | lend | supply =>
    intro reply member
    rw [List.mem_singleton.1 member]
    exact .inl ⟨_, rfl⟩
  | takeBack _ _ _ _ _ _ _ serving | restock _ _ _ _ serving =>
    exact fun reply member => .inl (serving.lends reply member)
  | expire id =>
    intro reply member
    obtain ⟨waiter, -, rfl⟩ := Option.map_eq_some_iff.1 (Option.mem_toList.1 member)
    exact .inr rfl
  | _ => exact nofun

theorem Stride.resolved (stride : Stride world pool event seen after)
    (handed : waiter ∈ seen.handed) : ∃ lent, (waiter.ticket, .ok lent) ∈ seen.replies := by
  cases stride with
  | takeBack _ _ _ _ _ _ _ serving | restock _ _ _ _ serving => exact serving.resolved handed
  | _ => cases handed

/-- When no two that wait have the same number, whoever waits no longer since its time is over
is told so. -/
theorem Stride.timedOut (stride : Stride world pool event seen after)
    (distinct : (pool.waiting.map Waiter.id).Nodup) (expired : waiter ∈ seen.expired) :
    (waiter.ticket, .error pool.timeout) ∈ seen.replies := by
  cases stride with
  | expire id =>
    obtain ⟨waits, same⟩ := List.mem_filter.1 expired
    obtain ⟨first, found⟩ : ∃ first, pool.waiting.find? (·.id = id) = some first :=
      Option.isSome_iff_exists.1 (List.find?_isSome.2 ⟨waiter, waits, same⟩)
    have alike : first.id = waiter.id := by
      have firstId : first.id = id := by simpa using List.find?_some found
      have waiterId : waiter.id = id := by simpa using same
      rw [firstId, waiterId]
    have one : first = waiter :=
      List.inj_on_of_nodup_map distinct (List.mem_of_find?_eq_some found) waits alike
    simp [found, one]
  | _ => cases expired

/-- An answer goes to a ticket that is owed one, or to the request that is taken, and clears it. -/
theorem Stride.clears (stride : Stride world pool event seen after) :
    (seen.replies.map Prod.fst ++ after.owed).Subperm (pool.owed ++ pool.taken event) := by
  cases stride with
  | deaf | surplus | ignore | release | shutdown => exact (List.sublist_append_left ..).subperm
  | lend ticket lent stock ready =>
    rw [taken, if_pos ready]
    exact List.perm_append_comm.subperm
  | withhold ticket lent stock ready => exact (List.sublist_append_left ..).subperm
  | make ticket stock ready =>
    rw [taken, if_pos ready, pool.owed_ready ready]
    show ([ticket] ++ pool.waiting.map Waiter.ticket).Subperm _
    exact List.perm_append_comm.subperm
  | queue ticket stock ready | defer ticket ready =>
    have later : (pool.enqueue ticket).1.owed = pool.waiting.map Waiter.ticket ++ [ticket] :=
      (owed_ready (pool.enqueue ticket).1 ready).trans (List.map_append ..)
    rw [taken, if_pos ready, pool.owed_ready ready]
    exact (List.Perm.of_eq later).subperm
  | takeBack lent stock _ _ ready _ _ serving =>
    rw [pool.owed_ready ready]
    exact (serving.clears.trans (List.sublist_append_left ..)).subperm
  | expire id ready =>
    have stay : pool.waiting.filter (·.id ≠ id) = pool.waiting.filter fun waiter =>
        !decide (waiter.id = id) := List.filter_congr fun waiter _ => by simp
    have parts := (List.filter_append_perm (fun waiter => decide (waiter.id = id))
      pool.waiting).map Waiter.ticket
    have later := owed_ready { pool with waiting := pool.waiting.filter (·.id ≠ id) } ready
    rw [taken, List.append_nil, pool.owed_ready ready, later, stay]
    cases found : pool.waiting.find? (·.id = id) with
    | none => exact (List.filter_sublist.map _).subperm
    | some waiter =>
      -- Whoever is told is one of those that leave.
      have expired : waiter ∈ pool.waiting.filter (·.id = id) :=
        List.mem_filter.2 ⟨List.mem_of_find?_eq_some found, by simpa using List.find?_some found⟩
      have one := ((List.singleton_sublist.2 expired).append_right
        (pool.waiting.filter fun waiter => !decide (waiter.id = id))).map Waiter.ticket
      exact one.subperm.trans parts.subperm
  | supply ticket connection making =>
    rw [pool.owed_making making]
    exact (List.sublist_append_left ..).subperm
  | store ticket connection making =>
    rw [pool.owed_making making]
    exact ((List.sublist_cons_self ..).trans (List.sublist_append_left ..)).subperm
  | restock connection _ _ refilling serving =>
    have before : pool.owed = pool.waiting.map Waiter.ticket := by rw [owed, refilling]; rfl
    rw [before]
    exact (serving.clears.trans (List.sublist_append_left ..)).subperm

/-- Whoever has to wait is the request that is taken. -/
theorem Stride.takes (stride : Stride world pool event seen after) :
    (seen.queued.map Waiter.ticket).Sublist (pool.taken event) := by
  cases stride with
  | queue ticket stock ready | defer ticket ready =>
    rw [taken, if_pos ready]
    exact .refl _
  | _ => exact List.nil_sublist _

end Stride

section Runs

theorem Reached.timeoutMillis_eq {context : ContextId} {limit timeoutMillis : Nat}
    {journal : Journal κ} {pool : Pool κ}
    (reached : Reached context limit timeoutMillis journal pool) :
    pool.timeoutMillis = timeoutMillis :=
  reached.keeps (fun _ pool => pool.timeoutMillis = timeoutMillis) rfl
    fun _ before stride => stride.timeoutMillis.trans before

/-- Over a run, too, each answer clears a ticket that was taken. -/
theorem run_clears (pool : Pool κ) (moments : List (Moment κ)) :
    (((pool.journal moments).flatMap Notes.replies).map Prod.fst ++ (pool.run moments).owed).Subperm
      (pool.owed ++ pool.requests moments) := by
  induction moments generalizing pool with
  | nil => exact (List.sublist_append_left ..).subperm
  | cons moment rest ih =>
    let next := (pool.step moment.world moment.event).1
    let answered := (pool.notes moment.world moment.event).replies.map Prod.fst
    have here := (step_stride moment.world pool moment.event).clears
    have later := ih next
    have first := ((List.subperm_append_left answered).2 later).trans
      (List.append_assoc .. ▸ (List.subperm_append_right (next.requests rest)).2 here)
    simpa [journal, run, requests] using first

theorem run_takes (pool : Pool κ) (moments : List (Moment κ)) :
    (((pool.journal moments).flatMap Notes.queued).map Waiter.ticket).Sublist
      (pool.requests moments) := by
  induction moments generalizing pool with
  | nil => exact .refl _
  | cons moment rest ih =>
    rw [journal, requests, List.flatMap_cons, List.map_append]
    exact (step_stride moment.world pool moment.event).takes.append
      (ih (pool.step moment.world moment.event).1)

/-- Answers of a whole run are connections or timeouts. -/
theorem Reached.answers {context : ContextId} {limit timeoutMillis : Nat}
    {journal : Journal κ} {pool : Pool κ}
    (reached : Reached context limit timeoutMillis journal pool) :
    ∀ reply ∈ journal.flatMap Notes.replies, (∃ lent, reply.2 = .ok lent) ∨
      reply.2 = .error (.timeout (timeoutMillis * Elapsed.nanosPerMilli)) := by
  refine reached.keeps (fun journal _ => ∀ reply ∈ journal.flatMap Notes.replies,
    (∃ lent, reply.2 = .ok lent) ∨
      reply.2 = .error (.timeout (timeoutMillis * Elapsed.nanosPerMilli))) nofun ?_
  intro journal pool after world event seen reached before stride reply member
  rw [List.flatMap_append, List.flatMap_singleton] at member
  rcases List.mem_append.1 member with earlier | now
  · exact before reply earlier
  · have answer := stride.answers reply now
    rwa [Pool.timeout, reached.timeoutMillis_eq] at answer

end Runs
end BoltClient.Pool
