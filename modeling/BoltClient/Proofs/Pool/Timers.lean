import BoltClient.Proofs.Pool.Outcomes

/-!
A pool with its timers. Every request that has to wait gets a timer; one that goes off
posts a message that the pool takes later, in whatever state it is by then, and being
called stops the timer of a request but not a message that is on its way. `Timely` ties
timers and messages to those who wait: there is one for each of them, and each ends the
wait of its own request or nobody's.
-/

namespace BoltClient.Pool

variable {κ : Type}

@[simp] def Effect.disarmed? : Effect κ → Option UInt64
  | disarm id => some id
  | reply _ _ | arm _ | make | stopped _ => none

/-- The numbers of the requests whose timers are stopped. -/
def disarmed (effects : List (Effect κ)) : List UInt64 := effects.filterMap Effect.disarmed?

/-- A pool, the timers that run and the messages that were posted, each with its request. -/
structure Timed (κ : Type) where
  pool : Pool κ
  armed : List Waiter
  posted : List Waiter

/-- What can happen to a pool with timers. Whatever order commands come in, a message may be
taken at any time after it was posted. -/
inductive Happening (κ : Type) where
  /-- a command or a connection reaches the pool -/
  | meet (moment : Moment κ)
  /-- a timer goes off -/
  | fire (waiter : Waiter)
  /-- a posted message reaches the pool -/
  | deliver (world : World κ) (waiter : Waiter)

namespace Timed

def start (context : ContextId) (limit timeoutMillis : Nat) : Timed κ :=
  ⟨.start context limit timeoutMillis, [], []⟩

/-- What reaches the pool with a happening. A message is taken once, by a pool that is ready. -/
def met? (timed : Timed κ) : Happening κ → Option (Moment κ)
  | .meet moment => some moment
  | .fire _ => none
  | .deliver world waiter =>
    if waiter ∈ timed.posted ∧ timed.pool.activity = .ready then
      some ⟨world, .command (.expire waiter.id)⟩
    else none

/-- An event starts the timer of whoever has to wait and stops those of whoever is called. -/
def meet (timed : Timed κ) (moment : Moment κ) : Timed κ :=
  let (pool, effects) := timed.pool.step moment.world moment.event
  let queued := (timed.pool.notes moment.world moment.event).queued
  { timed with
    pool
    armed := (timed.armed ++ queued).filter fun waiter => waiter.id ∉ disarmed effects }

def step (timed : Timed κ) : Happening κ → Timed κ
  | .meet moment => timed.meet moment
  | .fire waiter =>
    if waiter ∈ timed.armed then
      { timed with armed := timed.armed.erase waiter, posted := waiter :: timed.posted }
    else timed
  | .deliver world waiter =>
    if waiter ∈ timed.posted ∧ timed.pool.activity = .ready then
      { timed.meet ⟨world, .command (.expire waiter.id)⟩ with posted := timed.posted.erase waiter }
    else timed

def run (timed : Timed κ) : List (Happening κ) → Timed κ
  | [] => timed
  | happening :: rest => (timed.step happening).run rest

/-- All that reaches the pool, in order. -/
def moments (timed : Timed κ) : List (Happening κ) → List (Moment κ)
  | [] => []
  | happening :: rest => (timed.met? happening).toList ++ (timed.step happening).moments rest

theorem step_pool (timed : Timed κ) (happening : Happening κ) :
    (timed.step happening).pool = timed.pool.run (timed.met? happening).toList := by
  cases happening with
  | meet moment => rfl
  | fire waiter =>
    by_cases armed : waiter ∈ timed.armed
    · rw [step, if_pos armed]
      rfl
    · rw [step, if_neg armed]
      rfl
  | deliver world waiter =>
    by_cases ready : waiter ∈ timed.posted ∧ timed.pool.activity = .ready
    · rw [step, met?, if_pos ready, if_pos ready]
      rfl
    · rw [step, met?, if_neg ready, if_neg ready]
      rfl

theorem run_pool (timed : Timed κ) (happenings : List (Happening κ)) :
    (timed.run happenings).pool = timed.pool.run (timed.moments happenings) := by
  induction happenings generalizing timed with
  | nil => rfl
  | cons happening rest ih => rw [run, moments, ih, step_pool, Pool.run_append]

end Timed

/-! The timers that an event stops are those of the requests that it calls. -/

theorem Serving.disarmed {world : World κ} {pool after : Pool κ} {atHand : Option (Lent κ)}
    {waiters : List Waiter} {effects : List (Effect κ)}
    (serving : Serving world pool atHand waiters after effects) :
    disarmed effects = (called waiters effects).map Waiter.id := by
  induction serving with
  | done | shelve | refill | full | stopped => rfl
  | @pass _ _ _ waiter _ effects _ _ ih =>
    rw [called_disarm, List.map_cons, ← ih]
    rfl
  | @hand _ _ lent waiter _ effects _ _ ih =>
    rw [called_disarm, called_reply, List.map_cons, ← ih]
    rfl
  | fetch _ _ _ ih => exact ih

theorem disarmed_request (world : World κ) (pool : Pool κ) (ticket : Nat) :
    disarmed (pool.request world ticket).2 = [] := by
  unfold request
  split
  · unfold hand
    split <;> rfl
  · rfl
  · rfl

/-- Every event serves those who wait, or it stops no timer. -/
theorem step_serves (world : World κ) (pool : Pool κ) (event : Event κ) :
    disarmed (pool.step world event).2 = [] ∨
      ∃ before atHand, pool.step world event = serve world before atHand pool.waiting := by
  cases event with
  | made connection =>
    cases activity : pool.activity with
    | ready => exact .inl (by simp [step, takeMade, activity, disarmed])
    | making ticket =>
      refine .inl ?_
      simp only [step, takeMade, activity, hand]
      split <;> rfl
    | refilling => exact .inr ⟨_, _, takeMade_refilling activity connection⟩
  | command command =>
    by_cases ready : pool.activity = .ready
    · rw [step_command ready]
      cases command with
      | request ticket => exact .inl (disarmed_request world pool ticket)
      | shutdown ticket => exact .inl rfl
      | expire id =>
        refine .inl ?_
        rw [obey, Pool.expire]
        split <;> rfl
      | giveBack lent =>
        cases going : pool.terminated with
        | true => exact .inl (by simp [obey, takeBack, going, disarmed])
        | false =>
          cases taken : pool.stock.giveBack lent (!world.isClosed lent.connection) with
          | none => exact .inl (by simp [obey, takeBack, going, taken, disarmed])
          | some stock => exact .inr ⟨_, _, takeBack_taken going taken⟩
    · exact .inl (by simp [step, ready, disarmed])

theorem disarmed_step (world : World κ) (pool : Pool κ) (event : Event κ) :
    disarmed (pool.step world event).2 =
      ((called pool.waiting (pool.step world event).2).map Waiter.id) := by
  rcases step_serves world pool event with none | ⟨before, atHand, serves⟩
  · have nobody : (pool.step world event).2.countP Effect.isDisarm = 0 := by
      refine List.countP_eq_zero.2 fun effect member stops => ?_
      have left := List.filterMap_eq_nil_iff.1 none effect member
      cases effect <;> simp_all
    rw [none, called, nobody]
    rfl
  · rw [serves]
    exact (serve_serving world before atHand pool.waiting).disarmed

theorem mem_disarmed_step {world : World κ} {pool : Pool κ} {event : Event κ} {id : UInt64} :
    id ∈ disarmed (pool.step world event).2 ↔
      ∃ waiter ∈ (pool.notes world event).handed ++ (pool.notes world event).passed,
        waiter.id = id := by
  have parts := List.filter_append_perm (fun waiter => world.isDeparted waiter.ticket)
    (called pool.waiting (pool.step world event).2)
  rw [disarmed_step, List.mem_map]
  constructor
  · rintro ⟨waiter, member, same⟩
    exact ⟨waiter, (parts.symm.trans List.perm_append_comm).mem_iff.1 member, same⟩
  · rintro ⟨waiter, member, same⟩
    exact ⟨waiter, (List.perm_append_comm.trans parts).mem_iff.1 member, same⟩

/-- Whoever waits on keeps the timer, and whoever keeps it waits on or has waited too long. -/
theorem step_timers {world : World κ} {pool : Pool κ} {event : Event κ}
    (distinct : ((pool.waiting ++ (pool.notes world event).queued).map Waiter.id).Nodup) :
    let runs (waiter : Waiter) := waiter.id ∉ disarmed (pool.step world event).2
    (∀ waiter ∈ (pool.step world event).1.waiting,
      waiter ∈ pool.waiting ++ (pool.notes world event).queued ∧ runs waiter) ∧
    ∀ waiter ∈ pool.waiting ++ (pool.notes world event).queued, runs waiter →
      waiter ∈ (pool.step world event).1.waiting ∨ waiter ∈ (pool.notes world event).expired := by
  intro runs
  let seen := pool.notes world event
  let after := (pool.step world event).1
  have whole : (pool.waiting ++ seen.queued).Perm
      ((seen.handed ++ seen.passed) ++ (seen.expired ++ after.waiting)) := by
    rw [List.append_assoc]
    exact (step_stride world pool event).lined.2
  have apart := (whole.map Waiter.id).nodup_iff.1 distinct
  rw [List.map_append] at apart
  -- Timers are stopped by number, and no two of these have the same.
  constructor
  · intro waiter member
    have stays : waiter ∈ seen.expired ++ after.waiting := List.mem_append_right _ member
    refine ⟨whole.mem_iff.2 (List.mem_append_right _ stays), fun stopped => ?_⟩
    obtain ⟨other, calls, same⟩ := mem_disarmed_step.1 stopped
    exact (List.nodup_append.1 apart).2.2 _ (List.mem_map_of_mem calls) _
      (List.mem_map_of_mem stays) same
  · intro waiter member keeps
    rcases List.mem_append.1 (whole.mem_iff.1 member) with calls | rest
    · exact absurd (mem_disarmed_step.2 ⟨waiter, calls, rfl⟩) keeps
    · exact (List.mem_append.1 rest).symm

theorem Stride.ends {world : World κ} {pool after : Pool κ} {id : UInt64} {seen : Notes κ}
    (stride : Stride world pool (.command (.expire id)) seen after)
    (ready : pool.activity = .ready) : ∀ waiter ∈ after.waiting, waiter.id ≠ id := by
  cases stride with
  | deaf _ busy => exact absurd ready busy
  | expire => exact fun waiter waits => of_decide_eq_true (List.mem_filter.1 waits).2

/-- A message for a request that waits no longer changes nothing. -/
theorem expire_stale {pool : Pool κ} {id : UInt64} (gone : id ∉ pool.waiting.map Waiter.id)
    (world : World κ) : pool.step world (.command (.expire id)) = (pool, []) := by
  have missing : pool.waiting.find? (·.id = id) = none :=
    List.find?_eq_none.2 fun waiter waits same =>
      gone (List.mem_map.2 ⟨waiter, waits, of_decide_eq_true same⟩)
  rw [step]
  split
  · rw [obey, Pool.expire, missing]
  · rfl

/-- A message for a request that still waits tells it that its time is over, and nobody else. -/
theorem expire_waiting {pool : Pool κ} {waiter : Waiter} (ready : pool.activity = .ready)
    (distinct : (pool.waiting.map Waiter.id).Nodup) (waits : waiter ∈ pool.waiting)
    (world : World κ) :
    pool.step world (.command (.expire waiter.id)) =
      ({ pool with waiting := pool.waiting.erase waiter },
        [.reply waiter.ticket (.error pool.timeout)]) := by
  have only : ∀ other ∈ pool.waiting, other.id = waiter.id → other = waiter :=
    fun other there => List.inj_on_of_nodup_map distinct there waits
  have found : pool.waiting.find? (·.id = waiter.id) = some waiter := by
    cases looked : pool.waiting.find? (·.id = waiter.id) with
    | none => simpa using List.find?_eq_none.1 looked waiter waits
    | some other =>
      have same : other.id = waiter.id := by simpa using List.find?_some looked
      rw [only other (List.mem_of_find?_eq_some looked) same]
  have others : pool.waiting.filter (·.id ≠ waiter.id) = pool.waiting.erase waiter := by
    rw [(List.Nodup.of_map _ distinct).erase_eq_filter]
    refine List.filter_congr fun other there => ?_
    by_cases same : other = waiter
    · simp [same]
    · have apart : other.id ≠ waiter.id := fun ids => same (only other there ids)
      simp [same, apart]
  rw [step_command ready, obey, Pool.expire, found, others]

/-- How timers and messages stand to those who wait. -/
structure Timely (journal : Journal κ) (timed : Timed κ) : Prop where
  known : ∀ waiter ∈ timed.armed ++ timed.posted, waiter ∈ journal.flatMap Notes.queued
  once : (timed.armed ++ timed.posted).Nodup
  covered : ∀ waiter ∈ timed.pool.waiting, waiter ∈ timed.armed ++ timed.posted
  stopped : ∀ waiter ∈ timed.armed,
    waiter ∈ timed.pool.waiting ∨ waiter ∈ journal.flatMap Notes.expired

namespace Timely

variable {journal : Journal κ} {timed : Timed κ}

theorem start (context : ContextId) (limit timeoutMillis : Nat) :
    Timely [] (Timed.start context limit timeoutMillis : Timed κ) :=
  ⟨nofun, .nil, nofun, nofun⟩

theorem meet (timely : Timely journal timed) (lined : Lined journal timed.pool)
    (moment : Moment κ)
    (distinct : (((journal ++ [timed.pool.notes moment.world moment.event]).flatMap
      Notes.queued).map Waiter.id).Nodup) :
    Timely (journal ++ [timed.pool.notes moment.world moment.event]) (timed.meet moment) := by
  obtain ⟨world, event⟩ := moment
  let seen := timed.pool.notes world event
  simp only [List.flatMap_append, List.flatMap_singleton] at distinct
  have waits : timed.pool.waiting.Sublist (journal.flatMap Notes.queued) :=
    (List.sublist_append_right ..).trans lined.order
  obtain ⟨stays, leaves⟩ :=
    step_timers (distinct.sublist ((waits.append_right seen.queued).map Waiter.id))
  constructor
  case known =>
    intro waiter member
    rw [List.flatMap_append, List.flatMap_singleton]
    rcases List.mem_append.1 member with runs | posted
    · rcases List.mem_append.1 (List.mem_filter.1 runs).1 with armed | queued
      · exact List.mem_append_left _ (timely.known waiter (List.mem_append_left _ armed))
      · exact List.mem_append_right _ queued
    · exact List.mem_append_left _ (timely.known waiter (List.mem_append_right _ posted))
  case once =>
    -- The newcomer has a number that nobody had before, so no timer or message is the newcomer's.
    have queuedOnce := List.nodup_append.1 (List.Nodup.of_map _ distinct)
    have all : ((timed.armed ++ timed.posted) ++ seen.queued).Nodup :=
      List.nodup_append.2 ⟨timely.once, queuedOnce.2.1, fun waiter old other new =>
        queuedOnce.2.2 waiter (timely.known waiter old) other new⟩
    have same : ((timed.armed ++ timed.posted) ++ seen.queued).Perm
        ((timed.armed ++ seen.queued) ++ timed.posted) := by
      rw [List.append_assoc, List.append_assoc]
      exact List.perm_append_comm.append_left _
    exact (same.nodup_iff.1 all).sublist (List.filter_sublist.append_right _)
  case covered =>
    intro waiter member
    obtain ⟨before, keeps⟩ := stays waiter member
    have runs : waiter ∈ timed.armed ++ seen.queued → waiter ∈ (timed.meet ⟨world, event⟩).armed :=
      fun armed => List.mem_filter.2 ⟨armed, decide_eq_true keeps⟩
    rcases List.mem_append.1 before with waited | queued
    · rcases List.mem_append.1 (timely.covered waiter waited) with armed | posted
      · exact List.mem_append_left _ (runs (List.mem_append_left _ armed))
      · exact List.mem_append_right _ posted
    · exact List.mem_append_left _ (runs (List.mem_append_right _ queued))
  case stopped =>
    intro waiter member
    obtain ⟨armed, runs⟩ := List.mem_filter.1 member
    rw [List.flatMap_append, List.flatMap_singleton]
    have here : waiter ∈ timed.pool.waiting ++ seen.queued →
        waiter ∈ (timed.pool.step world event).1.waiting ∨
          waiter ∈ journal.flatMap Notes.expired ++ seen.expired :=
      fun waits =>
        (leaves waiter waits (of_decide_eq_true runs)).imp_right (List.mem_append_right _)
    rcases List.mem_append.1 armed with old | queued
    · rcases timely.stopped waiter old with waits | expired
      · exact here (List.mem_append_left _ waits)
      · exact .inr (List.mem_append_left _ expired)
    · exact here (List.mem_append_right _ queued)

/-- A timer that goes off leaves its message in its place. -/
theorem fire (timely : Timely journal timed) (waiter : Waiter) :
    Timely journal (timed.step (.fire waiter)) := by
  by_cases armed : waiter ∈ timed.armed
  · rw [Timed.step, if_pos armed]
    have moved : (timed.armed ++ timed.posted).Perm
        (timed.armed.erase waiter ++ waiter :: timed.posted) :=
      ((List.perm_cons_erase armed).append_right timed.posted).trans List.perm_middle.symm
    exact ⟨fun other member => timely.known other (moved.mem_iff.2 member),
      moved.nodup_iff.1 timely.once,
      fun other waits => moved.mem_iff.1 (timely.covered other waits),
      fun other runs => timely.stopped other (List.mem_of_mem_erase runs)⟩
  · rw [Timed.step, if_neg armed]
    exact timely

/-- A message that is taken is there no longer, and neither does its request wait. -/
theorem deliver {waiter : Waiter} (timely : Timely journal timed)
    (gone : waiter ∉ timed.pool.waiting) :
    Timely journal { timed with posted := timed.posted.erase waiter } := by
  have fewer : (timed.armed ++ timed.posted.erase waiter).Sublist (timed.armed ++ timed.posted) :=
    (List.erase_sublist ..).append_left timed.armed
  refine ⟨fun other member => timely.known other (fewer.subset member), timely.once.sublist fewer,
    fun other waits => ?_, timely.stopped⟩
  have others : other ≠ waiter := fun same => gone (same ▸ waits)
  rcases List.mem_append.1 (timely.covered other waits) with armed | posted
  · exact List.mem_append_left _ armed
  · exact List.mem_append_right _ ((List.mem_erase_of_ne others).2 posted)

theorem step (timely : Timely journal timed) (lined : Lined journal timed.pool)
    (happening : Happening κ)
    (distinct : (((journal ++ timed.pool.journal (timed.met? happening).toList).flatMap
      Notes.queued).map Waiter.id).Nodup) :
    Timely (journal ++ timed.pool.journal (timed.met? happening).toList)
      (timed.step happening) := by
  cases happening with
  | meet moment => exact timely.meet lined moment distinct
  | fire waiter =>
    show Timely (journal ++ []) _
    rw [List.append_nil]
    exact timely.fire waiter
  | deliver world waiter =>
    by_cases ready : waiter ∈ timed.posted ∧ timed.pool.activity = .ready
    · rw [Timed.met?, if_pos ready] at distinct ⊢
      rw [Timed.step, if_pos ready]
      have ended := (step_stride world timed.pool (.command (.expire waiter.id))).ends ready.2
      exact (timely.meet lined _ distinct).deliver fun waits => ended waiter waits rfl
    · rw [Timed.met?, if_neg ready, Timed.step, if_neg ready]
      show Timely (journal ++ []) _
      rw [List.append_nil]
      exact timely

/-- As long as numbers do not run out, timers and messages stay with those who wait. -/
theorem run {context : ContextId} {limit timeoutMillis : Nat}
    (timely : Timely journal timed)
    (reached : Reached context limit timeoutMillis journal timed.pool)
    (happenings : List (Happening κ))
    (distinct : (((journal ++ timed.pool.journal (timed.moments happenings)).flatMap
      Notes.queued).map Waiter.id).Nodup) :
    Timely (journal ++ timed.pool.journal (timed.moments happenings)) (timed.run happenings) := by
  induction happenings generalizing journal timed with
  | nil =>
    show Timely (journal ++ []) timed
    rw [List.append_nil]
    exact timely
  | cons happening rest ih =>
    have split : journal ++ timed.pool.journal (timed.moments (happening :: rest)) =
        (journal ++ timed.pool.journal (timed.met? happening).toList) ++
          (timed.step happening).pool.journal ((timed.step happening).moments rest) := by
      rw [Timed.moments, journal_append, ← Timed.step_pool, List.append_assoc]
    rw [split] at distinct ⊢
    have earlier := distinct
    rw [List.flatMap_append, List.map_append] at earlier
    have next := timely.step reached.lined happening (List.nodup_append.1 earlier).1
    have later := reached.append (timed.met? happening).toList
    rw [← Timed.step_pool] at later
    exact ih next later distinct

/-- A posted message ends the wait of its own request, or nobody's. -/
theorem posted_step (timely : Timely journal timed) (lined : Lined journal timed.pool)
    (distinct : ((journal.flatMap Notes.queued).map Waiter.id).Nodup) {waiter : Waiter}
    (posted : waiter ∈ timed.posted) (ready : timed.pool.activity = .ready) (world : World κ) :
    timed.pool.step world (.command (.expire waiter.id)) =
      if waiter ∈ timed.pool.waiting then
        ({ timed.pool with waiting := timed.pool.waiting.erase waiter },
          [.reply waiter.ticket (.error timed.pool.timeout)])
      else (timed.pool, []) := by
  have waits : timed.pool.waiting.Sublist (journal.flatMap Notes.queued) :=
    (List.sublist_append_right ..).trans lined.order
  by_cases still : waiter ∈ timed.pool.waiting
  · rw [if_pos still]
    exact expire_waiting ready (distinct.sublist (waits.map Waiter.id)) still world
  · rw [if_neg still]
    refine expire_stale (fun number => still ?_) world
    obtain ⟨other, there, alike⟩ := List.mem_map.1 number
    have ours := timely.known waiter (List.mem_append_right _ posted)
    have same : other = waiter :=
      List.inj_on_of_nodup_map distinct (waits.subset there) ours alike
    exact same ▸ there

/-- The timer of whoever was called is stopped. -/
theorem called_stopped (timely : Timely journal timed) (lined : Lined journal timed.pool)
    (distinct : ((journal.flatMap Notes.queued).map Waiter.id).Nodup) :
    ∀ waiter ∈ journal.flatMap Notes.handed ++ journal.flatMap Notes.passed,
      waiter ∉ timed.armed := by
  intro waiter called armed
  have apart := lined.whole.nodup_iff.1 (List.Nodup.of_map _ distinct)
  rw [← List.append_assoc] at apart
  have never := (List.nodup_append.1 apart).2.2 waiter called waiter
  rcases timely.stopped waiter armed with still | expired
  · exact never (List.mem_append_right _ still) rfl
  · exact never (List.mem_append_left _ expired) rfl

end Timely

/-- Whoever waits leaves once: with a connection, told that the time is over, or found to have
gone; and no ticket is answered twice, nor while it is owed an answer. A message for nobody who
waits changes nothing. Until the numbers run out, no two that wait have the same, exactly one
timer or message is there for each of them, whoever is called has no timer any more, and a
posted message ends no wait but that of its own request, in whatever state it finds the pool. -/
theorem waits_end_once (context : ContextId) (limit timeoutMillis : Nat)
    (happenings : List (Happening κ)) :
    let timed := (Timed.start context limit timeoutMillis : Timed κ).run happenings
    let moments := (Timed.start context limit timeoutMillis).moments happenings
    let journal := (start context limit timeoutMillis).journal moments
    let requests := (start context limit timeoutMillis).requests moments
    let queued := journal.flatMap Notes.queued
    let handed := journal.flatMap Notes.handed
    let passed := journal.flatMap Notes.passed
    let expired := journal.flatMap Notes.expired
    let replies := journal.flatMap Notes.replies
    let pool := timed.pool
    pool = (start context limit timeoutMillis).run moments ∧
    queued.Perm (handed ++ (passed ++ (expired ++ pool.waiting))) ∧
    (queued.map Waiter.ticket).Sublist requests ∧
    (requests.Nodup → (replies.map Prod.fst ++ pool.owed).Nodup) ∧
    (∀ reply ∈ replies, (∃ lent, reply.2 = .ok lent) ∨
      reply.2 = .error (.timeout (timeoutMillis * Elapsed.nanosPerMilli))) ∧
    (∀ (world : World κ) (event : Event κ),
      let seen := pool.notes world event
      (∀ waiter ∈ seen.handed, ∃ lent, (waiter.ticket, .ok lent) ∈ seen.replies) ∧
      (∀ waiter ∈ seen.passed, world.isDeparted waiter.ticket = true) ∧
      ((pool.waiting.map Waiter.id).Nodup → ∀ waiter ∈ seen.expired,
        (waiter.ticket, .error pool.timeout) ∈ seen.replies)) ∧
    (∀ id, id ∉ pool.waiting.map Waiter.id → ∀ world,
      pool.step world (.command (.expire id)) = (pool, [])) ∧
    (queued.length ≤ UInt64.size →
      (pool.waiting.map Waiter.id).Nodup ∧
      (∀ waiter ∈ timed.posted, waiter ∈ queued ∧ (pool.activity = .ready → ∀ world,
        pool.step world (.command (.expire waiter.id)) =
          if waiter ∈ pool.waiting then
            ({ pool with waiting := pool.waiting.erase waiter },
              [.reply waiter.ticket (.error pool.timeout)])
          else (pool, []))) ∧
      (∀ waiter ∈ pool.waiting, (timed.armed ++ timed.posted).count waiter = 1) ∧
      ∀ waiter ∈ handed ++ passed, waiter ∉ timed.armed) := by
  intro timed moments journal requests queued handed passed expired replies pool
  have same : pool = (start context limit timeoutMillis).run moments := Timed.run_pool ..
  have reached : Reached context limit timeoutMillis journal pool := by
    rw [same]
    exact reached_run ..
  have lined := reached.lined
  have stride := fun world event => step_stride world pool event
  refine ⟨same, lined.whole, run_takes .., fun once => ?_, reached.answers,
    fun world event => ⟨fun _ => (stride world event).resolved, fun waiter member =>
      (List.mem_filter.1 member).2, fun numbers _ => (stride world event).timedOut numbers⟩,
    fun id => expire_stale, fun few => ?_⟩
  · obtain ⟨arranged, perm, within⟩ := run_clears (start context limit timeoutMillis) moments
    rw [← same] at perm
    exact perm.nodup_iff.1 (once.sublist within)
  · have distinct := lined.distinct few
    have waits : pool.waiting.Sublist queued := (List.sublist_append_right ..).trans lined.order
    have timely : Timely journal timed :=
      (Timely.start context limit timeoutMillis).run .start happenings distinct
    refine ⟨distinct.sublist (waits.map Waiter.id), fun waiter posted => ⟨?_, ?_⟩,
      fun waiter member => ?_, timely.called_stopped lined distinct⟩
    · exact timely.known waiter (List.mem_append_right _ posted)
    · exact timely.posted_step lined distinct posted
    · exact List.count_eq_one_of_mem timely.once (timely.covered waiter member)

/-- A timer goes off, its request is handed a connection, and the message finds another waiting. -/
example :
    let world : World Nat := ⟨fun _ => false, fun _ => false⟩
    let meet (event : Event Nat) : Happening Nat := .meet ⟨world, event⟩
    let timed := (Timed.start ⟨0⟩ 1 10).run [meet (.command (.request 1)), meet (.made 7),
      meet (.command (.request 2)), .fire ⟨0, 2⟩, meet (.command (.giveBack ⟨0, ⟨0⟩, 7⟩)),
      meet (.command (.request 3)), .deliver world ⟨0, 2⟩]
    timed.pool.waiting = [⟨1, 3⟩] ∧ timed.armed = [⟨1, 3⟩] ∧ timed.posted = [] := by decide

end BoltClient.Pool
