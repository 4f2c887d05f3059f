import BoltClient.Proofs.Pool.Coverage

/-!
A pool with those who borrow from it. Whoever asks may give up at any moment: before the pool has
looked at the request, while it waits, while a connection is made for it, or when the answer has
been sent and not been picked up. In all cases but the last the pool finds out before it lends
anything. In the last the connection is lost with the answer: nobody holds it, nobody will bring it
back, and it stays a member for good. `Lobby` follows each connection to where it is, lost ones
included, and nothing else is missing.
-/

namespace BoltClient.Pool

variable {κ : Type}

@[simp] def Command.returned? : Command κ → Option (Lent κ)
  | giveBack lent => some lent
  | request _ | expire _ | shutdown _ => none

/-- The answers that bring connections. -/
def grantsOf (replies : List (Nat × Except PoolFault (Lent κ))) : List (Nat × Lent κ) :=
  replies.filterMap fun (ticket, result) => result.toOption.map (ticket, ·)

/-- A pool, the commands on their way to it, and what became of the connections that it lent. -/
structure Lobby (κ : Type) where
  pool : Pool κ
  posted : List (Command κ)
  /-- answers that were sent and have not been picked up -/
  unread : List (Nat × Lent κ)
  /-- connections with whoever asked for them -/
  held : List (Nat × Lent κ)
  /-- those who have given up -/
  departed : List Nat
  /-- connections in answers that nobody will pick up -/
  lost : List (Lent κ)

/-- What can happen between a pool and those who borrow from it. -/
inductive Turn (κ : Type) where
  | ask (ticket : Nat)
  /-- whoever asked picks up the answer -/
  | collect (ticket : Nat)
  /-- whoever holds a connection brings it back -/
  | handIn (ticket : Nat)
  /-- whoever asked will not pick up an answer -/
  | abandon (ticket : Nat)
  /-- the timer of a request goes off -/
  | ring (id : UInt64)
  | stop (ticket : Nat)
  /-- the pool takes the first command, if it is ready -/
  | take (isClosed : κ → Bool)
  /-- a connection has been made -/
  | make (isClosed : κ → Bool) (connection : κ)

namespace Lobby

def start (context : ContextId) (limit timeoutMillis : Nat) : Lobby κ :=
  ⟨.start context limit timeoutMillis, [], [], [], [], []⟩

def world (lobby : Lobby κ) (isClosed : κ → Bool) : World κ :=
  ⟨isClosed, lobby.departed.contains⟩

/-- Whether an answer or a connection is for a ticket. -/
def isFor (ticket : Nat) (grant : Nat × Lent κ) : Bool := grant.1 = ticket

/-- The command that is taken next, and those behind it. -/
def next? (lobby : Lobby κ) : Option (Command κ × List (Command κ)) :=
  if lobby.pool.activity = .ready then
    match lobby.posted with
    | command :: rest => some (command, rest)
    | [] => none
  else none

def post (lobby : Lobby κ) (command : Command κ) : Lobby κ :=
  { lobby with posted := lobby.posted ++ [command] }

/-- Lets an event happen to the pool, which sends its answers. -/
def meet (lobby : Lobby κ) (moment : Moment κ) : Lobby κ :=
  let (pool, effects) := lobby.pool.step moment.world moment.event
  { lobby with pool, unread := lobby.unread ++ grantsOf (repliesOf effects) }

def step (lobby : Lobby κ) : Turn κ → Lobby κ
  | .ask ticket => lobby.post (.request ticket)
  | .collect ticket =>
    { lobby with
      unread := lobby.unread.filter (!isFor ticket ·)
      held := lobby.held ++ lobby.unread.filter (isFor ticket) }
  | .handIn ticket =>
    { lobby with
      held := lobby.held.filter (!isFor ticket ·)
      posted := lobby.posted ++ (lobby.held.filter (isFor ticket)).map (.giveBack ·.2) }
  | .abandon ticket =>
    { lobby with
      departed := ticket :: lobby.departed
      unread := lobby.unread.filter (!isFor ticket ·)
      lost := lobby.lost ++ (lobby.unread.filter (isFor ticket)).map Prod.snd }
  | .ring id => lobby.post (.expire id)
  | .stop ticket => lobby.post (.shutdown ticket)
  | .take isClosed =>
    match lobby.next? with
    | some (command, rest) =>
      { lobby with posted := rest }.meet ⟨lobby.world isClosed, .command command⟩
    | none => lobby
  | .make isClosed connection => lobby.meet ⟨lobby.world isClosed, .made connection⟩

def run (lobby : Lobby κ) : List (Turn κ) → Lobby κ
  | [] => lobby
  | turn :: rest => (lobby.step turn).run rest

/-- What reaches the pool with a turn. -/
def met? (lobby : Lobby κ) : Turn κ → Option (Moment κ)
  | .take isClosed =>
    lobby.next?.map fun (command, _) => ⟨lobby.world isClosed, .command command⟩
  | .make isClosed connection => some ⟨lobby.world isClosed, .made connection⟩
  | .ask _ | .collect _ | .handIn _ | .abandon _ | .ring _ | .stop _ => none

/-- All that reaches the pool, in order. -/
def moments (lobby : Lobby κ) : List (Turn κ) → List (Moment κ)
  | [] => []
  | turn :: rest => (lobby.met? turn).toList ++ (lobby.step turn).moments rest

/-- The connections that are unread, held, or on their way back. -/
def out (lobby : Lobby κ) : List (Lent κ) :=
  lobby.unread.map Prod.snd ++
    (lobby.held.map Prod.snd ++ lobby.posted.filterMap Command.returned?)

/-- The connections that were lent and have not reached the pool again. -/
def away (lobby : Lobby κ) : List (Lent κ) := lobby.lost ++ lobby.out

theorem step_pool (lobby : Lobby κ) (turn : Turn κ) :
    (lobby.step turn).pool = lobby.pool.run (lobby.met? turn).toList := by
  cases turn with
  | take isClosed =>
    rw [step, met?]
    cases lobby.next? <;> rfl
  | _ => rfl

theorem run_pool (lobby : Lobby κ) (turns : List (Turn κ)) :
    (lobby.run turns).pool = lobby.pool.run (lobby.moments turns) := by
  induction turns generalizing lobby with
  | nil => rfl
  | cons turn rest ih => rw [run, moments, ih, step_pool, Pool.run_append]

theorem next?_eq_some {lobby : Lobby κ} {command : Command κ} {rest : List (Command κ)} :
    lobby.next? = some (command, rest) ↔
      lobby.pool.activity = .ready ∧ lobby.posted = command :: rest := by
  unfold next?
  split
  · next ready =>
    cases lobby.posted with
    | nil => simp
    | cons first others => simp [ready]
  · next busy => simp [busy]

theorem map_grantsOf (replies : List (Nat × Except PoolFault (Lent κ))) :
    (grantsOf replies).map Prod.snd = lentOf replies := by
  induction replies with
  | nil => rfl
  | cons reply replies ih =>
    obtain ⟨ticket, result⟩ := reply
    cases result with
    | error fault => exact ih
    | ok lent => exact congrArg (List.cons lent) ih

theorem isFor_perm (ticket : Nat) (grants : List (Nat × Lent κ)) :
    (grants.map Prod.snd).Perm ((grants.filter (!isFor ticket ·)).map Prod.snd ++
      (grants.filter (isFor ticket)).map Prod.snd) := by
  rw [← List.map_append]
  exact ((List.filter_append_perm (isFor ticket) grants).symm.trans List.perm_append_comm).map _

theorem notes_returned {pool : Pool κ} (ready : pool.activity = .ready) (world : World κ)
    (command : Command κ) :
    (pool.notes world (.command command)).returned = command.returned?.toList := by
  cases command with
  | giveBack lent => exact if_pos ready
  | request | expire | shutdown => rfl

/-- An event lends what the notes say, and nothing else goes away. -/
theorem meet_away (lobby : Lobby κ) (moment : Moment κ) :
    (lobby.meet moment).away.Perm
      ((lobby.pool.notes moment.world moment.event).lent ++ lobby.away) := by
  have sent : ((lobby.meet moment).unread.map Prod.snd) = lobby.unread.map Prod.snd ++
      (lobby.pool.notes moment.world moment.event).lent := by
    rw [meet, List.map_append, map_grantsOf]
    rfl
  change (lobby.lost ++ ((lobby.meet moment).unread.map Prod.snd ++
    (lobby.held.map Prod.snd ++ lobby.posted.filterMap Command.returned?))).Perm _
  -- Both sides have the same parts in another order, so it is enough to count.
  classical
  rw [sent, List.perm_iff_count]
  intro lent
  simp only [away, out, List.count_append]
  omega

/-- Picking up, bringing back and giving up move connections and lose sight of none. -/
theorem move_away (lobby : Lobby κ) {turn : Turn κ} (still : lobby.met? turn = none) :
    (lobby.step turn).away.Perm lobby.away := by
  cases turn with
  | ask | ring | stop => exact .of_eq (by simp [step, post, away, out])
  | collect ticket | abandon ticket =>
    have parts := isFor_perm ticket lobby.unread
    classical
    rw [List.perm_iff_count] at parts ⊢
    intro lent
    have here := parts lent
    simp only [away, out, step, List.map_append, List.count_append] at here ⊢
    omega
  | handIn ticket =>
    have parts := isFor_perm ticket lobby.held
    have back : ((lobby.held.filter (isFor ticket)).map fun grant =>
        Command.giveBack grant.2).filterMap Command.returned? =
          (lobby.held.filter (isFor ticket)).map Prod.snd := by
      rw [List.filterMap_map, ← List.filterMap_eq_map]
      rfl
    classical
    rw [List.perm_iff_count] at parts ⊢
    intro lent
    have here := parts lent
    simp only [away, out, step, List.filterMap_append, back, List.count_append] at here ⊢
    omega
  | make => cases still
  | take isClosed =>
    cases next : lobby.next? with
    | none => exact .of_eq (by simp [step, next])
    | some taken => simp [met?, next] at still

/-- A command that the pool takes is on its way no longer, nor is what it brings back. -/
theorem taken_away {lobby : Lobby κ} {command : Command κ} {rest : List (Command κ)}
    (next : lobby.next? = some (command, rest)) (world : World κ) :
    lobby.away.Perm ((lobby.pool.notes world (.command command)).returned ++
      { lobby with posted := rest }.away) := by
  obtain ⟨ready, posted⟩ := next?_eq_some.1 next
  have split : lobby.posted.filterMap Command.returned? =
      command.returned?.toList ++ rest.filterMap Command.returned? := by
    rw [posted]
    cases command <;> rfl
  classical
  rw [notes_returned ready, List.perm_iff_count]
  intro lent
  simp only [away, out, split, List.count_append]
  omega

/-- What comes back with a turn was away, and what is lent is away from then on. -/
theorem step_away (lobby : Lobby κ) {turn : Turn κ} {moment : Moment κ}
    (met : lobby.met? turn = some moment) :
    let seen := lobby.pool.notes moment.world moment.event
    ∃ kept, lobby.away.Perm (seen.returned ++ kept) ∧
      (lobby.step turn).away.Perm (seen.lent ++ kept) := by
  intro seen
  cases turn with
  | ask | collect | handIn | abandon | ring | stop => cases met
  | make isClosed connection =>
    cases met
    exact ⟨lobby.away, .refl _, meet_away lobby _⟩
  | take isClosed =>
    cases next : lobby.next? with
    | none => simp [met?, next] at met
    | some taken =>
      obtain ⟨command, rest⟩ := taken
      simp only [met?, next, Option.map_some, Option.some.injEq] at met
      subst met
      refine ⟨_, taken_away next _, ?_⟩
      rw [step, next]
      exact meet_away { lobby with posted := rest } _

/-- How a lobby stands to the journal of its pool. -/
structure Kept (context : ContextId) (limit timeoutMillis : Nat) (journal : Journal κ)
    (lobby : Lobby κ) : Prop where
  reached : Reached context limit timeoutMillis journal lobby.pool
  outstanding : ∃ away, Outstanding journal away ∧ away.Perm lobby.away
  covered : lobby.pool.stock.Covered lobby.away

namespace Kept

variable {context : ContextId} {limit timeoutMillis : Nat} {journal : Journal κ} {lobby : Lobby κ}

theorem begins :
    Kept context limit timeoutMillis [] (Lobby.start context limit timeoutMillis : Lobby κ) :=
  ⟨.start, ⟨[], .start, .refl _⟩, .empty context⟩

theorem step (kept : Kept context limit timeoutMillis journal lobby) (turn : Turn κ) :
    Kept context limit timeoutMillis (journal ++ lobby.pool.journal (lobby.met? turn).toList)
      (lobby.step turn) := by
  obtain ⟨away, outstanding, same⟩ := kept.outstanding
  have pool := lobby.step_pool turn
  have reached := kept.reached.append (lobby.met? turn).toList
  rw [← pool] at reached
  cases met : lobby.met? turn with
  | none =>
    -- The pool does not notice, and only the order of what is away changes.
    rw [met] at pool reached
    have still := (lobby.move_away met).symm
    refine ⟨reached, ⟨away, ?_, same.trans still⟩, ?_⟩
    · exact (List.append_nil journal).symm ▸ outstanding
    · rw [pool]
      exact kept.covered.perm still
  | some moment =>
    rw [met] at pool reached
    obtain ⟨stay, back, later⟩ := lobby.step_away met
    have stride := step_stride moment.world lobby.pool moment.event
    refine ⟨reached, ⟨_, outstanding.step _ (same.trans back), later.symm⟩, ?_⟩
    rw [pool]
    exact (stride.covered kept.covered back).perm later.symm

theorem run (kept : Kept context limit timeoutMillis journal lobby) (turns : List (Turn κ)) :
    Kept context limit timeoutMillis (journal ++ lobby.pool.journal (lobby.moments turns))
      (lobby.run turns) := by
  induction turns generalizing journal lobby with
  | nil => exact (List.append_nil journal).symm ▸ kept
  | cons turn rest ih =>
    have later := ih (kept.step turn)
    rw [step_pool] at later
    rwa [moments, journal_append, ← List.append_assoc]

end Kept

theorem lost_step (lobby : Lobby κ) (turn : Turn κ) :
    ∃ more, (lobby.step turn).lost = lobby.lost ++ more := by
  cases turn with
  | abandon ticket => exact ⟨_, rfl⟩
  | take isClosed =>
    refine ⟨[], ?_⟩
    rw [step, List.append_nil]
    cases lobby.next? <;> rfl
  | _ => exact ⟨[], (List.append_nil _).symm⟩

/-- What is lost stays lost. -/
theorem lost_run (lobby : Lobby κ) (turns : List (Turn κ)) :
    ∃ more, (lobby.run turns).lost = lobby.lost ++ more := by
  induction turns generalizing lobby with
  | nil => exact ⟨[], (List.append_nil _).symm⟩
  | cons turn rest ih =>
    obtain ⟨here, first⟩ := lobby.lost_step turn
    obtain ⟨later, others⟩ := ih (lobby.step turn)
    exact ⟨here ++ later, by rw [run, others, first, List.append_assoc]⟩

/-- Nothing is lost but in answers of those who give up before they have picked them up. -/
theorem lost_of_read (lobby : Lobby κ) (turns : List (Turn κ))
    (read : ∀ before ticket after, turns = before ++ .abandon ticket :: after →
      ∀ grant ∈ (lobby.run before).unread, grant.1 ≠ ticket) :
    (lobby.run turns).lost = lobby.lost := by
  induction turns generalizing lobby with
  | nil => rfl
  | cons turn rest ih =>
    have later := ih (lobby.step turn) fun before ticket after split =>
      read (turn :: before) ticket after (congrArg (List.cons turn) split)
    refine later.trans ?_
    cases turn with
    | abandon ticket =>
      have none : lobby.unread.filter (isFor ticket) = [] :=
        List.filter_eq_nil_iff.2 fun grant member same =>
          read [] ticket rest rfl grant member (of_decide_eq_true same)
      simp [step, none]
    | take isClosed =>
      rw [step]
      cases lobby.next? <;> rfl
    | _ => rfl

end Lobby

/-- A pool that has room beside what is away answers whoever asks: with an idle connection, or with
one that is made. -/
theorem request_answered {pool : Pool κ} {away : List (Lent κ)} (ready : pool.activity = .ready)
    (going : pool.terminated = false) (covered : pool.stock.Covered away)
    (distinct : pool.stock.members.Nodup) (few : away.length < pool.limit) {world : World κ}
    {ticket : Nat} (present : world.isDeparted ticket = false) :
    (∃ lent, (pool.step world (.command (.request ticket))).2 = [.reply ticket (.ok lent)]) ∨
    (pool.step world (.command (.request ticket))).2 = [.make] ∧
      ∀ (later : World κ) (connection : κ), later.isDeparted ticket = false →
        ∃ lent, ((pool.step world (.command (.request ticket))).1.step later (.made connection)).2 =
          [.reply ticket (.ok lent)] := by
  rw [step_command ready, obey, request]
  rcases looked : pool.stock.borrow world.isClosed with ⟨taken, stock⟩
  obtain ⟨skipped, borrows⟩ := Stock.borrows_of_eq looked
  cases taken with
  | some lent =>
    refine .inl ⟨lent, ?_⟩
    rw [offer_found going looked]
    simp [hand, present]
  | none =>
    have left := (covered.borrow borrows).count_le (distinct.sublist borrows.shrinks.members)
    rw [borrows.all rfl] at left
    have room : stock.count < pool.limit := Nat.lt_of_le_of_lt left few
    rw [offer_room going looked room]
    refine .inr ⟨rfl, ?_⟩
    intro later connection stays
    refine ⟨(stock.register connection).1, ?_⟩
    simp [step, takeMade, hand, stays]

/-- Nobody waits while there is room beside what is away. -/
theorem nobody_waits {pool : Pool κ} {away : List (Lent κ)} (conserving : Conserving pool)
    (ready : pool.activity = .ready) (going : pool.terminated = false)
    (covered : pool.stock.Covered away) (distinct : pool.stock.members.Nodup)
    (few : away.length < pool.limit) : pool.waiting = [] := by
  by_contra someone
  obtain ⟨empty, full⟩ := conserving.waits going ready someone
  have within := covered.count_le distinct
  rw [empty, List.length_nil] at within
  omega

/-- Every member is idle, with somebody or on its way, unless it is lost; and lost are, for good,
the connections in answers that were sent to those who gave up before they had picked them up. As
long as numbers do not run out, each of these counts against the limit. Where fewer are lost than
the limit allows and no other connection is out, nobody waits and whoever asks is answered. -/
theorem loses_unread_replies (context : ContextId) (limit timeoutMillis : Nat)
    (turns : List (Turn κ)) :
    let lobby := (Lobby.start context limit timeoutMillis : Lobby κ).run turns
    let moments := (Lobby.start context limit timeoutMillis).moments turns
    let made := ((start context limit timeoutMillis).journal moments).flatMap Notes.made
    let pool := lobby.pool
    pool = (start context limit timeoutMillis).run moments ∧
    (∀ id ∈ pool.stock.members,
      ∃ lent ∈ lobby.lost ++ lobby.out ++ pool.stock.idle, lent.id = id) ∧
    (made.length < UInt64.size →
      pool.stock.members.Perm ((lobby.lost ++ lobby.out ++ pool.stock.idle).map Lent.id) ∧
      pool.stock.count = lobby.lost.length + lobby.out.length + pool.stock.idleCount ∧
      pool.stock.count ≤ limit) ∧
    (∀ later, ∃ more, (lobby.run later).lost = lobby.lost ++ more) ∧
    ((∀ before ticket after, turns = before ++ .abandon ticket :: after →
      ∀ grant ∈ ((Lobby.start context limit timeoutMillis).run before).unread,
        grant.1 ≠ ticket) → lobby.lost = []) ∧
    (lobby.out = [] → lobby.lost.length < limit → pool.terminated = false →
      pool.activity = .ready →
      pool.waiting = [] ∧ ∀ (world : World κ) (ticket : Nat), world.isDeparted ticket = false →
        let asked := pool.step world (.command (.request ticket))
        (∃ lent, asked.2 = [.reply ticket (.ok lent)]) ∨
        asked.2 = [.make] ∧ ∀ (later : World κ) (connection : κ),
          later.isDeparted ticket = false →
            ∃ lent, (asked.1.step later (.made connection)).2 = [.reply ticket (.ok lent)]) := by
  intro lobby moments made pool
  have kept : Lobby.Kept context limit timeoutMillis
      ((start context limit timeoutMillis).journal moments) lobby := Lobby.Kept.begins.run turns
  have distinct := kept.reached.members_nodup
  refine ⟨Lobby.run_pool .., kept.covered.members, ?_, lobby.lost_run, ?_, ?_⟩
  · intro few
    obtain ⟨away, outstanding, same⟩ := kept.outstanding
    have accounted := (kept.reached.accounted outstanding few).perm same
    have count := accounted.members.length_eq
    rw [List.length_map, List.length_append, Lobby.away, List.length_append] at count
    exact ⟨accounted.members, count, kept.reached.limit_eq ▸ kept.reached.conserving.within⟩
  · exact Lobby.lost_of_read _ turns
  · intro nothing few going ready
    have covered := kept.covered
    rw [Lobby.away, nothing, List.append_nil] at covered
    rw [← kept.reached.limit_eq] at few
    refine ⟨nobody_waits kept.reached.conserving ready going covered distinct few, ?_⟩
    exact fun world ticket present => request_answered ready going covered distinct few present

/-- The only connection is sent to somebody who gives up: nothing is out and the member is not idle,
so whoever asks next waits until the time is over. -/
theorem unread_reply_lost :
    let isClosed : Nat → Bool := fun _ => false
    let turns : List (Turn Nat) := [.ask 1, .take isClosed, .make isClosed 7, .abandon 1]
    let lobby := (Lobby.start ⟨0⟩ 1 50).run turns
    let later := lobby.run [.ask 2, .take isClosed]
    lobby.pool.terminated = false ∧ lobby.pool.activity = .ready ∧ lobby.out = [] ∧
    lobby.pool.stock.count = 1 ∧ lobby.pool.stock.idleCount = 0 ∧
    later.pool.waiting = [⟨0, 2⟩] ∧ later.out = [] ∧
    (later.pool.step (later.world isClosed) (.command (.expire 0))).2 =
      [.reply 2 (.error (.timeout 50000000))] :=
  ⟨rfl, rfl, rfl, rfl, rfl, rfl, rfl, rfl⟩

end BoltClient.Pool
