import BoltClient.Proofs.Pool.Queueing

/-!
Who holds a connection. What is away is told from the journal: a connection that was
lent is away until it comes back, and only such a one comes back. Then each member is
idle or away, never both, and no two are the same, as long as numbers do not run out.
-/

namespace BoltClient.Pool

variable {κ : Type}

open Stock

/-- The connections that are away after a journal in which only those come back that are
away, each of them once. -/
inductive Outstanding : Journal κ → List (Lent κ) → Prop where
  | start : Outstanding [] []
  | step {journal : Journal κ} {away kept : List (Lent κ)} (before : Outstanding journal away)
    (seen : Notes κ) (back : away.Perm (seen.returned ++ kept)) :
    Outstanding (journal ++ [seen]) (seen.lent ++ kept)

section Stride

variable {world : World κ} {pool after : Pool κ} {event : Event κ} {seen : Notes κ}
  {lent : Lent κ} {away kept : List (Lent κ)}

theorem expire_lends_nothing (pool : Pool κ) (id : UInt64) :
    lentOf ((pool.waiting.find? (·.id = id)).map fun waiter =>
      (waiter.ticket, (.error pool.timeout : Except PoolFault (Lent κ)))).toList = [] := by
  cases pool.waiting.find? (·.id = id) <;> rfl

/-- Only what was made is registered. -/
theorem Stride.shrinks (stride : Stride world pool event seen after) :
    Shrinks (seen.made.foldl (fun stock connection => (stock.register connection).2) pool.stock)
      after.stock := by
  cases stride with
  | deaf | surplus | defer | ignore | expire | supply => exact .refl _
  | lend _ _ _ _ _ found | make _ _ _ _ found | queue _ _ _ _ found =>
    obtain ⟨skipped, borrows⟩ := borrows_of_eq found
    exact borrows.shrinks
  | withhold _ lent stock _ _ found =>
    obtain ⟨skipped, borrows⟩ := borrows_of_eq found
    exact borrows.shrinks.trans (shelve_shrinks { pool with stock } lent)
  | release | store => exact giveBack_getD_shrinks ..
  | takeBack _ _ _ _ _ _ taken serving => exact (giveBack_shrinks taken).trans serving.shrinks
  | shutdown => exact drainIdle_shrinks pool.stock
  | restock _ _ _ _ serving => exact serving.shrinks

/-- What comes back was away, and what is lent is away from then on. -/
theorem Stride.accounted (stride : Stride world pool event seen after)
    (before : Accounted pool.stock away) (fresh : pool.stock.nextId ∉ pool.stock.members)
    (back : away.Perm (seen.returned ++ kept)) : Accounted after.stock (seen.lent ++ kept) := by
  replace before := before.perm back
  cases stride with
  | deaf | surplus | defer => exact before
  | lend _ _ _ _ _ found | make _ _ _ _ found | queue _ _ _ _ found =>
    obtain ⟨skipped, borrows⟩ := borrows_of_eq found
    exact (before.borrow borrows).1
  | withhold _ lent stock _ _ found =>
    obtain ⟨skipped, borrows⟩ := borrows_of_eq found
    exact shelve_accounted { pool with stock } (before.borrow borrows).1
  | release lent =>
    obtain ⟨taken, next⟩ := before.giveBack_closed
    rw [taken]
    exact next
  | ignore lent _ _ unknown => exact absurd unknown (before.giveBack_ne_none _)
  | takeBack lent stock _ _ _ _ taken serving => exact serving.accounted (before.giveBack taken).1
  | expire id =>
    rw [Notes.lent, expire_lends_nothing]
    exact before
  | shutdown => exact before.drainIdle
  | supply _ connection => exact before.register fresh connection
  | store _ connection =>
    exact shelve_accounted
      { pool with stock := (pool.stock.register connection).2, activity := .ready }
      (before.register fresh connection)
  | restock connection _ _ _ serving => exact serving.accounted (before.register fresh connection)

/-- Whatever is lent was open when it was taken, unless it was made just now. -/
theorem Stride.lends_open (stride : Stride world pool event seen after)
    (given : lent ∈ seen.lent) :
    world.isClosed lent.connection = false ∨
      ∃ connection, event = .made connection ∧ lent = (pool.stock.register connection).1 := by
  cases stride with
  | lend _ _ _ _ _ found =>
    obtain ⟨skipped, borrows⟩ := borrows_of_eq found
    exact .inl (borrows.isOpen lent (List.mem_singleton.1 given ▸ rfl))
  | takeBack _ _ _ _ _ _ _ serving =>
    rcases serving.lends_open given with none | isOpen
    · cases none
    · exact .inl isOpen
  | expire id =>
    rw [Notes.lent, expire_lends_nothing] at given
    cases given
  | supply _ connection => exact .inr ⟨connection, rfl, List.mem_singleton.1 given⟩
  | restock connection _ _ _ serving =>
    rcases serving.lends_open given with atHand | isOpen
    · exact .inr ⟨connection, rfl, (Option.mem_some.1 atHand).symm⟩
    · exact .inl isOpen
  | _ => cases given

/-- A connection that was idle or comes back is lent or idle afterwards, or it is closed and a
member no longer; a pool that is shut down keeps none. -/
theorem Stride.settled (stride : Stride world pool event seen after)
    (before : Accounted pool.stock away) (fresh : pool.stock.nextId ∉ pool.stock.members)
    (back : away.Perm (seen.returned ++ kept)) (there : lent ∈ seen.returned ++ pool.stock.idle) :
    Settled world.isClosed lent seen.lent after.stock ∨
      after.terminated = true ∧ lent.id ∉ after.stock.members := by
  replace before := before.perm back
  cases stride with
  | deaf | surplus | defer | expire | supply => exact .inl (.inr (.inl there))
  | lend _ _ _ _ _ found | make _ _ _ _ found | queue _ _ _ _ found =>
    obtain ⟨skipped, borrows⟩ := borrows_of_eq found
    exact .inl (borrows.settled before there)
  | withhold _ first stock _ _ found =>
    obtain ⟨skipped, borrows⟩ := borrows_of_eq found
    have next := (before.borrow borrows).1
    have shelved := shelve_eq { pool with stock } next
    refine .inl ?_
    rw [Settled, shelved]
    rcases borrows.settled before there with taken | idle | out
    · exact .inr (.inl (List.mem_append_right _ taken))
    · exact .inr (.inl (List.mem_append_left _ idle))
    · exact .inr (.inr out)
  | release first _ terminated =>
    obtain ⟨taken, next⟩ := before.giveBack_closed
    rw [taken]
    rcases List.mem_cons.1 (there : lent ∈ first :: pool.stock.idle) with rfl | idle
    · exact .inr ⟨terminated, by simp [forget]⟩
    · exact .inl (.inr (.inl idle))
  | ignore first _ _ unknown => exact absurd unknown (before.giveBack_ne_none _)
  | takeBack first stock _ _ _ _ taken serving =>
    obtain ⟨next, ⟨-, idle⟩ | ⟨closed, idle, out⟩⟩ := before.giveBack taken
    · refine .inl (serving.settled next ?_)
      rw [idle]
      exact (List.perm_append_singleton first _).mem_iff.2 there
    · rcases List.mem_cons.1 (there : lent ∈ first :: pool.stock.idle) with rfl | stays
      · exact .inl (.inr (.inr ⟨by simpa using closed, serving.shrinks.not_mem out⟩))
      · exact .inl (serving.settled next (idle ▸ stays))
  | shutdown =>
    refine .inr ⟨rfl, ?_⟩
    have member : lent.id ∈ pool.stock.idle.map Lent.id := List.mem_map_of_mem there
    simp [drainIdle, List.contains_eq_mem, member, -List.mem_map]
  | store _ connection =>
    have shelved := shelve_eq
      { pool with stock := (pool.stock.register connection).2, activity := .ready }
      (before.register fresh connection)
    refine .inl (.inr (.inl ?_))
    rw [shelved]
    exact List.mem_append_left _ there
  | restock connection _ _ _ serving =>
    exact .inl (serving.settled (before.register fresh connection)
      (List.mem_append_right _ there))

end Stride

/-- Numbers are given out one after the other, and members have such a number. -/
structure Stock.Numbered (stock : Stock κ) (given : Nat) : Prop where
  next : stock.nextId = UInt64.ofNat given
  below : ∀ id ∈ stock.members, ∃ number < given, id = UInt64.ofNat number

namespace Stock.Numbered

variable {stock : Stock κ} {given : Nat}

theorem shrink {after : Stock κ} (numbered : Numbered stock given)
    (shrinks : Shrinks stock after) : Numbered after given :=
  ⟨shrinks.nextId.trans numbered.next, fun id member =>
    numbered.below id (shrinks.members.subset member)⟩

theorem register (numbered : Numbered stock given) (connection : κ) :
    Numbered (stock.register connection).2 (given + 1) := by
  have earlier : ∀ id ∈ stock.members, ∃ number < given + 1, id = UInt64.ofNat number := by
    intro id member
    obtain ⟨number, less, same⟩ := numbered.below id member
    exact ⟨number, Nat.lt_succ_of_lt less, same⟩
  constructor
  · simp [Stock.register, numbered.next]
  · intro id member
    simp only [Stock.register] at member
    split at member
    · exact earlier id member
    · rcases List.mem_append.1 member with old | new
      · exact earlier id old
      · exact ⟨given, Nat.lt_succ_self given, (List.mem_singleton.1 new).trans numbered.next⟩

theorem registerAll (numbered : Numbered stock given) (made : List κ) :
    Numbered (made.foldl (fun stock connection => (stock.register connection).2) stock)
      (given + made.length) := by
  induction made generalizing stock given with
  | nil => exact numbered
  | cons connection rest ih =>
    have later := ih (numbered.register connection)
    rwa [Nat.add_right_comm, Nat.add_assoc] at later

/-- As long as numbers do not run out, the next one is nobody's. -/
theorem fresh (numbered : Numbered stock given) (few : given < UInt64.size) :
    stock.nextId ∉ stock.members := by
  intro member
  obtain ⟨number, less, same⟩ := numbered.below _ member
  have values := congrArg UInt64.toNat (numbered.next.symm.trans same)
  rw [UInt64.toNat_ofNat_of_lt' few, UInt64.toNat_ofNat_of_lt' (Nat.lt_trans less few)] at values
  exact Nat.ne_of_lt less values.symm

end Stock.Numbered

theorem Outstanding.last {journal : Journal κ} {seen : Notes κ} {away : List (Lent κ)}
    (outstanding : Outstanding (journal ++ [seen]) away) :
    ∃ before kept, Outstanding journal before ∧ before.Perm (seen.returned ++ kept) ∧
      away = seen.lent ++ kept := by
  generalize whole : journal ++ [seen] = all at outstanding
  cases outstanding with
  | start => simp at whole
  | @step _ before kept earlier _ back =>
    obtain ⟨rfl, same⟩ := List.append_inj' whole rfl
    cases same
    exact ⟨before, kept, earlier, back, rfl⟩

section Runs

variable {context : ContextId} {limit timeoutMillis : Nat} {journal : Journal κ} {pool : Pool κ}
  {away : List (Lent κ)}

theorem Reached.numbered (reached : Reached context limit timeoutMillis journal pool) :
    Numbered pool.stock (journal.flatMap Notes.made).length :=
  reached.keeps (fun journal pool => Numbered pool.stock (journal.flatMap Notes.made).length)
    ⟨rfl, nofun⟩ fun {_ _ _ _ _ seen} _ before stride => by
      rw [List.flatMap_append, List.flatMap_singleton, List.length_append]
      exact (before.registerAll seen.made).shrink stride.shrinks

theorem Reached.accounted (reached : Reached context limit timeoutMillis journal pool)
    (outstanding : Outstanding journal away)
    (few : (journal.flatMap Notes.made).length < UInt64.size) : Accounted pool.stock away := by
  refine reached.keeps (fun journal pool => ∀ away, Outstanding journal away →
    (journal.flatMap Notes.made).length < UInt64.size → Accounted pool.stock away) ?_ ?_
    away outstanding few
  · intro away outstanding _
    generalize empty : ([] : Journal κ) = journal at outstanding
    cases outstanding with
    | start => exact accounted_empty context
    | step => simp at empty
  · intro journal pool after world event seen reached ih stride away outstanding few
    obtain ⟨before, kept, earlier, back, rfl⟩ := outstanding.last
    rw [List.flatMap_append, List.length_append] at few
    have fewer := Nat.lt_of_le_of_lt (Nat.le_add_right ..) few
    exact stride.accounted (ih before earlier fewer) (reached.numbered.fresh fewer) back

end Runs

/-- No connection is in two places, and there are never more than the limit allows. Whatever
is lent is open, unless it was made for whoever gets it; what is idle or comes back is never
lost, and a closed connection that is skipped is a member no longer. -/
theorem holds_each_once {context : ContextId} {limit timeoutMillis : Nat} {journal : Journal κ}
    {pool : Pool κ} {away : List (Lent κ)}
    (reached : Reached context limit timeoutMillis journal pool)
    (outstanding : Outstanding journal away)
    (few : (journal.flatMap Notes.made).length < UInt64.size) :
    (pool.stock.idle.map Lent.id).Nodup ∧ (away.map Lent.id).Nodup ∧
    (∀ lent ∈ pool.stock.idle, lent.id ∈ pool.stock.members) ∧
    (∀ lent ∈ away, lent.id ∈ pool.stock.members ∧ lent.id ∉ pool.stock.idle.map Lent.id) ∧
    pool.stock.members.Perm ((away ++ pool.stock.idle).map Lent.id) ∧
    pool.stock.count ≤ limit ∧
    ∀ (world : World κ) (event : Event κ) (kept : List (Lent κ)),
      away.Perm ((pool.notes world event).returned ++ kept) →
      (∀ lent ∈ (pool.notes world event).lent, world.isClosed lent.connection = false ∨
        ∃ connection, event = .made connection ∧ lent = (pool.stock.register connection).1) ∧
      ∀ lent ∈ (pool.notes world event).returned ++ pool.stock.idle,
        Settled world.isClosed lent (pool.notes world event).lent
            (pool.step world event).1.stock ∨
          (pool.step world event).1.terminated = true ∧
            lent.id ∉ (pool.step world event).1.stock.members := by
  have accounted := reached.accounted outstanding few
  have distinct := accounted.ids_nodup
  rw [List.map_append] at distinct
  obtain ⟨apart, idleDistinct, never⟩ := List.nodup_append.1 distinct
  refine ⟨idleDistinct, apart, ?_, ?_, accounted.members, ?_, ?_⟩
  · exact fun lent idle => accounted.mem_members (List.mem_append_right _ idle)
  · intro lent out
    have member := accounted.mem_members (List.mem_append_left pool.stock.idle out)
    exact ⟨member, fun idle => never _ (List.mem_map_of_mem out) _ idle rfl⟩
  · exact reached.limit_eq ▸ reached.conserving.within
  · intro world event kept back
    have stride := step_stride world pool event
    exact ⟨fun lent given => stride.lends_open given, fun lent there =>
      stride.settled accounted (reached.numbered.fresh few) back there⟩

/-- A connection comes back and goes to whoever waits for it; then that one holds it. -/
theorem passed_on_held_once :
    let world : World Nat := ⟨fun _ => false, fun _ => false⟩
    let lent : Lent Nat := ⟨0, ⟨0⟩, 7⟩
    let events : List (Event Nat) :=
      [.command (.request 1), .made 7, .command (.request 2), .command (.giveBack lent)]
    let pool := (start ⟨0⟩ 1 10).run (events.map fun event => ⟨world, event⟩)
    ((start ⟨0⟩ 1 10).journal (events.map fun event => ⟨world, event⟩)).map Notes.lent =
      [[], [lent], [], [lent]] ∧
    pool.stock.members = [0] ∧ pool.stock.members.Perm (([lent] ++ pool.stock.idle).map Lent.id) ∧
    pool.stock.count ≤ 1 := by
  intro world lent events pool
  let seen := (start ⟨0⟩ 1 10).journal (events.map fun event => ⟨world, event⟩)
  have none : ([] : List (Lent Nat)).Perm ([] ++ []) := .refl _
  have held : [lent].Perm ([] ++ [lent]) := .refl _
  have back : [lent].Perm ([lent] ++ []) := .refl _
  have outstanding : Outstanding seen [lent] :=
    (((Outstanding.start.step _ none).step _ none).step _ held).step _ back
  have all := holds_each_once (reached_run ⟨0⟩ 1 10 _) outstanding (by decide)
  exact ⟨by decide, by decide, all.2.2.2.2.1, all.2.2.2.2.2.1⟩

end BoltClient.Pool
