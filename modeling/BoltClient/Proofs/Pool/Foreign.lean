import Mathlib.Data.List.Nodup
import BoltClient.Proofs.Pool.Ownership

/-!
A pool that is handed a connection of another pool. It tells its own by the context and by the
number, and each pool counts from zero; so a connection of a pool for another context is refused,
and one with a number that is no member's is ignored. But two pools for the same context give out
the same numbers. What a pool lends or keeps idle was made for it as long as nothing comes back
under a number of its own that is not its own.
-/

namespace BoltClient.Pool

variable {κ : Type}

open Stock

/-- The connections that a pool registers, with the numbers that they get. -/
def issued (context : ContextId) (made : List κ) : List (Lent κ) :=
  made.zipIdx.map fun (connection, number) => ⟨UInt64.ofNat number, context, connection⟩

theorem issued_append (context : ContextId) (first second : List κ) :
    issued context (first ++ second) = issued context first ++
      (second.zipIdx first.length).map fun (connection, number) =>
        ⟨UInt64.ofNat number, context, connection⟩ := by
  rw [issued, List.zipIdx_append, List.map_append, Nat.zero_add]
  rfl

theorem mem_issued_ids {context : ContextId} {made : List κ} {id : UInt64} :
    id ∈ (issued context made).map Lent.id ↔ ∃ number < made.length, id = UInt64.ofNat number := by
  have ids : (issued context made).map Lent.id = (List.range made.length).map UInt64.ofNat := by
    rw [issued, List.map_map, List.range_eq_range', ← List.zipIdx_map_snd 0 made, List.map_map]
    rfl
  rw [ids, List.mem_map]
  simp only [List.mem_range, eq_comm]

section Steps

variable {world : World κ} {pool after : Pool κ} {event : Event κ} {seen : Notes κ}

theorem Stock.giveBack_context (stock : Stock κ) (lent : Lent κ) (reusable : Bool) :
    ((stock.giveBack lent reusable).getD stock).context = stock.context := by
  unfold giveBack
  split
  · rfl
  · split <;> rfl

/-- What is taken back may be idle then, and nothing else is that was not. -/
theorem Stock.mem_idle_giveBack {stock : Stock κ} {given lent : Lent κ} {reusable : Bool}
    (idle : lent ∈ ((stock.giveBack given reusable).getD stock).idle) :
    lent ∈ stock.idle ∨
      lent = given ∧ given.context = stock.context ∧ given.id ∈ stock.members := by
  by_cases own : given.context = stock.context ∧ given.id ∈ stock.members
  · rw [giveBack_own own.1 own.2, Option.getD_some] at idle
    cases reusable with
    | true => exact (List.mem_append.1 idle).imp_right fun new => ⟨List.mem_singleton.1 new, own⟩
    | false => exact .inl idle
  · rw [giveBack_foreign (not_and_or.1 own)] at idle
    exact .inl idle

theorem Serving.context {atHand : Option (Lent κ)} {waiters : List Waiter}
    {effects : List (Effect κ)} (serving : Serving world pool atHand waiters after effects) :
    after.stock.context = pool.stock.context := by
  induction serving with
  | done | stopped => rfl
  | shelve => exact giveBack_context ..
  | pass _ _ ih | hand _ _ ih => exact ih
  | fetch _ found _ ih =>
    obtain ⟨skipped, borrows⟩ := borrows_of_eq found
    exact ih.trans borrows.context
  | refill _ _ _ missing | full _ _ _ missing =>
    obtain ⟨skipped, borrows⟩ := borrows_of_eq missing
    exact borrows.context

theorem Stride.context (stride : Stride world pool event seen after) :
    after.stock.context = pool.stock.context := by
  cases stride with
  | deaf | surplus | defer | ignore | expire | shutdown | supply => rfl
  | lend _ _ _ _ _ found | make _ _ _ _ found | queue _ _ _ _ found =>
    obtain ⟨skipped, borrows⟩ := borrows_of_eq found
    exact borrows.context
  | withhold _ _ _ _ _ found =>
    obtain ⟨skipped, borrows⟩ := borrows_of_eq found
    exact (giveBack_context ..).trans borrows.context
  | release | store => exact giveBack_context ..
  | takeBack lent _ _ _ _ _ taken serving =>
    have same := giveBack_context pool.stock lent (!world.isClosed lent.connection)
    rw [taken] at same
    exact serving.context.trans same
  | restock _ _ _ _ serving => exact serving.context

/-- What is served from is idle or at hand. -/
theorem Serving.sources {atHand : Option (Lent κ)} {waiters : List Waiter}
    {effects : List (Effect κ)} (serving : Serving world pool atHand waiters after effects) :
    ∀ lent ∈ lentOf (repliesOf effects) ++ after.stock.idle,
      lent ∈ atHand.toList ++ pool.stock.idle := by
  induction serving with
  | done | stopped => exact fun lent member => member
  | shelve pool first =>
    intro lent member
    rcases mem_idle_giveBack (member : lent ∈ (Pool.shelve _ first).stock.idle) with
      idle | ⟨rfl, -⟩
    · exact List.mem_cons_of_mem _ idle
    · exact List.mem_cons_self
  | pass _ _ ih => exact ih
  | @hand pool _ first _ _ effects _ _ ih =>
    intro lent member
    rcases List.mem_cons.1 (member : lent ∈ first :: (lentOf (repliesOf effects) ++ _)) with
      rfl | later
    · exact List.mem_cons_self
    · exact List.mem_cons_of_mem _ (ih lent later)
  | fetch _ found _ ih =>
    obtain ⟨skipped, borrows⟩ := borrows_of_eq found
    exact fun lent member => borrows.mem_idle (ih lent member)
  | refill _ _ _ missing | full _ _ _ missing =>
    obtain ⟨skipped, borrows⟩ := borrows_of_eq missing
    exact fun lent member => borrows.mem_idle member

/-- What a pool lends or keeps idle was idle before, came back as its own, or was made for it. -/
theorem Stride.sources (stride : Stride world pool event seen after) :
    ∀ lent ∈ seen.lent ++ after.stock.idle, lent ∈ pool.stock.idle ∨
      lent ∈ seen.returned ∧ lent.context = pool.stock.context ∧ lent.id ∈ pool.stock.members ∨
      ∃ connection, seen.made = [connection] ∧ lent = (pool.stock.register connection).1 := by
  intro lent member
  cases stride with
  | deaf | surplus | defer | ignore => exact .inl member
  | shutdown => cases member
  | expire id =>
    rw [Notes.lent, expire_lends_nothing] at member
    exact .inl member
  | lend _ _ _ _ _ found | make _ _ _ _ found | queue _ _ _ _ found =>
    obtain ⟨skipped, borrows⟩ := borrows_of_eq found
    exact .inl (borrows.mem_idle member)
  | withhold _ first _ _ _ found =>
    obtain ⟨skipped, borrows⟩ := borrows_of_eq found
    rcases mem_idle_giveBack (member : lent ∈ (Pool.shelve _ first).stock.idle) with
      idle | ⟨rfl, -⟩
    · exact .inl (borrows.mem_idle (List.mem_cons_of_mem _ idle))
    · exact .inl (borrows.mem_idle List.mem_cons_self)
  | release first =>
    rcases mem_idle_giveBack member with idle | ⟨rfl, own⟩
    · exact .inl idle
    · exact .inr (.inl ⟨List.mem_cons_self, own⟩)
  | takeBack first stock _ _ _ _ taken serving =>
    have source : lent ∈ stock.idle := serving.sources lent member
    have back : ((pool.stock.giveBack first (!world.isClosed first.connection)).getD
        pool.stock).idle = stock.idle := by rw [taken]; rfl
    rw [← back] at source
    rcases mem_idle_giveBack source with idle | ⟨rfl, own⟩
    · exact .inl idle
    · exact .inr (.inl ⟨List.mem_cons_self, own⟩)
  | supply _ connection =>
    rcases List.mem_cons.1 member with rfl | idle
    · exact .inr (.inr ⟨connection, rfl, rfl⟩)
    · exact .inl idle
  | store _ connection =>
    rcases mem_idle_giveBack (member : lent ∈ (Pool.shelve _ _).stock.idle) with idle | ⟨rfl, -⟩
    · exact .inl idle
    · exact .inr (.inr ⟨connection, rfl, rfl⟩)
  | restock connection _ _ _ serving =>
    rcases List.mem_cons.1 (serving.sources lent member) with rfl | idle
    · exact .inr (.inr ⟨connection, rfl, rfl⟩)
    · exact .inl idle

end Steps

section Runs

variable {context : ContextId} {limit timeoutMillis : Nat} {journal : Journal κ} {pool : Pool κ}

theorem Reached.context_eq (reached : Reached context limit timeoutMillis journal pool) :
    pool.stock.context = context :=
  reached.keeps (fun _ pool => pool.stock.context = context) rfl
    fun _ before stride => stride.context.trans before

/-- What a pool lends has its context and a number that it has given out. -/
theorem Reached.lends_numbered (reached : Reached context limit timeoutMillis journal pool) :
    ∀ lent ∈ journal.flatMap Notes.lent ++ pool.stock.idle, lent.context = context ∧
      ∃ number < (journal.flatMap Notes.made).length, lent.id = UInt64.ofNat number := by
  refine reached.keeps (fun journal pool =>
    ∀ lent ∈ journal.flatMap Notes.lent ++ pool.stock.idle, lent.context = context ∧
      ∃ number < (journal.flatMap Notes.made).length, lent.id = UInt64.ofNat number) nofun ?_
  intro journal pool after world event seen reached before stride lent member
  rw [List.flatMap_append, List.flatMap_singleton, List.length_append]
  rw [List.flatMap_append, List.flatMap_singleton, List.append_assoc] at member
  have wider : ∀ lent : Lent κ, (∃ number < (journal.flatMap Notes.made).length,
      lent.id = UInt64.ofNat number) →
        ∃ number < (journal.flatMap Notes.made).length + seen.made.length,
          lent.id = UInt64.ofNat number :=
    fun _ ⟨number, less, same⟩ => ⟨number, Nat.lt_add_right _ less, same⟩
  rcases List.mem_append.1 member with earlier | now
  · exact (before lent (List.mem_append_left _ earlier)).imp_right (wider lent)
  · rcases stride.sources lent now with idle | ⟨-, ours, known⟩ | ⟨connection, made, rfl⟩
    · exact (before lent (List.mem_append_right _ idle)).imp_right (wider lent)
    · exact ⟨ours.trans reached.context_eq, wider lent (reached.numbered.below _ known)⟩
    · refine ⟨reached.context_eq, _, ?_, reached.numbered.next⟩
      rw [made]
      exact Nat.lt_succ_self _

/-- A pool to which nothing comes back under a number of its own that is not its own lends what was
made for it, and nothing else. -/
theorem Reached.lends_issued (reached : Reached context limit timeoutMillis journal pool)
    (honest : ∀ lent ∈ journal.flatMap Notes.returned,
      lent ∈ issued context (journal.flatMap Notes.made) ∨ lent.context ≠ context ∨
        lent.id ∉ (issued context (journal.flatMap Notes.made)).map Lent.id) :
    ∀ lent ∈ journal.flatMap Notes.lent ++ pool.stock.idle,
      lent ∈ issued context (journal.flatMap Notes.made) := by
  -- What was issued by the end bounds what was issued before.
  generalize whole : issued context (journal.flatMap Notes.made) = all at honest
  have within : ∀ lent ∈ issued context (journal.flatMap Notes.made), lent ∈ all :=
    fun lent member => whole ▸ member
  refine reached.keeps (fun journal pool =>
    (∀ lent ∈ issued context (journal.flatMap Notes.made), lent ∈ all) →
    (∀ lent ∈ journal.flatMap Notes.returned,
      lent ∈ all ∨ lent.context ≠ context ∨ lent.id ∉ all.map Lent.id) →
    ∀ lent ∈ journal.flatMap Notes.lent ++ pool.stock.idle, lent ∈ all) ?_ ?_ within honest
  · exact fun _ _ => nofun
  · clear within honest whole reached
    intro journal pool after world event seen reached ih stride within honest lent member
    rw [List.flatMap_append, List.flatMap_singleton] at within honest
    rw [List.flatMap_append, List.flatMap_singleton, List.append_assoc] at member
    rw [issued_append] at within
    have before := ih (fun lent member => within lent (List.mem_append_left _ member))
      (fun lent member => honest lent (List.mem_append_left _ member))
    rcases List.mem_append.1 member with earlier | now
    · exact before lent (List.mem_append_left _ earlier)
    · rcases stride.sources lent now with idle | ⟨back, ours, known⟩ | ⟨connection, made, rfl⟩
      · exact before lent (List.mem_append_right _ idle)
      · rcases honest lent (List.mem_append_right _ back) with own | elsewhere | unknown
        · exact own
        · exact absurd (ours.trans reached.context_eq) elsewhere
        · obtain ⟨issue, member, same⟩ :=
            List.mem_map.1 (mem_issued_ids.2 (reached.numbered.below _ known))
          have number := List.mem_map_of_mem (f := Lent.id)
            (within issue (List.mem_append_left _ member))
          exact absurd (same ▸ number) unknown
      · apply within
        rw [made, ← reached.context_eq, register, reached.numbered.next]
        simp

end Runs

/-- Serving without a word is serving nobody: those who wait get nothing only where nothing open is
idle. -/
theorem Serving.silent {world : World κ} {pool after : Pool κ} {waiters : List Waiter}
    (serving : Serving world pool none waiters after []) (going : pool.terminated = false)
    {lent : Lent κ} (idle : lent ∈ pool.stock.idle)
    (isOpen : world.isClosed lent.connection = false) : after.stock = pool.stock := by
  cases serving with
  | done => rfl
  | fetch _ _ later => cases later
  | stopped _ _ terminated => simp [going] at terminated
  | full _ _ _ missing =>
    obtain ⟨skipped, borrows⟩ := borrows_of_eq missing
    rw [borrows.idle, borrows.all rfl] at idle
    have closed := borrows.closed lent (by simpa using idle)
    simp [isOpen] at closed

theorem Stock.forget_members_ne {stock : Stock κ} {id : UInt64} {members : List UInt64}
    (known : id ∈ stock.members) (fewer : members.Sublist (stock.forget id).members) :
    members ≠ stock.members := by
  rintro rfl
  have stays := fewer.subset known
  simp [forget] at stays

section Return

variable {pool : Pool κ} {lent : Lent κ}

/-- What comes back under a number of a member is kept, or it takes the member with it. -/
theorem takeBack_own_ne (ours : lent.context = pool.stock.context)
    (known : lent.id ∈ pool.stock.members) (world : World κ) :
    pool.takeBack world lent ≠ (pool, []) := by
  intro same
  cases going : pool.terminated with
  | true =>
    rw [takeBack, if_pos going, giveBack_own ours known] at same
    have members := congrArg (fun outcome => outcome.1.stock.members) same
    exact forget_members_ne known (.refl _) members
  | false =>
    rw [takeBack_taken going (giveBack_own ours known _)] at same
    have serving := serve_serving world { pool with
      stock := if !world.isClosed lent.connection then
        { pool.stock with idle := pool.stock.idle ++ [lent] } else pool.stock.forget lent.id }
      none pool.waiting
    rw [same] at serving
    cases shut : world.isClosed lent.connection with
    | true =>
      rw [shut] at serving
      exact forget_members_ne known serving.shrinks.members rfl
    | false =>
      rw [shut] at serving
      have stays := serving.silent going (List.mem_append_right _ List.mem_cons_self) shut
      have longer := congrArg (fun stock => stock.idle.length) stays
      simp at longer

/-- A connection that comes back changes nothing exactly if the context is another or the number is
no member's. -/
theorem giveBack_ignored_iff (ready : pool.activity = .ready) (world : World κ) (lent : Lent κ) :
    pool.step world (.command (.giveBack lent)) = (pool, []) ↔
      lent.context ≠ pool.stock.context ∨ lent.id ∉ pool.stock.members := by
  rw [step_command ready, obey]
  constructor
  · intro same
    by_contra own
    rw [not_or, Decidable.not_not, Decidable.not_not] at own
    exact takeBack_own_ne own.1 own.2 world same
  · intro foreign
    simp [takeBack, giveBack_foreign foreign]

end Return

/-- A pool tells a connection of another pool by its context and its number. One for another context
is refused; one for the same context is ignored exactly if its number is no member's, and numbers
count what each of the pools has made. So a pool lends what was made for it, and nothing else, as
long as nothing comes back under a number of its own that is not its own. -/
theorem ignores_unless_numbered_alike {context other : ContextId}
    {limit timeoutMillis otherLimit otherMillis : Nat} {journal others : Journal κ}
    {pool neighbour : Pool κ} (lender : Reached context limit timeoutMillis journal pool)
    (taker : Reached other otherLimit otherMillis others neighbour) :
    let own := issued other (others.flatMap Notes.made)
    (∀ lent ∈ journal.flatMap Notes.lent,
      accepts other lent =
        (if context = other then .ok () else .error (.otherContext context other)) ∧
      (∃ number < (journal.flatMap Notes.made).length, lent.id = UInt64.ofNat number) ∧
      ∀ world, neighbour.activity = .ready →
        (neighbour.step world (.command (.giveBack lent)) = (neighbour, []) ↔
          context ≠ other ∨ lent.id ∉ neighbour.stock.members)) ∧
    (∀ id ∈ neighbour.stock.members,
      ∃ number < (others.flatMap Notes.made).length, id = UInt64.ofNat number) ∧
    ((∀ lent ∈ others.flatMap Notes.returned,
      lent ∈ own ∨ lent.context ≠ other ∨ lent.id ∉ own.map Lent.id) →
      ∀ lent ∈ others.flatMap Notes.lent ++ neighbour.stock.idle, lent ∈ own) := by
  intro own
  refine ⟨?_, taker.numbered.below, taker.lends_issued⟩
  intro lent given
  obtain ⟨rfl, numbered⟩ := lender.lends_numbered lent (List.mem_append_left _ given)
  refine ⟨rfl, numbered, ?_⟩
  intro world ready
  rw [giveBack_ignored_iff ready, taker.context_eq]

/-- A pool that has lent its only connection, and lets somebody wait, is handed the second connection
of another pool. -/
theorem ignores_second_of_other :
    let world : World Nat := ⟨fun _ => false, fun _ => false⟩
    let moment (event : Event Nat) : Moment Nat := ⟨world, event⟩
    let lending := [moment (.command (.request 1)), moment (.made 6),
      moment (.command (.request 2)), moment (.made 7)]
    let taking := [moment (.command (.request 1)), moment (.made 8), moment (.command (.request 2))]
    let foreign : Lent Nat := ⟨1, ⟨0⟩, 7⟩
    let neighbour := (start ⟨0⟩ 1 50).run taking
    foreign ∈ ((start ⟨0⟩ 2 50).journal lending).flatMap Notes.lent ∧
    neighbour.stock.members = [0] ∧ neighbour.waiting = [⟨0, 2⟩] ∧
    neighbour.step world (.command (.giveBack foreign)) = (neighbour, []) ∧
    ∀ lent ∈ ((start ⟨0⟩ 1 50).journal taking).flatMap Notes.lent ++ neighbour.stock.idle,
      lent ∈ issued ⟨0⟩ [8] := by
  intro world moment lending taking foreign neighbour
  have given : foreign ∈ ((start ⟨0⟩ 2 50).journal lending).flatMap Notes.lent := by decide
  have members : neighbour.stock.members = [0] := by decide
  have unknown : foreign.id ∉ neighbour.stock.members := by rw [members]; decide
  have nothing : ((start ⟨0⟩ 1 50).journal taking).flatMap Notes.returned = [] := by decide
  have made : ((start ⟨0⟩ 1 50).journal taking).flatMap Notes.made = [8] := by decide
  obtain ⟨each, -, own⟩ :=
    ignores_unless_numbered_alike (reached_run ⟨0⟩ 2 50 lending) (reached_run ⟨0⟩ 1 50 taking)
  refine ⟨given, members, by decide, ((each _ given).2.2 world rfl).2 (.inr unknown), ?_⟩
  rw [made, nothing] at own
  exact own nofun

/-- Two pools for the same context have each lent their first connection. The one that is handed the
other's lends it on, while its own is still away. -/
theorem foreign_lent_on :
    let world : World Nat := ⟨fun _ => false, fun _ => false⟩
    let moment (event : Event Nat) : Moment Nat := ⟨world, event⟩
    let foreign : Lent Nat := ⟨0, ⟨0⟩, 7⟩
    let moments := [moment (.command (.request 1)), moment (.made 8), moment (.command (.request 2))]
    let neighbour := (start ⟨0⟩ 1 50).run moments
    foreign ∈ ((start ⟨0⟩ 1 50).journal
      [moment (.command (.request 1)), moment (.made 7)]).flatMap Notes.lent ∧
    ((start ⟨0⟩ 1 50).journal moments).flatMap Notes.lent = [⟨0, ⟨0⟩, 8⟩] ∧
    accepts ⟨0⟩ foreign = .ok () ∧
    (neighbour.step world (.command (.giveBack foreign))).2 =
      [.disarm 0, .reply 2 (.ok foreign)] := by
  intro world moment foreign moments neighbour
  exact ⟨by decide, by decide, rfl, rfl⟩

end BoltClient.Pool
