import Mathlib.Data.List.Perm.Subperm
import BoltClient.Proofs.Pool.Ownership

/-!
Where a member can be, however many connections were ever made. When numbers are given out anew two
connections may share one, and then not every connection that is away is a member of its own; but a
member is still the number of one that is idle or away. `Covered` says so, and every operation keeps
it, also when a connection that comes back is not taken.
-/

namespace BoltClient.Pool

variable {κ : Type}

open Stock

/-- Each member is the number of a connection that is idle or away. -/
structure Stock.Covered (stock : Stock κ) (away : List (Lent κ)) : Prop where
  members : ∀ id ∈ stock.members, ∃ lent ∈ away ++ stock.idle, lent.id = id
  context : ∀ lent ∈ away ++ stock.idle, lent.context = stock.context

namespace Stock.Covered

variable {stock : Stock κ} {lent : Lent κ} {away others : List (Lent κ)}

theorem empty (context : ContextId) : Covered (.empty context : Stock κ) [] := ⟨nofun, nofun⟩

/-- No member is lost when no number is, and what is there may be away as well. -/
theorem of_mem {after : Stock κ} (covered : Covered stock away)
    (members : ∀ id ∈ after.members, id ∈ stock.members)
    (kept : ∀ lent ∈ away ++ stock.idle, lent.id ∈ after.members → lent ∈ others ++ after.idle)
    (there : ∀ lent ∈ others ++ after.idle, lent ∈ away ++ stock.idle)
    (context : after.context = stock.context) : Covered after others := by
  constructor
  · intro id member
    obtain ⟨lent, found, rfl⟩ := covered.members id (members id member)
    exact ⟨lent, kept lent found member, rfl⟩
  · intro lent found
    rw [context]
    exact covered.context lent (there lent found)

theorem perm (covered : Covered stock away) (same : away.Perm others) : Covered stock others := by
  have all := same.append_right stock.idle
  exact covered.of_mem (fun _ => id) (fun _ found _ => all.mem_iff.1 found)
    (fun _ found => all.mem_iff.2 found) rfl

theorem borrow {isClosed : κ → Bool} {taken : Option (Lent κ)} {after : Stock κ}
    {skipped : List (Lent κ)} (covered : Covered stock away)
    (borrows : Borrows isClosed stock taken after skipped) :
    Covered after (taken.toList ++ away) := by
  refine covered.of_mem borrows.shrinks.members.subset ?_ ?_ borrows.context
  · intro lent found member
    rw [borrows.idle] at found
    simp only [List.mem_append] at found ⊢
    rcases found with elsewhere | skips | taken | idle
    · exact .inl (.inr elsewhere)
    · exact absurd member (borrows.out skips)
    · exact .inl (.inl taken)
    · exact .inr idle
  · intro lent found
    simp only [List.mem_append] at found ⊢
    rcases found with (taken | elsewhere) | idle
    · exact .inr (borrows.mem_idle (List.mem_append_left _ taken))
    · exact .inl elsewhere
    · exact .inr (borrows.mem_idle (List.mem_append_right _ idle))

/-- What comes back is idle then, or a member no longer; what is not taken was none. -/
theorem giveBack (covered : Covered stock (lent :: away)) (reusable : Bool) :
    Covered ((stock.giveBack lent reusable).getD stock) away := by
  have less : ∀ other ∈ away ++ stock.idle, other ∈ lent :: away ++ stock.idle :=
    fun other found => List.mem_cons_of_mem _ found
  have gone : ∀ other ∈ lent :: away ++ stock.idle, other.id ≠ lent.id →
      other ∈ away ++ stock.idle := by
    intro other found apart
    rcases List.mem_cons.1 found with rfl | later
    · exact absurd rfl apart
    · exact later
  by_cases known : lent.id ∈ stock.members
  · rw [giveBack_own (covered.context lent (by simp)) known, Option.getD_some]
    cases reusable with
    | true =>
      have all : (lent :: away ++ stock.idle).Perm (away ++ (stock.idle ++ [lent])) := by
        rw [← List.append_assoc]
        exact (List.perm_append_singleton lent (away ++ stock.idle)).symm
      exact covered.of_mem (fun _ => id) (fun _ found _ => all.mem_iff.1 found)
        (fun _ found => all.mem_iff.2 found) rfl
    | false =>
      refine covered.of_mem (fun _ member => (List.mem_filter.1 member).1) ?_ less rfl
      exact fun other found member =>
        gone other found (of_decide_eq_true (List.mem_filter.1 member).2)
  · rw [giveBack_foreign (.inr known)]
    exact covered.of_mem (fun _ => id)
      (fun other found member => gone other found fun same => known (same ▸ member)) less rfl

theorem register (covered : Covered stock away) (connection : κ) :
    Covered (stock.register connection).2 ((stock.register connection).1 :: away) := by
  constructor
  · intro id member
    have known : id ∈ stock.members ∨ id = stock.nextId := by
      simp only [Stock.register] at member
      split at member
      · exact .inl member
      · simpa using member
    rcases known with old | rfl
    · obtain ⟨lent, found, same⟩ := covered.members id old
      exact ⟨lent, List.mem_cons_of_mem _ found, same⟩
    · exact ⟨_, List.mem_cons_self, rfl⟩
  · intro lent found
    rcases List.mem_cons.1 found with rfl | old
    · rfl
    · exact covered.context lent old

theorem drainIdle (covered : Covered stock away) : Covered stock.drainIdle away := by
  refine covered.of_mem (fun _ member => (List.mem_filter.1 member).1) ?_ ?_ rfl
  · intro lent found member
    rcases List.mem_append.1 found with elsewhere | idle
    · exact List.mem_append_left _ elsewhere
    · have drained : lent.id ∈ stock.idle.map Lent.id := List.mem_map_of_mem idle
      have stays := (List.mem_filter.1 member).2
      simp [List.contains_eq_mem, drained, -List.mem_map] at stays
  · intro lent found
    rcases List.mem_append.1 found with elsewhere | none
    · exact List.mem_append_left _ elsewhere
    · cases none

end Stock.Covered

section Steps

variable {world : World κ} {pool after : Pool κ} {away kept : List (Lent κ)}

theorem Serving.covered {atHand : Option (Lent κ)} {waiters : List Waiter}
    {effects : List (Effect κ)} (serving : Serving world pool atHand waiters after effects)
    (before : Covered pool.stock (atHand.toList ++ away)) :
    Covered after.stock (lentOf (repliesOf effects) ++ away) := by
  induction serving generalizing away with
  | done | stopped => exact before
  | shelve => exact before.giveBack true
  | pass _ _ ih => exact ih before
  | hand _ _ ih => exact (ih before).perm List.perm_middle
  | fetch _ found _ ih =>
    obtain ⟨skipped, borrows⟩ := borrows_of_eq found
    exact ih (before.borrow borrows)
  | refill _ _ _ missing | full _ _ _ missing =>
    obtain ⟨skipped, borrows⟩ := borrows_of_eq missing
    exact before.borrow borrows

theorem Stride.covered {event : Event κ} {seen : Notes κ}
    (stride : Stride world pool event seen after) (before : Covered pool.stock away)
    (back : away.Perm (seen.returned ++ kept)) : Covered after.stock (seen.lent ++ kept) := by
  replace before := before.perm back
  cases stride with
  | deaf | surplus | defer => exact before
  | lend _ _ _ _ _ found | make _ _ _ _ found | queue _ _ _ _ found =>
    obtain ⟨skipped, borrows⟩ := borrows_of_eq found
    exact before.borrow borrows
  | withhold _ _ _ _ _ found =>
    obtain ⟨skipped, borrows⟩ := borrows_of_eq found
    exact (before.borrow borrows).giveBack true
  | release => exact before.giveBack false
  | ignore lent _ _ unknown =>
    have same := before.giveBack (!world.isClosed lent.connection)
    rwa [unknown] at same
  | takeBack lent _ _ _ _ _ taken serving =>
    have next := before.giveBack (!world.isClosed lent.connection)
    rw [taken] at next
    exact serving.covered next
  | expire => rwa [Notes.lent, expire_lends_nothing]
  | shutdown => exact before.drainIdle
  | supply _ connection => exact before.register connection
  | store _ connection => exact (before.register connection).giveBack true
  | restock connection _ _ _ serving => exact serving.covered (before.register connection)

end Steps

/-! No number is among the members twice, so there are no more members than connections. -/

theorem Stock.register_nodup {stock : Stock κ} (distinct : stock.members.Nodup) (connection : κ) :
    (stock.register connection).2.members.Nodup := by
  simp only [Stock.register]
  split
  · exact distinct
  · next unowned =>
    have fresh : stock.nextId ∉ stock.members := by simpa [owns] using unowned
    exact (List.perm_append_singleton _ _).nodup_iff.2 (List.nodup_cons.2 ⟨fresh, distinct⟩)

theorem Stock.registerAll_nodup {stock : Stock κ} (distinct : stock.members.Nodup)
    (made : List κ) :
    (made.foldl (fun stock connection => (stock.register connection).2) stock).members.Nodup := by
  induction made generalizing stock with
  | nil => exact distinct
  | cons connection rest ih => exact ih (register_nodup distinct connection)

theorem Reached.members_nodup {context : ContextId} {limit timeoutMillis : Nat}
    {journal : Journal κ} {pool : Pool κ}
    (reached : Reached context limit timeoutMillis journal pool) : pool.stock.members.Nodup :=
  reached.keeps (fun _ pool => pool.stock.members.Nodup) .nil
    fun {_ _ _ _ _ seen} _ before stride =>
      (registerAll_nodup before seen.made).sublist stride.shrinks.members

theorem Stock.Covered.count_le {stock : Stock κ} {away : List (Lent κ)}
    (covered : stock.Covered away) (distinct : stock.members.Nodup) :
    stock.count ≤ away.length + stock.idle.length := by
  have within : stock.members ⊆ (away ++ stock.idle).map Lent.id := by
    intro id member
    obtain ⟨lent, found, rfl⟩ := covered.members id member
    exact List.mem_map_of_mem found
  calc
    stock.count ≤ ((away ++ stock.idle).map Lent.id).length :=
      List.Subperm.length_le (List.Nodup.subperm distinct within)
    _ = away.length + stock.idle.length := by rw [List.length_map, List.length_append]

end BoltClient.Pool
