import BoltClient.Proofs.Pool.Stride

/-!
What comes of serving those who wait. Each connection at hand or idle goes to
somebody, stays idle, or is found closed and leaves the members; and those who wait
are called in order, so those called and those that still wait are those that
waited before.
-/

namespace BoltClient.Pool

variable {κ : Type}

namespace Stock

/-- Nothing was registered: members may have left, and numbers were not given out. -/
structure Shrinks (before after : Stock κ) : Prop where
  members : after.members.Sublist before.members
  nextId : after.nextId = before.nextId

namespace Shrinks

variable {first second third : Stock κ}

theorem refl (stock : Stock κ) : Shrinks stock stock := ⟨.refl _, rfl⟩

theorem trans (left : Shrinks first second) (right : Shrinks second third) :
    Shrinks first third :=
  ⟨right.members.trans left.members, right.nextId.trans left.nextId⟩

theorem within (shrinks : Shrinks first second) {limit : Nat} (within : first.count ≤ limit) :
    second.count ≤ limit :=
  Nat.le_trans shrinks.members.length_le within

theorem not_mem (shrinks : Shrinks first second) {id : UInt64} (out : id ∉ first.members) :
    id ∉ second.members :=
  fun member => out (shrinks.members.subset member)

end Shrinks

theorem Borrows.shrinks {isClosed : κ → Bool} {before after : Stock κ} {taken : Option (Lent κ)}
    {skipped : List (Lent κ)} (borrows : Borrows isClosed before taken after skipped) :
    Shrinks before after :=
  ⟨borrows.members ▸ List.filter_sublist, borrows.nextId⟩

theorem giveBack_shrinks {before after : Stock κ} {lent : Lent κ} {reusable : Bool}
    (taken : before.giveBack lent reusable = some after) : Shrinks before after := by
  unfold giveBack at taken
  split at taken
  · cases taken
  · split at taken <;> cases taken
    · exact ⟨.refl _, rfl⟩
    · exact ⟨List.filter_sublist, rfl⟩

/-- What is not taken back changes nothing. -/
theorem giveBack_getD_shrinks (stock : Stock κ) (lent : Lent κ) (reusable : Bool) :
    Shrinks stock ((stock.giveBack lent reusable).getD stock) := by
  cases taken : stock.giveBack lent reusable with
  | none => exact .refl stock
  | some after => exact giveBack_shrinks taken

theorem drainIdle_shrinks (stock : Stock κ) : Shrinks stock stock.drainIdle :=
  ⟨List.filter_sublist, rfl⟩

end Stock

open Stock

theorem shelve_eq (pool : Pool κ) {lent : Lent κ} {away : List (Lent κ)}
    (accounted : Accounted pool.stock (lent :: away)) :
    pool.shelve lent =
      { pool with stock := { pool.stock with idle := pool.stock.idle ++ [lent] } } := by
  rw [shelve, accounted.giveBack_open.1, Option.getD_some]

theorem shelve_accounted (pool : Pool κ) {lent : Lent κ} {away : List (Lent κ)}
    (accounted : Accounted pool.stock (lent :: away)) :
    Accounted (pool.shelve lent).stock away := by
  rw [shelve_eq pool accounted]
  exact accounted.giveBack_open.2

theorem shelve_shrinks (pool : Pool κ) (lent : Lent κ) :
    Shrinks pool.stock (pool.shelve lent).stock :=
  giveBack_getD_shrinks ..

/-- What becomes of a connection that could be lent. -/
def Settled (isClosed : κ → Bool) (lent : Lent κ) (given : List (Lent κ)) (after : Stock κ) :
    Prop :=
  lent ∈ given ∨ lent ∈ after.idle ∨ isClosed lent.connection = true ∧ lent.id ∉ after.members

theorem Stock.Borrows.settled {isClosed : κ → Bool} {before after : Stock κ}
    {taken : Option (Lent κ)}
    {skipped away : List (Lent κ)} (accounted : Accounted before away)
    (borrows : Borrows isClosed before taken after skipped) {lent : Lent κ}
    (idle : lent ∈ before.idle) : Settled isClosed lent taken.toList after := by
  rw [borrows.idle, List.mem_append, List.mem_append] at idle
  rcases idle with out | given | kept
  · exact .inr (.inr ⟨borrows.closed lent out, (accounted.borrow borrows).2 lent out⟩)
  · exact .inl given
  · exact .inr (.inl kept)

namespace Serving

variable {world : World κ} {pool after : Pool κ} {atHand : Option (Lent κ)} {lent : Lent κ}
  {waiters : List Waiter} {effects : List (Effect κ)} {away : List (Lent κ)}

theorem shrinks (serving : Serving world pool atHand waiters after effects) :
    Shrinks pool.stock after.stock := by
  induction serving with
  | done | stopped => exact .refl _
  | shelve => exact giveBack_getD_shrinks ..
  | pass _ _ ih | hand _ _ ih => exact ih
  | fetch _ found _ ih =>
    obtain ⟨skipped, borrows⟩ := borrows_of_eq found
    exact borrows.shrinks.trans ih
  | refill _ _ _ missing | full _ _ _ missing =>
    obtain ⟨skipped, borrows⟩ := borrows_of_eq missing
    exact borrows.shrinks

/-- A connection at hand is away while somebody is looked for who takes it. -/
theorem accounted (serving : Serving world pool atHand waiters after effects)
    (before : Accounted pool.stock (atHand.toList ++ away)) :
    Accounted after.stock (lentOf (repliesOf effects) ++ away) := by
  induction serving generalizing away with
  | done | stopped => exact before
  | shelve pool lent => exact shelve_accounted pool before
  | pass _ _ ih => exact ih before
  | hand _ _ ih => exact (ih before).perm List.perm_middle
  | fetch _ found _ ih =>
    obtain ⟨skipped, borrows⟩ := borrows_of_eq found
    exact ih (before.borrow borrows).1
  | refill _ _ _ missing | full _ _ _ missing =>
    obtain ⟨skipped, borrows⟩ := borrows_of_eq missing
    exact (before.borrow borrows).1

theorem lends_open (serving : Serving world pool atHand waiters after effects)
    (given : lent ∈ lentOf (repliesOf effects)) :
    lent ∈ atHand ∨ world.isClosed lent.connection = false := by
  induction serving with
  | done | shelve | refill | full | stopped => cases given
  | pass _ _ ih => exact ih given
  | @hand _ _ first _ _ effects _ _ ih =>
    rcases List.mem_cons.1 (given : lent ∈ first :: lentOf (repliesOf effects)) with rfl | later
    · exact .inl rfl
    · rcases ih later with none | isOpen
      · cases none
      · exact .inr isOpen
  | fetch _ found _ ih =>
    obtain ⟨skipped, borrows⟩ := borrows_of_eq found
    rcases ih given with taken | isOpen
    · exact .inr (borrows.isOpen lent taken)
    · exact .inr isOpen

/-- No connection is lost, and only closed ones leave. -/
theorem settled (serving : Serving world pool atHand waiters after effects)
    (before : Accounted pool.stock (atHand.toList ++ away))
    (there : lent ∈ atHand.toList ++ pool.stock.idle) :
    Settled world.isClosed lent (lentOf (repliesOf effects)) after.stock := by
  induction serving generalizing away with
  | done | stopped => exact .inr (.inl there)
  | shelve pool first =>
    have idle : (pool.shelve first).stock.idle = pool.stock.idle ++ [first] := by
      rw [shelve_eq pool before]
    have member : lent ∈ (pool.shelve first).stock.idle :=
      idle ▸ (List.perm_append_singleton first _).mem_iff.2 there
    exact .inr (.inl member)
  | pass _ _ ih => exact ih before there
  | @hand pool _ first _ _ effects _ _ ih =>
    rcases List.mem_cons.1 (there : lent ∈ first :: pool.stock.idle) with rfl | idle
    · exact .inl (List.mem_cons_self ..)
    · rcases ih before idle with given | rest
      · exact .inl (List.mem_cons_of_mem _ given)
      · exact .inr rest
  | fetch _ found later ih =>
    obtain ⟨skipped, borrows⟩ := borrows_of_eq found
    have next := (before.borrow borrows).1
    rcases borrows.settled before there with taken | kept | ⟨closed, out⟩
    · exact ih next (List.mem_append_left _ taken)
    · exact ih next (List.mem_append_right _ kept)
    · exact .inr (.inr ⟨closed, later.shrinks.not_mem out⟩)
  | refill _ _ _ missing | full _ _ _ missing =>
    obtain ⟨skipped, borrows⟩ := borrows_of_eq missing
    exact borrows.settled before there

/-- Those that are called come first, and all others wait on. -/
theorem queue (serving : Serving world pool atHand waiters after effects) :
    called waiters effects ++ after.waiting = waiters := by
  induction serving with
  | done | shelve | refill | full | stopped => rfl
  | pass _ _ ih | hand _ _ ih => simpa using ih
  | fetch _ _ _ ih => exact ih

end Serving
end BoltClient.Pool
