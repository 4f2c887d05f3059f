import Mathlib.Data.List.Perm.Basic
import BoltClient.Pool.Stock

/-!
Where the connections of a context are. Each member is idle or away, and none is
both: `Accounted` says so for those that are away, and every operation keeps it
when what it takes and gives is counted among them.
-/

namespace BoltClient.Pool.Stock

variable {κ : Type}

/-- What a look for an open connection does: the closed ones in front leave the
members, and the first that is open is taken. -/
structure Borrows (isClosed : κ → Bool) (before : Stock κ) (taken : Option (Lent κ))
    (after : Stock κ) (skipped : List (Lent κ)) : Prop where
  idle : before.idle = skipped ++ (taken.toList ++ after.idle)
  closed : ∀ lent ∈ skipped, isClosed lent.connection = true
  isOpen : ∀ lent ∈ taken, isClosed lent.connection = false
  all : taken = none → after.idle = []
  members : after.members = before.members.filter fun id => id ∉ skipped.map Lent.id
  context : after.context = before.context
  nextId : after.nextId = before.nextId

theorem borrow_borrows (isClosed : κ → Bool) (stock : Stock κ) :
    ∃ skipped,
      Borrows isClosed stock (stock.borrow isClosed).1 (stock.borrow isClosed).2 skipped := by
  obtain ⟨context, idle, members, nextId⟩ := stock
  induction idle generalizing members with
  | nil => exact ⟨[], by constructor <;> simp [borrow, takeOpen]⟩
  | cons first rest ih =>
    cases shut : isClosed first.connection with
    | false => exact ⟨[], by constructor <;> simp [borrow, takeOpen, shut]⟩
    | true =>
      obtain ⟨skipped, idle, closed, isOpen, all, filtered, -, -⟩ :=
        ih (members.filter (· ≠ first.id))
      have same : borrow isClosed ⟨context, first :: rest, members, nextId⟩ =
          borrow isClosed ⟨context, rest, members.filter (· ≠ first.id), nextId⟩ := by
        simp [borrow, takeOpen, shut]
      refine ⟨first :: skipped, ?_⟩
      rw [same]
      refine ⟨congrArg (first :: ·) idle, ?_, isOpen, all, ?_, rfl, rfl⟩
      · simpa [shut] using closed
      · rw [filtered, List.filter_filter]
        exact List.filter_congr fun id _ => by grind

theorem borrows_of_eq {isClosed : κ → Bool} {stock after : Stock κ} {taken : Option (Lent κ)}
    (looked : stock.borrow isClosed = (taken, after)) :
    ∃ skipped, Borrows isClosed stock taken after skipped := by
  have borrows := borrow_borrows isClosed stock
  rwa [looked] at borrows

namespace Borrows

variable {isClosed : κ → Bool} {before after : Stock κ} {taken : Option (Lent κ)}
  {skipped : List (Lent κ)} {lent : Lent κ}

theorem out (borrows : Borrows isClosed before taken after skipped) (skips : lent ∈ skipped) :
    lent.id ∉ after.members := by
  rw [borrows.members]
  simpa using fun _ => ⟨lent, skips, rfl⟩

theorem mem_idle (borrows : Borrows isClosed before taken after skipped)
    (there : lent ∈ taken.toList ++ after.idle) : lent ∈ before.idle :=
  borrows.idle ▸ List.mem_append_right skipped there

end Borrows

section Looks

variable {isClosed : κ → Bool} {stock : Stock κ} {lent : Lent κ} {shut others : List (Lent κ)}

/-- Closed connections in front are skipped. -/
theorem takeOpen_append (closed : ∀ other ∈ shut, isClosed other.connection = true)
    (members : List UInt64) (others : List (Lent κ)) :
    takeOpen isClosed members (shut ++ others) =
      takeOpen isClosed (members.filter fun id => id ∉ shut.map Lent.id) others := by
  induction shut generalizing members with
  | nil => simp
  | cons first rest ih =>
    have both : (members.filter (· ≠ first.id)).filter (fun id => id ∉ rest.map Lent.id) =
        members.filter fun id => id ∉ (first :: rest).map Lent.id := by
      rw [List.filter_filter]
      exact List.filter_congr fun id _ => by grind
    rw [List.cons_append, takeOpen, if_pos (closed first List.mem_cons_self),
      ih fun other member => closed other (List.mem_cons_of_mem _ member), both]

theorem borrow_first (idle : stock.idle = shut ++ lent :: others)
    (closed : ∀ other ∈ shut, isClosed other.connection = true)
    (isOpen : isClosed lent.connection = false) :
    stock.borrow isClosed = (some lent, { stock with
      idle := others, members := stock.members.filter fun id => id ∉ shut.map Lent.id }) := by
  rw [borrow, idle, takeOpen_append closed, takeOpen, if_neg (by simp [isOpen])]

theorem borrow_none (closed : ∀ other ∈ stock.idle, isClosed other.connection = true) :
    stock.borrow isClosed = (none, { stock with
      idle := [], members := stock.members.filter fun id => id ∉ stock.idle.map Lent.id }) := by
  have skipped := takeOpen_append closed stock.members []
  rw [List.append_nil] at skipped
  rw [borrow, skipped, takeOpen]

theorem forget_count_lt {id : UInt64} (known : id ∈ stock.members) :
    (stock.forget id).count < stock.count := by
  have fewer := List.length_filter_lt_length_iff_exists (p := (· ≠ id)) (l := stock.members)
  exact fewer.2 ⟨id, known, by simp⟩

theorem register_known (stock : Stock κ) (connection : κ) :
    (stock.register connection).1.id ∈ (stock.register connection).2.members := by
  by_cases owned : stock.owns stock.nextId = true
  · simpa [register, owned] using List.contains_iff_mem.1 owned
  · simp [register, owned]

end Looks

section Return

variable {stock : Stock κ} {lent : Lent κ}

theorem giveBack_foreign (foreign : lent.context ≠ stock.context ∨ lent.id ∉ stock.members)
    (reusable : Bool) : stock.giveBack lent reusable = none := by
  refine if_pos ?_
  simpa [owns] using foreign

theorem giveBack_own (ours : lent.context = stock.context) (known : lent.id ∈ stock.members)
    (reusable : Bool) : stock.giveBack lent reusable =
      some (if reusable then { stock with idle := stock.idle ++ [lent] }
        else stock.forget lent.id) := by
  rw [giveBack, if_neg (by simp [owns, ours, known])]
  cases reusable <;> rfl

end Return

/-- Each member is idle or away, once, and belongs to the context. -/
structure Accounted (stock : Stock κ) (away : List (Lent κ)) : Prop where
  members : stock.members.Perm ((away ++ stock.idle).map Lent.id)
  distinct : stock.members.Nodup
  context : ∀ lent ∈ away ++ stock.idle, lent.context = stock.context

theorem accounted_empty (context : ContextId) : Accounted (empty context : Stock κ) [] := by
  constructor <;> simp [empty]

namespace Accounted

variable {stock : Stock κ} {lent : Lent κ} {away others : List (Lent κ)}

theorem perm (accounted : Accounted stock away) (same : away.Perm others) :
    Accounted stock others := by
  have all := same.append_right stock.idle
  exact ⟨accounted.members.trans (all.map _), accounted.distinct,
    fun lent member => accounted.context lent (all.mem_iff.2 member)⟩

theorem ids_nodup (accounted : Accounted stock away) :
    ((away ++ stock.idle).map Lent.id).Nodup :=
  accounted.members.nodup_iff.1 accounted.distinct

theorem mem_members (accounted : Accounted stock away) (member : lent ∈ away ++ stock.idle) :
    lent.id ∈ stock.members :=
  accounted.members.mem_iff.2 (List.mem_map_of_mem member)

theorem owns (accounted : Accounted stock (lent :: away)) : stock.owns lent.id = true :=
  List.contains_iff_mem.2 (accounted.mem_members (by simp))

/-- When connections leave, the numbers of the others stay. -/
theorem leave {left kept : List (Lent κ)} (accounted : Accounted stock away)
    (all : (away ++ stock.idle).Perm (left ++ kept)) :
    (stock.members.filter fun id => id ∉ left.map Lent.id).Perm (kept.map Lent.id) := by
  have same := accounted.members.trans (all.map _)
  have apart := same.nodup_iff.1 accounted.distinct
  rw [List.map_append] at same apart
  have none : (left.map Lent.id).filter (fun id => id ∉ left.map Lent.id) = [] :=
    List.filter_eq_nil_iff.2 fun id member => by simpa using member
  have rest : (kept.map Lent.id).filter (fun id => id ∉ left.map Lent.id) = kept.map Lent.id :=
    List.filter_eq_self.2 fun id member =>
      decide_eq_true fun other => (List.nodup_append.1 apart).2.2 id other id member rfl
  refine (same.filter _).trans (List.Perm.of_eq ?_)
  rw [List.filter_append, none, rest, List.nil_append]

/-- What is taken is away from then on, and what is skipped is a member no longer. -/
theorem borrow {isClosed : κ → Bool} {taken : Option (Lent κ)} {after : Stock κ}
    {skipped : List (Lent κ)} (accounted : Accounted stock away)
    (borrows : Borrows isClosed stock taken after skipped) :
    Accounted after (taken.toList ++ away) ∧ ∀ lent ∈ skipped, lent.id ∉ after.members := by
  have all : (away ++ stock.idle).Perm (skipped ++ (taken.toList ++ away ++ after.idle)) := by
    rw [borrows.idle, List.append_assoc taken.toList]
    exact (List.perm_append_comm_assoc ..).trans
      ((List.perm_append_comm_assoc ..).append_left skipped)
  constructor
  · refine ⟨?_, ?_, ?_⟩
    · rw [borrows.members]
      exact accounted.leave all
    · rw [borrows.members]
      exact accounted.distinct.filter _
    · intro lent member
      rw [borrows.context]
      exact accounted.context lent (all.mem_iff.2 (List.mem_append_right _ member))
  · exact fun lent skips => borrows.out skips

/-- A connection that is away can be put among the idle ones. -/
theorem giveBack_open (accounted : Accounted stock (lent :: away)) :
    stock.giveBack lent true = some { stock with idle := stock.idle ++ [lent] } ∧
      Accounted { stock with idle := stock.idle ++ [lent] } away := by
  have ours : lent.context = stock.context := accounted.context lent (by simp)
  have all : (lent :: away ++ stock.idle).Perm (away ++ (stock.idle ++ [lent])) := by
    rw [← List.append_assoc]
    exact (List.perm_append_singleton lent (away ++ stock.idle)).symm
  refine ⟨by simp [giveBack, ours, accounted.owns], accounted.members.trans (all.map _),
    accounted.distinct, fun lent member => accounted.context lent (all.mem_iff.2 member)⟩

/-- A connection that is away can leave the members. -/
theorem giveBack_closed (accounted : Accounted stock (lent :: away)) :
    stock.giveBack lent false = some (stock.forget lent.id) ∧
      Accounted (stock.forget lent.id) away := by
  have ours : lent.context = stock.context := accounted.context lent (by simp)
  have all : (lent :: away ++ stock.idle).Perm ([lent] ++ (away ++ stock.idle)) := .refl _
  refine ⟨by simp [giveBack, ours, accounted.owns], ?_, accounted.distinct.filter _,
    fun lent member => accounted.context lent (List.mem_cons_of_mem _ member)⟩
  simpa [forget] using accounted.leave all

/-- Whatever is away is taken back; it is idle then, or a member no longer. -/
theorem giveBack {reusable : Bool} {after : Stock κ} (accounted : Accounted stock (lent :: away))
    (taken : stock.giveBack lent reusable = some after) :
    Accounted after away ∧ (reusable = true ∧ after.idle = stock.idle ++ [lent] ∨
      reusable = false ∧ after.idle = stock.idle ∧ lent.id ∉ after.members) := by
  cases reusable with
  | true =>
    obtain ⟨same, next⟩ := accounted.giveBack_open
    cases same.symm.trans taken
    exact ⟨next, .inl ⟨rfl, rfl⟩⟩
  | false =>
    obtain ⟨same, next⟩ := accounted.giveBack_closed
    cases same.symm.trans taken
    exact ⟨next, .inr ⟨rfl, rfl, by simp [forget]⟩⟩

theorem giveBack_ne_none (accounted : Accounted stock (lent :: away)) (reusable : Bool) :
    stock.giveBack lent reusable ≠ none := by
  cases reusable with
  | true => simp [accounted.giveBack_open.1]
  | false => simp [accounted.giveBack_closed.1]

/-- A new number is a member's from then on, which is away. -/
theorem register (accounted : Accounted stock away) (fresh : stock.nextId ∉ stock.members)
    (connection : κ) :
    Accounted (stock.register connection).2 ((stock.register connection).1 :: away) := by
  have unowned : stock.owns stock.nextId = false := by simpa [Stock.owns] using fresh
  refine ⟨?_, ?_, ?_⟩
  · simpa [Stock.register, unowned] using
      (List.perm_append_singleton _ _).trans (accounted.members.cons stock.nextId)
  · simpa [Stock.register, unowned, List.nodup_append] using
      ⟨accounted.distinct, fun id member same => fresh (same ▸ member)⟩
  · simpa [Stock.register] using accounted.context

theorem drainIdle (accounted : Accounted stock away) : Accounted stock.drainIdle away := by
  have members : stock.drainIdle.members =
      stock.members.filter fun id => id ∉ stock.idle.map Lent.id :=
    List.filter_congr fun id _ => by simp [List.contains_eq_mem, -List.mem_map]
  have same : away ++ stock.drainIdle.idle = away := List.append_nil away
  refine ⟨?_, accounted.distinct.filter _, ?_⟩
  · rw [members, same]
    exact accounted.leave List.perm_append_comm
  · rw [same]
    exact fun lent member => accounted.context lent (List.mem_append_left _ member)

end Accounted
end BoltClient.Pool.Stock
