import BoltClient.Proofs.Value.Arrangement

/-!
Looking a key up in a map. What is found depends neither on the order of the entries nor, up to
its own order, on the orders of the maps inside.
-/

namespace BoltClient

namespace Entries

variable {α : Type}

theorem mem_iff_get? {entries : Entries α} (distinct : entries.keys.Nodup) (key : String)
    (value : α) : (key, value) ∈ entries ↔ entries.get? key = some value := by
  induction entries with
  | nil => simp [get?]
  | cons entry rest ih =>
    obtain ⟨name, other⟩ := entry
    simp only [keys, List.map_cons, List.nodup_cons] at distinct
    by_cases here : name = key
    · subst here
      have absent : (name, value) ∉ rest := fun found => distinct.1 (List.mem_map_of_mem found)
      simp [get?, absent, eq_comm]
    · simp [get?, here, Ne.symm here, ih distinct.2]

theorem get?_of_not_mem {entries : Entries α} {key : String} (absent : key ∉ entries.keys) :
    entries.get? key = none := by
  induction entries with
  | nil => rfl
  | cons entry rest ih =>
    obtain ⟨name, value⟩ := entry
    simp only [keys, List.map_cons, List.mem_cons, not_or] at absent ih
    rw [get?, if_neg (Ne.symm absent.1), ih absent.2]

theorem get?_append (first second : Entries α) (key : String) :
    get? key (first ++ second) = (first.get? key).or (second.get? key) := by
  induction first with
  | nil => rfl
  | cons entry rest ih =>
    obtain ⟨name, value⟩ := entry
    rw [List.cons_append, get?, get?, ih]
    by_cases here : name = key <;> simp [here]

theorem get?_erase (entries : Entries α) (erased key : String) :
    (entries.erase erased).get? key = if key = erased then none else entries.get? key := by
  induction entries with
  | nil => exact (ite_self none).symm
  | cons entry rest ih =>
    obtain ⟨name, value⟩ := entry
    by_cases gone : name = erased
    · subst gone
      rw [erase, List.filter_cons_of_neg (by simp)]
      by_cases asked : key = name
      · rw [if_pos asked] at ih ⊢
        exact ih
      · rw [get?, if_neg (Ne.symm asked)]
        exact ih
    · rw [erase, List.filter_cons_of_pos (by simpa using gone), get?, get?]
      by_cases asked : name = key
      · rw [if_pos asked, if_pos asked, if_neg (asked ▸ gone)]
      · rw [if_neg asked, if_neg asked]
        exact ih

/-- Entries that are moved about are found as before. -/
theorem get?_perm {entries others : Entries α} (distinct : entries.keys.Nodup)
    (moved : entries.Perm others) (key : String) : others.get? key = entries.get? key := by
  have still : others.keys.Nodup := (moved.map Prod.fst).nodup_iff.1 distinct
  ext value
  rw [← mem_iff_get? still, ← mem_iff_get? distinct, moved.mem_iff]

end Entries

/-- That under every key the same is found, up to the order of the maps in it. -/
def Entries.Agree (entries walked : Entries Value) : Prop :=
  ∀ key, Option.Rel Value.Reordered (entries.get? key) (walked.get? key)

theorem Value.agree_of_forall₂ {entries walked : Entries Value}
    (order : List.Forall₂ EntryReordered entries walked) : entries.Agree walked := by
  intro key
  induction order with
  | nil => exact .none
  | @cons entry other _ _ here _ ih =>
    obtain ⟨name, value⟩ := entry
    obtain ⟨_, changed⟩ := other
    obtain ⟨rfl, inner⟩ := here
    rw [Entries.get?, Entries.get?]
    by_cases asked : name = key
    · rw [if_pos asked, if_pos asked]
      exact .some inner
    · rw [if_neg asked, if_neg asked]
      exact ih

theorem Value.Reordered.agree {entries walked : Entries Value}
    (order : (map entries).Reordered (map walked)) (distinct : entries.keys.Nodup) :
    entries.Agree walked := by
  obtain ⟨between, others, same, moved, inside⟩ := order.of_map
  cases same
  intro key
  rw [← Entries.get?_perm distinct moved key]
  exact agree_of_forall₂ inside key

end BoltClient
