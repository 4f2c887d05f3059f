/-!
Association lists with distinct keys. The order of the entries is the order in
which a map is walked; putting a key that is already present keeps its place
and replaces its value.
-/

namespace BoltClient

abbrev Entries (α : Type) := List (String × α)

namespace Entries

variable {α β : Type}

def get? (key : String) : Entries α → Option α
  | [] => none
  | (name, value) :: rest => if name = key then some value else get? key rest

def put (key : String) (value : α) : Entries α → Entries α
  | [] => [(key, value)]
  | (name, old) :: rest =>
    if name = key then (name, value) :: rest else (name, old) :: put key value rest

/-- Builds a map from pairs; a later pair with the same key wins. -/
def ofPairs (pairs : List (String × α)) : Entries α :=
  pairs.foldl (fun entries (key, value) => entries.put key value) []

def keys (entries : Entries α) : List String := entries.map Prod.fst

def erase (key : String) (entries : Entries α) : Entries α :=
  entries.filter fun (name, _) => name ≠ key

/-- The same entries in ascending order of their keys. -/
def sorted (entries : Entries α) : Entries α :=
  entries.mergeSort fun left right => !decide (right.1 < left.1)

theorem get?_put (key name : String) (value : α) (entries : Entries α) :
    (entries.put key value).get? name = if key = name then some value else entries.get? name := by
  induction entries with
  | nil => simp [put, get?]
  | cons entry rest ih =>
    obtain ⟨first, old⟩ := entry
    by_cases here : first = key
    · subst here
      by_cases asked : first = name <;> simp [put, get?, asked]
    · by_cases asked : first = name
      · subst asked
        simp [put, get?, here, Ne.symm here]
      · simp [put, get?, here, asked, ih]

theorem mem_keys_put {key name : String} {value : α} {entries : Entries α} :
    name ∈ (entries.put key value).keys ↔ name = key ∨ name ∈ entries.keys := by
  induction entries with
  | nil => simp [put, keys]
  | cons entry rest ih =>
    obtain ⟨first, old⟩ := entry
    by_cases here : first = key
    · subst here
      simp [put, keys]
    · simp only [keys] at ih
      simp [put, keys, here, ih, or_left_comm]

theorem nodup_keys_put {key : String} {value : α} {entries : Entries α}
    (distinct : entries.keys.Nodup) : (entries.put key value).keys.Nodup := by
  induction entries with
  | nil => simp [put, keys]
  | cons entry rest ih =>
    obtain ⟨first, old⟩ := entry
    simp only [keys, List.map_cons, List.nodup_cons] at distinct
    by_cases here : first = key
    · simp only [put, here, if_true, keys, List.map_cons, List.nodup_cons]
      exact here ▸ distinct
    · have fresh : first ∉ (Entries.put key value rest).keys := by
        rw [mem_keys_put]
        exact fun found => found.elim here distinct.1
      simp only [put, here, if_false, keys, List.map_cons, List.nodup_cons]
      exact ⟨fresh, ih distinct.2⟩

end Entries
end BoltClient
