import Mathlib.Data.List.Perm.Basic
import BoltClient.Value.Basic

/-!
A map has no two entries with one key, and no order of its own: the list of its
entries stands for one order in which it may be walked. `Reordered` relates the
values that differ in such orders alone, at any depth. They are equally deep,
and what is said of the keys of each map holds of both or of neither, so when one
is a proper value the other is too.
-/

namespace BoltClient

theorem Entries.put_of_not_mem {α : Type} {key : String} {entries : Entries α}
    (fresh : key ∉ entries.keys) (value : α) :
    entries.put key value = entries ++ [(key, value)] := by
  induction entries with
  | nil => rfl
  | cons entry rest ih =>
    obtain ⟨name, old⟩ := entry
    simp only [keys, List.map_cons, List.mem_cons, not_or] at fresh ih
    rw [put, if_neg (Ne.symm fresh.1), ih fresh.2, List.cons_append]

/-- The next of some entries with distinct keys is put behind those before it. -/
theorem Entries.append_cons_of_nodup {α : Type} {collected rest : Entries α} {key : String}
    {value : α} (distinct : (collected ++ (key, value) :: rest).keys.Nodup) :
    collected ++ (key, value) :: rest = collected.put key value ++ rest := by
  have fresh : key ∉ collected.keys := by
    simp only [keys, List.map_append, List.map_cons] at distinct
    exact fun found => (List.nodup_append.1 distinct).2.2 key found key (by simp) rfl
  rw [put_of_not_mem fresh, List.append_assoc, List.singleton_append]

theorem Entries.foldl_put_of_nodup {α : Type} (entries collected : Entries α)
    (distinct : (collected ++ entries).keys.Nodup) :
    entries.foldl (fun entries (key, value) => entries.put key value) collected =
      collected ++ entries := by
  induction entries generalizing collected with
  | nil => exact (List.append_nil collected).symm
  | cons entry rest ih =>
    obtain ⟨key, value⟩ := entry
    have regrouped := append_cons_of_nodup distinct
    rw [regrouped] at distinct ⊢
    rw [List.foldl_cons]
    exact ih (collected.put key value) distinct

/-- Pairs with distinct keys are entries as they stand. -/
theorem Entries.ofPairs_of_nodup {α : Type} {entries : Entries α}
    (distinct : entries.keys.Nodup) : ofPairs entries = entries :=
  foldl_put_of_nodup entries [] distinct

namespace Value

mutual

/-- No map in the value has two entries with one key. -/
def DistinctKeys : Value → Prop
  | list items => DistinctKeysOfItems items
  | map entries => (Entries.keys entries).Nodup ∧ DistinctKeysOfEntries entries
  | struct _ fields => DistinctKeysOfItems fields
  | _ => True
termination_by structural value => value

def DistinctKeysOfItems : List Value → Prop
  | [] => True
  | item :: rest => item.DistinctKeys ∧ DistinctKeysOfItems rest
termination_by structural items => items

def DistinctKeysOfEntries : List (String × Value) → Prop
  | [] => True
  | (_, item) :: rest => item.DistinctKeys ∧ DistinctKeysOfEntries rest
termination_by structural entries => entries

end

mutual

/-- Whether the keys of every map in the value are such. -/
def EachMap (such : List String → Prop) : Value → Prop
  | list items => EachMapOfItems such items
  | map entries => such (Entries.keys entries) ∧ EachMapOfEntries such entries
  | struct _ fields => EachMapOfItems such fields
  | _ => True
termination_by structural value => value

def EachMapOfItems (such : List String → Prop) : List Value → Prop
  | [] => True
  | item :: rest => item.EachMap such ∧ EachMapOfItems such rest
termination_by structural items => items

def EachMapOfEntries (such : List String → Prop) : List (String × Value) → Prop
  | [] => True
  | (_, item) :: rest => item.EachMap such ∧ EachMapOfEntries such rest
termination_by structural entries => entries

end

mutual

/-- That keys are distinct is said of each map for itself. -/
theorem distinctKeys_iff : (value : Value) → (value.DistinctKeys ↔ value.EachMap List.Nodup)
  | null | boolean _ | integer _ | float _ | bytes _ | string _ => Iff.rfl
  | list items => by
    rw [DistinctKeys, EachMap]
    exact distinctKeysOfItems_iff items
  | map entries => by
    rw [DistinctKeys, EachMap]
    exact and_congr_right' (distinctKeysOfEntries_iff entries)
  | struct _ fields => by
    rw [DistinctKeys, EachMap]
    exact distinctKeysOfItems_iff fields
termination_by structural value => value

theorem distinctKeysOfItems_iff : (items : List Value) →
    (DistinctKeysOfItems items ↔ EachMapOfItems List.Nodup items)
  | [] => Iff.rfl
  | item :: rest => by
    rw [DistinctKeysOfItems, EachMapOfItems]
    exact and_congr (distinctKeys_iff item) (distinctKeysOfItems_iff rest)
termination_by structural items => items

theorem distinctKeysOfEntries_iff : (entries : List (String × Value)) →
    (DistinctKeysOfEntries entries ↔ EachMapOfEntries List.Nodup entries)
  | [] => Iff.rfl
  | (_, item) :: rest => by
    rw [DistinctKeysOfEntries, EachMapOfEntries]
    exact and_congr (distinctKeys_iff item) (distinctKeysOfEntries_iff rest)
termination_by structural entries => entries

end

/-- The second value is the first with the entries of its maps in other orders. -/
inductive Reordered : Value → Value → Prop where
  | refl (value : Value) : Reordered value value
  | trans {first second third : Value} :
      Reordered first second → Reordered second third → Reordered first third
  | permuted {entries others : List (String × Value)} :
      entries.Perm others → Reordered (map entries) (map others)
  | inList (before after : List Value) {item other : Value} : Reordered item other →
      Reordered (list (before ++ item :: after)) (list (before ++ other :: after))
  | inMap (before after : List (String × Value)) (key : String) {item other : Value} :
      Reordered item other →
      Reordered (map (before ++ (key, item) :: after)) (map (before ++ (key, other) :: after))
  | inStruct (signature : UInt8) (before after : List Value) {item other : Value} :
      Reordered item other →
      Reordered (struct signature (before ++ item :: after))
        (struct signature (before ++ other :: after))

/-- What differs in the order of maps alone differs so in both directions. -/
theorem Reordered.symm {value walked : Value} (order : value.Reordered walked) :
    walked.Reordered value := by
  induction order with
  | refl value => exact .refl value
  | trans _ _ one two => exact .trans two one
  | permuted order => exact .permuted order.symm
  | inList before after _ ih => exact .inList before after ih
  | inMap before after key _ ih => exact .inMap before after key ih
  | inStruct signature before after _ ih => exact .inStruct signature before after ih

/-- Entries with one key, the second value being the first with its maps in other orders. -/
def EntryReordered (entry other : String × Value) : Prop :=
  entry.1 = other.1 ∧ entry.2.Reordered other.2

theorem Reordered.list_of_forall₂ {items others : List Value}
    (order : List.Forall₂ Reordered items others) (before : List Value) :
    (list (before ++ items)).Reordered (list (before ++ others)) := by
  induction order generalizing before with
  | nil => exact .refl _
  | @cons item other items others first _ ih =>
    have later := ih (before ++ [other])
    rw [List.append_assoc, List.append_assoc] at later
    exact .trans (.inList before items first) later

theorem Reordered.struct_of_forall₂ (signature : UInt8) {fields others : List Value}
    (order : List.Forall₂ Reordered fields others) (before : List Value) :
    (struct signature (before ++ fields)).Reordered (struct signature (before ++ others)) := by
  induction order generalizing before with
  | nil => exact .refl _
  | @cons field other fields others first _ ih =>
    have later := ih (before ++ [other])
    rw [List.append_assoc, List.append_assoc] at later
    exact .trans (.inStruct signature before fields first) later

theorem Reordered.map_of_forall₂ {entries others : List (String × Value)}
    (order : List.Forall₂ EntryReordered entries others) (before : List (String × Value)) :
    (map (before ++ entries)).Reordered (map (before ++ others)) := by
  induction order generalizing before with
  | nil => exact .refl _
  | @cons entry other entries others first _ ih =>
    obtain ⟨key, item⟩ := entry
    obtain ⟨_, walked⟩ := other
    obtain ⟨rfl, inner⟩ := first
    have later := ih (before ++ [(key, walked)])
    rw [List.append_assoc, List.append_assoc] at later
    exact .trans (.inMap before entries key inner) later

theorem forall₂_put {entries others : Entries Value} (key : String) {item other : Value}
    (order : List.Forall₂ EntryReordered entries others) (inner : item.Reordered other) :
    List.Forall₂ EntryReordered (entries.put key item) (others.put key other) := by
  induction order with
  | nil => exact .cons ⟨rfl, inner⟩ .nil
  | @cons entry walked entries others first later ih =>
    obtain ⟨name, old⟩ := entry
    obtain ⟨_, left⟩ := walked
    obtain ⟨rfl, same⟩ := first
    by_cases here : name = key
    · rw [Entries.put, Entries.put, if_pos here, if_pos here]
      exact .cons ⟨rfl, inner⟩ later
    · rw [Entries.put, Entries.put, if_neg here, if_neg here]
      exact .cons ⟨rfl, same⟩ ih

/-- Pairs that differ in the orders of maps come to entries that differ in them. -/
theorem forall₂_ofPairs {pairs others : List (String × Value)}
    (order : List.Forall₂ EntryReordered pairs others) :
    List.Forall₂ EntryReordered (Entries.ofPairs pairs) (Entries.ofPairs others) := by
  apply List.rel_foldl _ .nil order
  rintro collected gathered same ⟨key, item⟩ ⟨_, walked⟩ ⟨rfl, inner⟩
  exact forall₂_put key same inner

theorem depthOfItems_append (first second : List Value) :
    depthOfItems (first ++ second) = max (depthOfItems first) (depthOfItems second) := by
  induction first with
  | nil => simp [depthOfItems]
  | cons item rest ih => rw [List.cons_append, depthOfItems, depthOfItems, ih, Nat.max_assoc]

theorem depthOfEntries_append (first second : List (String × Value)) :
    depthOfEntries (first ++ second) = max (depthOfEntries first) (depthOfEntries second) := by
  induction first with
  | nil => simp [depthOfEntries]
  | cons entry rest ih => rw [List.cons_append, depthOfEntries, depthOfEntries, ih, Nat.max_assoc]

theorem depthOfEntries_perm {entries others : List (String × Value)} (order : entries.Perm others) :
    depthOfEntries entries = depthOfEntries others := by
  induction order with
  | nil => rfl
  | cons entry _ ih => rw [depthOfEntries, depthOfEntries, ih]
  | swap first second rest =>
    simp only [depthOfEntries]
    omega
  | trans _ _ one two => exact one.trans two

/-- Another order of entries is as deep. -/
theorem Reordered.depth_eq {value other : Value} (order : Reordered value other) :
    value.depth = other.depth := by
  induction order with
  | refl => rfl
  | trans _ _ one two => exact one.trans two
  | permuted order =>
    rw [depth, depth]
    exact depthOfEntries_perm order
  | inList before after _ ih =>
    rw [depth, depth, depthOfItems_append, depthOfItems_append, depthOfItems, depthOfItems, ih]
  | inMap before after key _ ih =>
    rw [depth, depth, depthOfEntries_append, depthOfEntries_append, depthOfEntries, depthOfEntries,
      ih]
  | inStruct signature before after _ ih =>
    rw [depth, depth, depthOfItems_append, depthOfItems_append, depthOfItems, depthOfItems, ih]

section EachMap

variable {such : List String → Prop}

theorem eachMapOfItems_append (first second : List Value) :
    EachMapOfItems such (first ++ second) ↔
      EachMapOfItems such first ∧ EachMapOfItems such second := by
  induction first with
  | nil => simp [EachMapOfItems]
  | cons item rest ih => rw [List.cons_append, EachMapOfItems, EachMapOfItems, ih, and_assoc]

theorem eachMapOfEntries_append (first second : List (String × Value)) :
    EachMapOfEntries such (first ++ second) ↔
      EachMapOfEntries such first ∧ EachMapOfEntries such second := by
  induction first with
  | nil => simp [EachMapOfEntries]
  | cons entry rest ih =>
    rw [List.cons_append, EachMapOfEntries, EachMapOfEntries, ih, and_assoc]

theorem eachMapOfEntries_perm {entries others : List (String × Value)}
    (order : entries.Perm others) (each : EachMapOfEntries such entries) :
    EachMapOfEntries such others := by
  induction order with
  | nil => exact each
  | cons entry _ ih =>
    rw [EachMapOfEntries] at each ⊢
    exact ⟨each.1, ih each.2⟩
  | swap first second rest =>
    simp only [EachMapOfEntries] at each ⊢
    exact ⟨each.2.1, each.1, each.2.2⟩
  | trans _ _ one two => exact two (one each)

/-- What holds of the keys of all maps in any order holds of them in another order. -/
theorem Reordered.eachMap {value other : Value} (order : Reordered value other)
    (stable : ∀ {keys others : List String}, keys.Perm others → such keys → such others)
    (each : value.EachMap such) : other.EachMap such := by
  induction order with
  | refl => exact each
  | trans _ _ one two => exact two (one each)
  | permuted order =>
    rw [EachMap] at each ⊢
    exact ⟨stable (order.map Prod.fst) each.1, eachMapOfEntries_perm order each.2⟩
  | inList before after _ ih =>
    rw [EachMap, eachMapOfItems_append, EachMapOfItems] at each ⊢
    exact ⟨each.1, ih each.2.1, each.2.2⟩
  | inMap before after key _ ih =>
    rw [EachMap, eachMapOfEntries_append, EachMapOfEntries] at each ⊢
    refine ⟨?_, each.2.1, ih each.2.2.1, each.2.2.2⟩
    simpa [Entries.keys] using each.1
  | inStruct signature before after _ ih =>
    rw [EachMap, eachMapOfItems_append, EachMapOfItems] at each ⊢
    exact ⟨each.1, ih each.2.1, each.2.2⟩

theorem eachMapOfItems_iff {items : List Value} :
    EachMapOfItems such items ↔ ∀ item ∈ items, item.EachMap such := by
  induction items with
  | nil => simp [EachMapOfItems]
  | cons item rest ih => rw [EachMapOfItems, ih, List.forall_mem_cons]

theorem eachMapOfEntries_iff {entries : List (String × Value)} :
    EachMapOfEntries such entries ↔ ∀ entry ∈ entries, entry.2.EachMap such := by
  induction entries with
  | nil => simp [EachMapOfEntries]
  | cons entry rest ih => rw [EachMapOfEntries, ih, List.forall_mem_cons]

end EachMap

theorem distinctKeys_map_iff {entries : Entries Value} :
    (map entries).DistinctKeys ↔
      entries.keys.Nodup ∧ ∀ entry ∈ entries, entry.2.DistinctKeys := by
  rw [DistinctKeys, distinctKeysOfEntries_iff, eachMapOfEntries_iff]
  simp only [distinctKeys_iff]

/-- Another order of the entries of a proper value is a proper value. -/
theorem Reordered.distinctKeys {value other : Value} (order : Reordered value other)
    (distinct : value.DistinctKeys) : other.DistinctKeys := by
  rw [distinctKeys_iff] at distinct ⊢
  exact order.eachMap (fun reordered => reordered.nodup_iff.1) distinct

/-! What another order of a value looks like. -/

section Inversion

/-- A value without maps has no order that could be another. -/
theorem Reordered.eq_of_mapless {value other : Value} (order : value.Reordered other)
    (mapless : value.EachMap fun _ => False) : other = value := by
  induction order with
  | refl => rfl
  | trans _ _ one two =>
    obtain rfl := one mapless
    exact two mapless
  | permuted => exact mapless.1.elim
  | inList before after _ ih =>
    rw [EachMap, eachMapOfItems_append, EachMapOfItems] at mapless
    rw [ih mapless.2.1]
  | inMap => exact mapless.1.elim
  | inStruct signature before after _ ih =>
    rw [EachMap, eachMapOfItems_append, EachMapOfItems] at mapless
    rw [ih mapless.2.1]

theorem forall₂_reordered_refl (items : List Value) : List.Forall₂ Reordered items items :=
  List.forall₂_same.2 fun item _ => .refl item

theorem forall₂_trans {α : Type} {related : α → α → Prop} {first second third : List α}
    (joins : ∀ {one two three : α}, related one two → related two three → related one three)
    (left : List.Forall₂ related first second) (right : List.Forall₂ related second third) :
    List.Forall₂ related first third := by
  induction left generalizing third with
  | nil => exact right
  | cons here _ ih =>
    cases right with
    | cons there later => exact .cons (joins here there) (ih later)

theorem forall₂_reordered_inside (before after : List Value) {item other : Value}
    (inner : item.Reordered other) :
    List.Forall₂ Reordered (before ++ item :: after) (before ++ other :: after) :=
  List.rel_append (forall₂_reordered_refl before) (.cons inner (forall₂_reordered_refl after))

theorem Reordered.of_list {items : List Value} {other : Value}
    (order : (list items).Reordered other) :
    ∃ others, other = list others ∧ List.Forall₂ Reordered items others := by
  generalize same : list items = value at order
  induction order generalizing items with
  | refl => exact ⟨items, same.symm, forall₂_reordered_refl items⟩
  | trans _ _ one two =>
    obtain ⟨between, rfl, left⟩ := one same
    obtain ⟨others, rfl, right⟩ := two rfl
    exact ⟨others, rfl, forall₂_trans .trans left right⟩
  | inList before after inner =>
    cases same
    exact ⟨_, rfl, forall₂_reordered_inside before after inner⟩
  | permuted | inMap | inStruct => cases same

theorem Reordered.of_struct {signature : UInt8} {fields : List Value} {other : Value}
    (order : (struct signature fields).Reordered other) :
    ∃ others, other = struct signature others ∧ List.Forall₂ Reordered fields others := by
  generalize same : struct signature fields = value at order
  induction order generalizing fields with
  | refl => exact ⟨fields, same.symm, forall₂_reordered_refl fields⟩
  | trans _ _ one two =>
    obtain ⟨between, rfl, left⟩ := one same
    obtain ⟨others, rfl, right⟩ := two rfl
    exact ⟨others, rfl, forall₂_trans .trans left right⟩
  | inStruct _ before after inner =>
    cases same
    exact ⟨_, rfl, forall₂_reordered_inside before after inner⟩
  | permuted | inMap | inList => cases same

theorem Reordered.of_map {entries : Entries Value} {other : Value}
    (order : (map entries).Reordered other) :
    ∃ between others, other = map others ∧ entries.Perm between ∧
      List.Forall₂ EntryReordered between others := by
  have same_refl (entries : Entries Value) : List.Forall₂ EntryReordered entries entries :=
    List.forall₂_same.2 fun _ _ => ⟨rfl, .refl _⟩
  generalize same : map entries = value at order
  induction order generalizing entries with
  | refl => exact ⟨entries, entries, same.symm, .refl entries, same_refl entries⟩
  | trans _ _ one two =>
    obtain ⟨first, second, rfl, moved, left⟩ := one same
    obtain ⟨third, fourth, rfl, movedOn, right⟩ := two rfl
    -- what is moved behind its change could have been moved before it
    have commuted : Relation.Comp List.Perm (List.Forall₂ EntryReordered) first third :=
      List.forall₂_comp_perm_eq_perm_comp_forall₂ ▸ ⟨second, left, movedOn⟩
    obtain ⟨between, moves, changed⟩ := commuted
    refine ⟨between, fourth, rfl, moved.trans moves, forall₂_trans ?_ changed right⟩
    rintro _ _ _ ⟨sameKey, inner⟩ ⟨keptKey, deeper⟩
    exact ⟨sameKey.trans keptKey, inner.trans deeper⟩
  | permuted moved =>
    cases same
    exact ⟨_, _, rfl, moved, same_refl _⟩
  | inMap before after key inner =>
    cases same
    exact ⟨_, _, rfl, .refl _,
      List.rel_append (same_refl before) (.cons ⟨rfl, inner⟩ (same_refl after))⟩
  | inList | inStruct => cases same

/-- A single entry can only be walked first. -/
theorem Reordered.of_single_entry {key : String} {item other : Value}
    (order : (map [(key, item)]).Reordered other) :
    ∃ walked, other = map [(key, walked)] ∧ item.Reordered walked := by
  obtain ⟨between, others, rfl, moved, inside⟩ := order.of_map
  rw [List.singleton_perm] at moved
  subst moved
  cases inside with
  | @cons _ entry _ _ first later =>
    obtain ⟨_, walked⟩ := entry
    obtain ⟨rfl, inner⟩ := first
    cases later
    exact ⟨walked, rfl, inner⟩

end Inversion

end Value
end BoltClient
