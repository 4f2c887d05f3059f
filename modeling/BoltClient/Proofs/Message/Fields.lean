import BoltClient.Message.Metadata
import BoltClient.Proofs.Value.Lookup

/-!
Records whose fields travel under keys, and may be unset. What is written for a field is found
under its key and nothing else is; and a record is read from any map in which each of its keys
is found with what was written for it, whatever else the map holds and however it is walked.
-/

namespace BoltClient

section Written

variable {fields : List (String × Option Value)}

theorem keys_setEntries : (setEntries fields).keys.Sublist (fields.map Prod.fst) := by
  induction fields with
  | nil => exact .slnil
  | cons field rest ih =>
    obtain ⟨name, _ | value⟩ := field
    · exact ih.cons name
    · exact ih.cons_cons name

/-- Under the key of a field stands what was written for it, if it was set. -/
theorem get?_setEntries (distinct : (fields.map Prod.fst).Nodup) {name : String}
    {content : Option Value} (field : (name, content) ∈ fields) :
    (setEntries fields).get? name = content := by
  induction fields with
  | nil => cases field
  | cons other rest ih =>
    obtain ⟨key, written⟩ := other
    rw [List.map_cons, List.nodup_cons] at distinct
    rcases List.mem_cons.1 field with same | later
    · cases same
      cases content with
      | some value => exact if_pos rfl
      | none =>
        exact Entries.get?_of_not_mem fun found => distinct.1 (keys_setEntries.subset found)
    · have named : name ∈ rest.map Prod.fst := List.mem_map_of_mem (f := Prod.fst) later
      have other : key ≠ name := fun same => distinct.1 (same ▸ named)
      cases written with
      | some value => exact (if_neg other).trans (ih distinct.2 later)
      | none => exact ih distinct.2 later

/-- So it does when entries with other keys have been added. -/
theorem get?_extended (distinct : (fields.map Prod.fst).Nodup) {extra : Entries Value}
    (unknown : ∀ key ∈ extra.keys, key ∉ fields.map Prod.fst) {name : String}
    {content : Option Value} (field : (name, content) ∈ fields) :
    Entries.get? name (setEntries fields ++ extra) = content := by
  have absent : extra.get? name = none := Entries.get?_of_not_mem fun found =>
    unknown name found (List.mem_map_of_mem field)
  rw [Entries.get?_append, get?_setEntries distinct field, absent, Option.or_none]

theorem nodup_extended (distinct : (fields.map Prod.fst).Nodup) {extra : Entries Value}
    (unknown : ∀ key ∈ extra.keys, key ∉ fields.map Prod.fst) (proper : extra.keys.Nodup) :
    (Entries.keys (setEntries fields ++ extra)).Nodup := by
  rw [Entries.keys, List.map_append]
  refine List.nodup_append.2 ⟨distinct.sublist keys_setEntries, proper, ?_⟩
  rintro key here _ there rfl
  exact unknown key there (keys_setEntries.subset here)

/-- That what was written for each field is found under its key, up to the order of maps. -/
def Holds (fields : List (String × Option Value)) (entries : Entries Value) : Prop :=
  ∀ name content, (name, content) ∈ fields →
    Option.Rel Value.Reordered content (entries.get? name)

/-- Other entries do not stand in the way, and neither does the order of any map. -/
theorem holds_of_reordered (distinct : (fields.map Prod.fst).Nodup) {extra entries : Entries Value}
    (unknown : ∀ key ∈ extra.keys, key ∉ fields.map Prod.fst) (proper : extra.keys.Nodup)
    (order : (Value.map (setEntries fields ++ extra)).Reordered (.map entries)) :
    Holds fields entries := by
  intro name content field
  rw [← get?_extended distinct unknown field]
  exact order.agree (nodup_extended distinct unknown proper) name

end Written

namespace Decoder

variable {α : Type} {read : Decoder α} {write : α → Value}

/-- That what is written for data is read as these data, in whatever order its maps are walked. -/
def Inverts (read : Decoder α) (write : α → Value) : Prop :=
  ∀ data walked, (write data).Reordered walked → walked.isNull = false ∧ read walked = .ok data

theorem inverts_of_mapless (mapless : ∀ data, (write data).EachMap fun _ => False)
    (set : ∀ data, (write data).isNull = false) (reads : ∀ data, read (write data) = .ok data) :
    Inverts read write := by
  intro data walked order
  obtain rfl := order.eq_of_mapless (mapless data)
  exact ⟨set data, reads data⟩

theorem text_inverts : Inverts text .string :=
  inverts_of_mapless (fun _ => trivial) (fun _ => rfl) fun _ => rfl

theorem int64_inverts : Inverts int64 .integer :=
  inverts_of_mapless (fun _ => trivial) (fun _ => rfl) fun _ => rfl

theorem boolean_inverts : Inverts boolean .boolean :=
  inverts_of_mapless (fun _ => trivial) (fun _ => rfl) fun _ => rfl

theorem Inverts.sequence (inverts : Inverts read write) :
    Inverts (sequence read) fun items => .list (items.map write) := by
  intro items walked order
  obtain ⟨others, rfl, inside⟩ := order.of_list
  refine ⟨rfl, ?_⟩
  change others.mapM read = .ok items
  clear order
  induction items generalizing others with
  | nil =>
    cases inside
    rfl
  | cons item rest ih =>
    cases inside with
    | cons here later =>
      rw [List.mapM_cons, (inverts item _ here).2, ih _ later]
      rfl

theorem option_of_set {value : Value} (set : value.isNull = false) :
    option read value = (read value).map some := by
  cases value with
  | null => cases set
  | _ => rfl

end Decoder

namespace Record

variable {α β : Type} {entries : Entries Value}

/-- That data are read from entries. -/
def Reads (record : Record α) (entries : Entries Value) (data : α) : Prop :=
  record.ofEntries entries = .ok (.ok data)

/-- That a field that may be unset is read from what is found under its key. -/
def Given (read : Decoder α) (found : Option Value) (content : Option α) : Prop :=
  match found with
  | none => content = none
  | some item => Decoder.option read item = .ok content

theorem given_of_inverts {read : Decoder α} {write : α → Value}
    (inverts : Decoder.Inverts read write) {found : Option Value} {content : Option α}
    (agrees : Option.Rel Value.Reordered (content.map write) found) :
    Given read found content := by
  cases content with
  | none =>
    cases agrees
    rfl
  | some data =>
    cases agrees with
    | some order =>
      obtain ⟨set, content⟩ := inverts data _ order
      rw [Given, Decoder.option_of_set set, content]
      rfl

theorem given_self {read : Decoder α} {write : α → Value} {content : Option α}
    (set : ∀ data, (write data).isNull = false)
    (reads : ∀ data ∈ content, read (write data) = .ok data) :
    Given read (content.map write) content := by
  cases content with
  | none => rfl
  | some data =>
    change Decoder.option read (write data) = .ok (some data)
    rw [Decoder.option_of_set (set data), reads data rfl]
    rfl

namespace Reads

variable {function : Record (α → β)} {f : α → β} {name : String} {read : Decoder α} {data : α}
  {write : α → Value}

theorem pure (data : α) : (Record.pure data).Reads entries data := rfl

theorem apply {argument : Record α} (reads : function.Reads entries f)
    (content : argument.Reads entries data) : (function.apply argument).Reads entries (f data) := by
  change (function.ofEntries entries >>= fun laterFunction => argument.ofEntries entries >>=
    fun laterArgument => _) = _
  rw [reads, content]
  rfl

theorem field_of_found {missing : Missing α} {item : Value} (found : entries.get? name = some item)
    (content : read item = .ok data) : (Record.field name read missing).Reads entries data := by
  rw [Reads, Record.field]
  simp only [found, content]
  rfl

theorem field {missing : Missing α} (inverts : Decoder.Inverts read write)
    (agrees : Option.Rel Value.Reordered (some (write data)) (entries.get? name)) :
    (field name read missing).Reads entries data := by
  cases found : entries.get? name with
  | none =>
    rw [found] at agrees
    cases agrees
  | some item =>
    rw [found] at agrees
    cases agrees with
    | some order => exact field_of_found found (inverts data item order).2

theorem required (reads : function.Reads entries f) (inverts : Decoder.Inverts read write)
    (agrees : Option.Rel Value.Reordered (some (write data)) (entries.get? name)) :
    (function.required name read).Reads entries (f data) :=
  reads.apply (field inverts agrees)

theorem defaulted (reads : function.Reads entries f) {default : α}
    (inverts : Decoder.Inverts read write)
    (agrees : Option.Rel Value.Reordered (some (write data)) (entries.get? name)) :
    (function.defaulted name read default).Reads entries (f data) :=
  reads.apply (field inverts agrees)

theorem optional {function : Record (Option α → β)} {f : Option α → β} {content : Option α}
    (reads : function.Reads entries f) (given : Given read (entries.get? name) content) :
    (function.optional name read).Reads entries (f content) := by
  refine reads.apply ?_
  cases found : entries.get? name with
  | none =>
    rw [found] at given
    obtain rfl : content = none := given
    rw [Reads, Record.field]
    simp only [found]
  | some item =>
    rw [found] at given
    exact field_of_found found given

theorem decoder {record : Record α} (reads : record.Reads entries data) (name : String) :
    record.decoder name (.map entries) = .ok data := by
  rw [Record.decoder, readEntries, reads]
  rfl

end Reads

/-- A record that is read from whatever entries hold its fields. -/
theorem inverts_of_holds {record : Record α} (name : String)
    (fields : α → List (String × Option Value))
    (distinct : ∀ data, ((fields data).map Prod.fst).Nodup)
    (reads : ∀ data entries, Holds (fields data) entries → record.Reads entries data) :
    Decoder.Inverts (record.decoder name) fun data => .map (setEntries (fields data)) := by
  intro data walked order
  obtain ⟨between, others, rfl, -, -⟩ := order.of_map
  have bare : (Value.map (setEntries (fields data) ++ [])).Reordered (.map others) := by
    rwa [List.append_nil]
  have none : ∀ key ∈ Entries.keys ([] : Entries Value), key ∉ (fields data).map Prod.fst := nofun
  have holds := holds_of_reordered (distinct data) none List.nodup_nil bare
  exact ⟨rfl, (reads data others holds).decoder name⟩

end Record
end BoltClient
