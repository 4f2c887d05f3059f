import BoltClient.Message.Presentation
import BoltClient.Proofs.Message.Fields
import BoltClient.Proofs.Typed.Bridge

/-!
What a request says to its peer. The fields are written one by one as they present themselves,
and this gives the structure that is packed. In whatever order its maps are walked, the peer
finds under each key what the caller has set, and nothing under the others.
-/

namespace BoltClient

/-! A caller's map has no key twice, and neither has a map inside it. -/

def ClientInfo.Proper (client : ClientInfo) : Prop :=
  ∀ routing ∈ client.routing, routing.keys.Nodup

def TransactionOptions.Proper (options : TransactionOptions) : Prop :=
  ∀ metadata ∈ options.metadata, (Value.map metadata).DistinctKeys

def Request.Proper : Request → Prop
  | hello client => client.Proper
  | logon auth => (Value.map auth.parameters).DistinctKeys
  | run _ parameters options => (Value.map parameters).DistinctKeys ∧ options.Proper
  | begin options => options.Proper
  | route routing _ _ => (Value.map routing).DistinctKeys
  | goodbye | logoff | reset | telemetry _ | discard _ | pull _ | commit | rollback => True

namespace Datum

/-- That data are written as a value in which no map has a key twice. -/
structure Writes (data : Datum) (value : Value) : Prop where
  written : data.toValue = .ok value
  distinct : value.DistinctKeys

theorem text_writes (content : String) : (text content).Writes (.string content) :=
  ⟨rfl, trivial⟩

theorem integer_writes (number : Int64) : (integer number.toInt).Writes (.integer number) :=
  ⟨toValue_integer number, trivial⟩

theorem ofValue_writes {value : Value} (distinct : value.DistinctKeys) :
    (ofValue value).Writes value :=
  ⟨toValue_ofValue value distinct, distinct⟩

theorem items_write {items : List Datum} {values : List Value}
    (each : List.Forall₂ Writes items values) :
    itemsToValues items = .ok values ∧ Value.DistinctKeysOfItems values := by
  induction each with
  | nil => exact ⟨rfl, trivial⟩
  | cons here _ ih =>
    refine ⟨?_, here.distinct, ih.2⟩
    rw [itemsToValues, here.written, ih.1]
    rfl

theorem ofTexts_writes (texts : List String) : (ofTexts texts).Writes (.ofTexts texts) := by
  have each : List.Forall₂ Writes (texts.map text) (texts.map .string) := by
    induction texts with
    | nil => exact .nil
    | cons content rest ih => exact .cons (text_writes content) ih
  obtain ⟨written, distinct⟩ := items_write each
  exact ⟨congrArg (Except.map Value.list) written, distinct⟩

/-- That a field is written under its name if it is set, and left out if it is not. -/
def FieldWrites (shown : String × Option Datum) (field : String × Option Value) : Prop :=
  shown.1 = field.1 ∧ Option.Rel Writes shown.2 field.2

theorem FieldWrites.set {name : String} {data : Datum} {value : Value}
    (writes : data.Writes value) : FieldWrites (name, some data) (name, some value) :=
  ⟨rfl, .some writes⟩

theorem FieldWrites.optional {α : Type} {name : String} {present : α → Datum} {write : α → Value}
    {content? : Option α}
    (writes : ∀ content ∈ content?, (present content).Writes (write content)) :
    FieldWrites (name, optional present content?) (name, content?.map write) := by
  refine ⟨rfl, ?_⟩
  cases content? with
  | none => exact .none
  | some content =>
    -- what is present is written as its content
    obtain ⟨written, distinct⟩ := writes content rfl
    exact .some ⟨written, distinct⟩

theorem setFields_write {shown : List (String × Option Datum)}
    {fields : List (String × Option Value)} (each : List.Forall₂ FieldWrites shown fields) :
    fieldsToValues (setFields shown) = .ok (setEntries fields) ∧
      Value.DistinctKeysOfEntries (setEntries fields) := by
  induction each with
  | nil => exact ⟨rfl, trivial⟩
  | @cons first other rest _ here _ ih =>
    obtain ⟨key, content?⟩ := first
    obtain ⟨_, value?⟩ := other
    obtain ⟨rfl, content⟩ := here
    cases content with
    | none => exact ih
    | @some data value writes =>
      refine ⟨?_, writes.distinct, ih.2⟩
      change fieldsToValues ((key, data) :: setFields rest) = _
      rw [fieldsToValues, writes.written, ih.1]
      rfl

/-- A record that is no structure is written as the map of its fields that are set. -/
theorem ofFields_writes {name : String} {shown : List (String × Option Datum)}
    {fields : List (String × Option Value)} (ordinary : name ≠ structureToken)
    (distinct : (fields.map Prod.fst).Nodup) (each : List.Forall₂ FieldWrites shown fields) :
    (ofFields name shown).Writes (.map (setEntries fields)) := by
  obtain ⟨written, inside⟩ := setFields_write each
  have keys : (setEntries fields).keys.Nodup := distinct.sublist keys_setEntries
  refine ⟨?_, keys, inside⟩
  rw [ofFields, toValue, if_neg ordinary, written]
  exact congrArg (fun entries => Except.ok (Value.map entries)) (Entries.ofPairs_of_nodup keys)

theorem stepsOfEntries_append (first second : List (String × Value)) :
    stepsOfEntries (first ++ second) = stepsOfEntries first ++ stepsOfEntries second := by
  induction first with
  | nil => rfl
  | cons entry rest ih =>
    rw [List.cons_append, stepsOfEntries, stepsOfEntries, ih]
    rfl

/-- Texts under keys present themselves like values under keys. -/
theorem ofEntries_texts (entries : Entries String) :
    ofEntries (entries.map fun (key, content) => (text key, text content)) =
      ofValue (.map (entries.map fun (key, content) => (key, .string content))) := by
  refine congrArg map ?_
  induction entries with
  | nil => rfl
  | cons entry rest ih =>
    rw [List.map_cons, List.map_cons, List.flatMap_cons, stepsOfEntries, ← ih]
    rfl

theorem texts_write {entries : Entries String} (distinct : entries.keys.Nodup) :
    (ofEntries (entries.map fun (key, content) => (text key, text content))).Writes
      (.map (entries.map fun (key, content) => (key, .string content))) := by
  rw [ofEntries_texts]
  refine ofValue_writes (Value.distinctKeys_map_iff.2 ⟨?_, ?_⟩)
  · rwa [Entries.keys, List.map_map]
  · intro entry member
    obtain ⟨_, _, rfl⟩ := List.mem_map.1 member
    trivial

end Datum

open Datum (text_writes integer_writes ofValue_writes ofTexts_writes ofFields_writes)

theorem Agent.writes (agent : Agent) : agent.presented.Writes agent.toValue :=
  ofFields_writes (by decide) (by simp) <|
    .cons (.set (text_writes agent.product)) <|
    .cons (.optional fun platform _ => text_writes platform) <|
    .cons (.optional fun language _ => text_writes language) <|
    .cons (.optional fun details _ => text_writes details) .nil

theorem ClientInfo.writes (client : ClientInfo) (proper : client.Proper) :
    client.presented.Writes client.toValue :=
  ofFields_writes (by decide) (by simp) <|
    .cons (.set (text_writes client.userAgent)) <|
    .cons (.set (ofTexts_writes client.patches)) <|
    .cons (.optional fun routing set => Datum.texts_write (proper routing set)) <|
    .cons (.optional fun severity _ => text_writes severity) <|
    .cons (.optional fun categories _ => ofTexts_writes categories) <|
    .cons (.set client.agent.writes) .nil

theorem AccessMode.writes (mode : AccessMode) : mode.presented.Writes mode.toValue := by
  cases mode with
  | write => exact ⟨rfl, trivial⟩
  | read => exact ⟨rfl, trivial⟩

theorem TransactionOptions.writes (options : TransactionOptions) (proper : options.Proper) :
    options.presented.Writes options.toValue :=
  ofFields_writes (by decide) (by simp) <|
    .cons (.set (ofTexts_writes options.bookmarks)) <|
    .cons (.optional fun timeout _ => integer_writes timeout) <|
    .cons (.optional fun metadata set => ofValue_writes (proper metadata set)) <|
    .cons (.optional fun mode _ => mode.writes) <|
    .cons (.optional fun db _ => text_writes db) <|
    .cons (.optional fun user _ => text_writes user) <|
    .cons (.optional fun severity _ => text_writes severity) <|
    .cons (.optional fun categories _ => ofTexts_writes categories) .nil

theorem Demand.writes (demand : Demand) : demand.presented.Writes demand.toValue :=
  ofFields_writes (by decide) (by simp) <|
    .cons (.set (integer_writes demand.count)) <|
    .cons (.optional fun qid _ => integer_writes qid) .nil

theorem RouteOptions.writes (options : RouteOptions) : options.presented.Writes options.toValue :=
  ofFields_writes (by decide) (by simp) <|
    .cons (.optional fun db _ => text_writes db) <|
    .cons (.optional fun user _ => text_writes user) .nil

theorem ApiUse.writes (use : ApiUse) : use.presented.Writes use.toValue := by
  cases use with
  | managedTransaction | explicitTransaction | implicitTransaction | direct => exact ⟨rfl, trivial⟩

namespace Auth

variable {auth : Auth}

theorem presented_eq (auth : Auth) : auth.presented = .ofValue auth.toValue := by
  rw [toValue, entries, Datum.ofValue, Datum.stepsOfEntries_append]
  rfl

theorem distinct_toValue (proper : (Value.map auth.parameters).DistinctKeys) :
    auth.toValue.DistinctKeys := by
  rw [Value.distinctKeys_map_iff] at proper
  rw [toValue, Value.distinctKeys_map_iff, entries, Entries.keys, List.map_append]
  have kept : (auth.parameters.erase schemeKey).Sublist auth.parameters := List.filter_sublist
  refine ⟨List.nodup_append.2 ⟨proper.1.sublist (kept.map Prod.fst), by simp, ?_⟩, ?_⟩
  · rintro key among _ last rfl
    obtain rfl : key = schemeKey := by simpa using last
    obtain ⟨entry, member, same⟩ := List.mem_map.1 among
    have other := (List.mem_filter.1 member).2
    simp [same] at other
  · intro entry member
    rcases List.mem_append.1 member with among | last
    · exact proper.2 entry (kept.subset among)
    · obtain rfl := List.mem_singleton.1 last
      trivial

end Auth

namespace Request

variable {request : Request}

theorem each_writes (proper : request.Proper) :
    List.Forall₂ Datum.Writes request.presented request.fields := by
  cases request with
  | hello client => exact .cons (client.writes proper) .nil
  | logon auth =>
    refine .cons ?_ .nil
    rw [auth.presented_eq]
    exact ofValue_writes (Auth.distinct_toValue proper)
  | telemetry use => exact .cons use.writes .nil
  | run query parameters options =>
    exact .cons (text_writes query)
      (.cons (ofValue_writes proper.1) (.cons (options.writes proper.2) .nil))
  | discard demand | pull demand => exact .cons demand.writes .nil
  | begin options => exact .cons (options.writes proper) .nil
  | route routing bookmarks options =>
    exact .cons (ofValue_writes proper)
      (.cons (ofTexts_writes bookmarks) (.cons options.writes .nil))
  | goodbye | logoff | reset | commit | rollback => exact .nil

/-- What is written field by field is the structure that is packed. -/
theorem write_eq (proper : request.Proper) : request.write = .ok request.toStructure := by
  rw [write, (Datum.items_write (each_writes proper)).1]
  rfl

theorem distinct_toValue (proper : request.Proper) : request.toValue.DistinctKeys :=
  (Datum.items_write (each_writes proper)).2

end Request

/-! What stands in the maps that the peer receives. -/

/-- What a table says of a key; nothing if the key is not in it, or has nothing set. -/
def said (table : List (String × Option Value)) (key : String) : Option Value :=
  (table.lookup key).join

theorem get?_setEntries_said {table : List (String × Option Value)}
    (distinct : (table.map Prod.fst).Nodup) (key : String) :
    (setEntries table).get? key = said table key := by
  induction table with
  | nil => rfl
  | cons field rest ih =>
    obtain ⟨name, content⟩ := field
    by_cases here : key = name
    · subst here
      rw [get?_setEntries distinct List.mem_cons_self, said, List.lookup_cons_self]
      rfl
    · have later := ih (List.nodup_cons.1 distinct).2
      rw [said, List.lookup_cons, beq_false_of_ne here]
      cases content with
      | none => exact later
      | some value => exact (if_neg (Ne.symm here)).trans later

/-- That entries hold what is said of each key, up to the order of maps, and nothing else. -/
structure Entries.Tell (entries : Entries Value) (content : String → Option Value) : Prop where
  distinct : entries.keys.Nodup
  found : ∀ key, Option.Rel Value.Reordered (content key) (entries.get? key)

/-- However a map is walked, what stands in it is told. -/
theorem Entries.tell_of_reordered {sent : Entries Value} {content : String → Option Value}
    {walked : Value} (distinct : (Value.map sent).DistinctKeys)
    (holds : ∀ key, sent.get? key = content key) (order : (Value.map sent).Reordered walked) :
    ∃ entries : Entries Value, walked = .map entries ∧ entries.Tell content := by
  obtain ⟨between, entries, rfl, -, -⟩ := order.of_map
  refine ⟨entries, rfl, (order.distinctKeys distinct).1, fun key => ?_⟩
  rw [← holds key]
  exact order.agree distinct.1 key

theorem Entries.tell_table {table : List (String × Option Value)} {walked : Value}
    (names : (table.map Prod.fst).Nodup) (distinct : (Value.map (setEntries table)).DistinctKeys)
    (order : (Value.map (setEntries table)).Reordered walked) :
    ∃ entries : Entries Value, walked = .map entries ∧ entries.Tell (said table) :=
  tell_of_reordered distinct (get?_setEntries_said names) order

namespace Request

/-- What the map of a transaction's options says. -/
def optionsSaid (options : TransactionOptions) : String → Option Value :=
  said
    [("bookmarks", some (.list (options.bookmarks.map .string))),
      ("tx_timeout", options.timeout.map .integer),
      ("tx_metadata", options.metadata.map .map),
      ("mode", options.mode.map AccessMode.toValue),
      ("db", options.db.map .string),
      ("imp_user", options.user.map .string),
      ("notifications_minimum_severity", options.minimumSeverity.map .string),
      ("notifications_disabled_categories",
        options.disabledCategories.map fun categories => .list (categories.map .string))]

def demandSaid (demand : Demand) : String → Option Value :=
  said [("n", some (.integer demand.count)), ("qid", demand.qid.map .integer)]

/-- That fields say what the caller of a request has set, and nothing else. -/
def Conveys : Request → List Value → Prop
  | hello client, fields => ∃ agent entries : Entries Value,
    fields = [.map entries] ∧
    agent.Tell (said
      [("product", some (.string client.agent.product)),
        ("platform", client.agent.platform.map .string),
        ("language", client.agent.language.map .string),
        ("language_details", client.agent.languageDetails.map .string)]) ∧
    entries.Tell (said
      [("user_agent", some (.string client.userAgent)),
        ("patch_bolt", some (.list (client.patches.map .string))),
        ("routing", client.routing.map fun routing =>
          .map (routing.map fun (key, text) => (key, .string text))),
        ("notifications_minimum_severity", client.minimumSeverity.map .string),
        ("notifications_disabled_categories",
          client.disabledCategories.map fun categories => .list (categories.map .string)),
        ("bolt_agent", some (.map agent))])
  | logon auth, fields => ∃ entries : Entries Value,
    fields = [.map entries] ∧ entries.Tell fun key =>
      if key = "scheme" then some (.string auth.scheme) else auth.parameters.get? key
  | telemetry use, fields => fields = [.ofInt use.number]
  | run query parameters options, fields => ∃ sent entries : Entries Value,
    fields = [.string query, .map sent, .map entries] ∧
    (Value.map parameters).Reordered (.map sent) ∧ entries.Tell (optionsSaid options)
  | discard demand, fields | pull demand, fields => ∃ entries : Entries Value,
    fields = [.map entries] ∧ entries.Tell (demandSaid demand)
  | begin options, fields => ∃ entries : Entries Value,
    fields = [.map entries] ∧ entries.Tell (optionsSaid options)
  | route routing bookmarks options, fields => ∃ sent entries : Entries Value,
    fields = [.map sent, .list (bookmarks.map .string), .map entries] ∧
    (Value.map routing).Reordered (.map sent) ∧
    entries.Tell (said [("db", options.db.map .string), ("imp_user", options.user.map .string)])
  | goodbye, fields | logoff, fields | reset, fields | commit, fields | rollback, fields =>
    fields = []

theorem tell_options {options : TransactionOptions} {walked : Value} (proper : options.Proper)
    (order : options.toValue.Reordered walked) :
    ∃ entries : Entries Value, walked = .map entries ∧ entries.Tell (optionsSaid options) :=
  Entries.tell_table (by simp) (options.writes proper).distinct order

theorem tell_demand {demand : Demand} {walked : Value} (order : demand.toValue.Reordered walked) :
    ∃ entries : Entries Value, walked = .map entries ∧ entries.Tell (demandSaid demand) :=
  Entries.tell_table (by simp) demand.writes.distinct order

/-- The scheme is found under its key, whatever parameter the caller has put there. -/
theorem get?_auth (auth : Auth) (key : String) : auth.entries.get? key =
    if key = "scheme" then some (.string auth.scheme) else auth.parameters.get? key := by
  change _ = if key = Auth.schemeKey then _ else _
  rw [Auth.entries, Entries.get?_append, Entries.get?_erase]
  by_cases here : key = Auth.schemeKey
  · rw [if_pos here, if_pos here, Option.none_or, Entries.get?, if_pos here.symm]
  · rw [if_neg here, if_neg here, Entries.get?, if_neg (Ne.symm here), Entries.get?,
      Option.or_none]

/-- In whatever order the maps of a request are walked, its fields say what they should. -/
theorem conveys_of_reordered {request : Request} (proper : request.Proper) {fields : List Value}
    (order : List.Forall₂ Value.Reordered request.fields fields) : request.Conveys fields := by
  cases request with
  | hello client =>
    obtain _ | ⟨here, ⟨⟩⟩ := order
    -- the map inside is told as it was written: its order is part of what the outer map tells
    obtain ⟨agent, same, described⟩ := Entries.tell_table (by simp) client.agent.writes.distinct
      (.refl client.agent.toValue)
    have distinct := (client.writes proper).distinct
    obtain ⟨entries, rfl, told⟩ := Entries.tell_table (by simp) distinct here
    rw [same] at told
    exact ⟨agent, entries, rfl, described, told⟩
  | logon auth =>
    obtain _ | ⟨here, ⟨⟩⟩ := order
    obtain ⟨entries, rfl, told⟩ :=
      Entries.tell_of_reordered (Auth.distinct_toValue proper) (get?_auth auth) here
    exact ⟨entries, rfl, told⟩
  | telemetry use =>
    obtain _ | ⟨here, ⟨⟩⟩ := order
    obtain rfl := here.eq_of_mapless trivial
    rfl
  | run query parameters options =>
    obtain _ | ⟨text, _ | ⟨order, _ | ⟨last, ⟨⟩⟩⟩⟩ := order
    obtain rfl := text.eq_of_mapless trivial
    obtain ⟨_, sent, rfl, -, -⟩ := order.of_map
    obtain ⟨entries, rfl, told⟩ := tell_options proper.2 last
    exact ⟨sent, entries, rfl, order, told⟩
  | discard demand | pull demand =>
    obtain _ | ⟨here, ⟨⟩⟩ := order
    obtain ⟨entries, rfl, told⟩ := tell_demand here
    exact ⟨entries, rfl, told⟩
  | begin options =>
    obtain _ | ⟨here, ⟨⟩⟩ := order
    obtain ⟨entries, rfl, told⟩ := tell_options proper here
    exact ⟨entries, rfl, told⟩
  | route routing bookmarks options =>
    obtain _ | ⟨order, _ | ⟨texts, _ | ⟨last, ⟨⟩⟩⟩⟩ := order
    obtain ⟨_, sent, rfl, -, -⟩ := order.of_map
    obtain rfl := texts.eq_of_mapless (Value.mapless_ofTexts bookmarks)
    obtain ⟨entries, rfl, told⟩ := Entries.tell_table (by simp) options.writes.distinct last
    exact ⟨sent, entries, rfl, order, told⟩
  | goodbye | logoff | reset | commit | rollback =>
    obtain ⟨⟩ := order
    rfl

end Request
end BoltClient
