import BoltClient.Proofs.Codec.Acceptance

/-!
What more input can change. A reader looks at its input from the front and stops where it has
found something or a fault, so what follows makes no difference to it, unless it stopped for want
of bytes. `Stable` says so of a reader, and readers that are put together from stable ones are
stable. Then a value that is cut short is never taken for another value, nor for a broken one.
-/

namespace BoltClient

theorem Composite.Header.length_pos {kind : Composite} {count : Nat} {header : Bytes}
    (announced : kind.Header count header) : 0 < header.length := by
  cases announced <;> exact Nat.succ_pos _

namespace Value

namespace Reader

variable {α β : Type}

/-- What was read, or why it was refused, stays when more input follows; only a reader that ran
out of bytes may go on. -/
structure Stable (read : Reader α) : Prop where
  found {input rest : Bytes} {content : α} (done : read input = .ok (content, rest))
    (more : Bytes) : read (input ++ more) = .ok (content, rest ++ more)
  refused {input : Bytes} {fault : CodecFault} (broken : read input = .error fault)
    (other : fault.kind ≠ .notEnoughBytes) (more : Bytes) : read (input ++ more) = .error fault

theorem stable_pure (content : α) : Stable fun input => .ok (content, input) := by
  constructor
  · intro input rest found done more
    cases done
    rfl
  · intro input fault broken
    cases broken

theorem stable_refuse (fault : CodecFault) : Stable fun _ => (.error fault : Except _ (α × Bytes)) := by
  constructor
  · intro input rest found done
    cases done
  · intro input same broken other more
    exact broken

theorem stable_take (count : Nat) : Stable (HeaderScheme.take count) := by
  constructor
  · intro input rest front taken more
    obtain ⟨rfl, rfl⟩ := HeaderScheme.eq_append_of_take taken
    rw [List.append_assoc, HeaderScheme.take_append]
  · intro input fault broken other
    unfold HeaderScheme.take at broken
    split at broken <;> cases broken
    exact absurd rfl other

/-- Reading on behind a stable reader is stable when it is for whatever was read. -/
theorem Stable.bind {read : Reader α} {next : α × Bytes → Except CodecFault (β × Bytes)}
    (first : Stable read) (later : ∀ content, Stable fun rest => next (content, rest)) :
    Stable fun input => read input >>= next := by
  constructor
  · intro input rest content done more
    obtain ⟨⟨inner, behind⟩, here, there⟩ := ok_of_bind done
    have goesOn := (later inner).found there more
    simp only [first.found here more]
    exact goesOn
  · intro input fault broken other more
    cases here : read input with
    | error same =>
      rw [here] at broken
      cases broken
      rw [first.refused here other more]
      rfl
    | ok found =>
      obtain ⟨inner, behind⟩ := found
      rw [here] at broken
      rw [first.found here more]
      exact (later inner).refused broken other more

theorem Stable.of_eq {read other : Reader α} (stable : Stable read)
    (same : ∀ input, other input = read input) : Stable other :=
  (funext same : other = read) ▸ stable

theorem Stable.ite {condition : Prop} [Decidable condition] {first second : Reader α}
    (yes : Stable first) (no : Stable second) :
    Stable fun input => if condition then first input else second input := by
  by_cases holds : condition
  · simp only [if_pos holds]
    exact yes
  · simp only [if_neg holds]
    exact no

theorem stable_integer (width : Nat) : Stable (integer width) :=
  .bind (.bind (stable_take width) fun _ => stable_pure _) fun _ => stable_pure _

theorem stable_float : Stable float := .bind (stable_take 8) fun _ => stable_pure _

theorem stable_byteString (count : Nat) : Stable (byteString count) :=
  .bind (stable_take count) fun _ => stable_pure _

theorem stable_text (count : Nat) : Stable (text count) := by
  refine .bind (stable_take count) fun content => ?_
  cases decoded : Utf8.decode content with
  | ok text =>
    simp only [decoded]
    exact stable_pure _
  | error fault =>
    simp only [decoded]
    exact stable_refuse _

section Parts

variable {read : Reader Value}

theorem Stable.items (stable : Stable read) (count : Nat) : Stable (items read count) := by
  induction count with
  | zero => exact stable_pure _
  | succ count ih => exact .bind stable fun _ => .bind ih fun _ => stable_pure _

theorem Stable.key (stable : Stable read) : Stable (key read) := by
  refine .bind stable fun content => ?_
  cases content with
  | string text => exact stable_pure _
  | _ => exact stable_refuse _

theorem Stable.entries (stable : Stable read) (count : Nat) (collected : Entries Value) :
    Stable (entries read count collected) := by
  induction count generalizing collected with
  | zero => exact stable_pure _
  | succ count ih => exact .bind stable.key fun _ => .bind stable fun _ => ih _

theorem Stable.content (stable : Stable read) (kind : Composite) (count : Nat) :
    Stable (content read kind count) := by
  cases kind with
  | bytes => exact stable_byteString count
  | string => exact stable_text count
  | list => exact .bind (stable.items count) fun _ => stable_pure _
  | map => exact .bind (stable.entries count []) fun _ => stable_pure _
  | struct => exact .bind (stable_take 1) fun _ => .bind (stable.items count) fun _ => stable_pure _

/-- The count behind a marker is read like anything else. -/
theorem count_of_claims {kind : Composite} {marker : UInt8}
    (own : kind.scheme.claims marker = true) :
    ∃ count : Reader Nat, Stable count ∧
      ∀ input, kind.scheme.read? marker input = (count input).map some := by
  cases compact : kind.scheme.compactCount? marker with
  | some count =>
    refine ⟨fun input => .ok (count, input), stable_pure count, ?_⟩
    intro input
    rw [HeaderScheme.read?, compact]
    rfl
  | none =>
    cases long : kind.scheme.longWidth? marker with
    | none => simp [HeaderScheme.claims, compact, long] at own
    | some width =>
      refine ⟨fun input => HeaderScheme.take width input >>= fun taken =>
        if maxCount < Bytes.toNat taken.1 then .error (.lengthTooLarge (Bytes.toNat taken.1))
        else .ok (Bytes.toNat taken.1, taken.2), ?_, ?_⟩
      · refine .bind (stable_take width) fun raw => ?_
        change Stable fun rest => if maxCount < Bytes.toNat raw
          then .error (.lengthTooLarge (Bytes.toNat raw)) else .ok (Bytes.toNat raw, rest)
        exact .ite (stable_refuse _) (stable_pure _)
      · intro input
        simp only [HeaderScheme.read?, compact, long]
        rcases HeaderScheme.take width input with fault | ⟨raw, rest⟩
        · rfl
        · by_cases large : maxCount < Bytes.toNat raw
          · simp only [bind, Except.bind, if_pos large]
            rfl
          · simp only [bind, Except.bind, if_neg large]
            rfl

/-- No kind begins with a marker that none of them claims. -/
theorem announced?_of_unclaimed {marker : UInt8} (input : Bytes) {kinds : List Composite}
    (foreign : ∀ kind ∈ kinds, kind.scheme.claims marker = false) :
    Composite.announced? marker input kinds = .ok none := by
  induction kinds with
  | nil => rfl
  | cons first others ih =>
    rw [Composite.announced?, HeaderScheme.read?_of_not_claims (foreign first List.mem_cons_self)]
    exact ih fun kind member => foreign kind (List.mem_cons_of_mem _ member)

theorem Stable.announced (stable : Stable read) (marker : UInt8) :
    Stable fun input => (do
      match ← Composite.announced? marker input Composite.all with
      | some (kind, count, rest) => Reader.content read kind count rest
      | none => throw (.unknownMarker marker) : Except CodecFault (Value × Bytes)) := by
  by_cases claimed : ∃ kind : Composite, kind.scheme.claims marker = true
  · obtain ⟨kind, own⟩ := claimed
    obtain ⟨count, counts, same⟩ := count_of_claims own
    have whole : Stable fun input => count input >>= fun found =>
        Reader.content read kind found.1 found.2 := .bind counts (stable.content kind)
    refine whole.of_eq fun input => ?_
    rw [Composite.announced?_of_claims own input _ (Composite.mem_all kind), same]
    cases count input <;> rfl
  · have foreign : ∀ kind ∈ Composite.all, kind.scheme.claims marker = false :=
      fun kind _ => Bool.eq_false_iff.2 fun own => claimed ⟨kind, own⟩
    refine (stable_refuse (.unknownMarker marker)).of_eq fun input => ?_
    rw [announced?_of_unclaimed input foreign]
    rfl

theorem Stable.afterMarker (stable : Stable read) (marker : UInt8) :
    Stable (afterMarker read marker) :=
  .ite (stable_pure _) <| .ite stable_float <| .ite (stable_pure _) <| .ite (stable_pure _) <|
    .ite (stable_integer 1) <| .ite (stable_integer 2) <| .ite (stable_integer 4) <|
      .ite (stable_integer 8) <| .ite (stable_pure _) (stable.announced marker)

end Parts

theorem stable_value (levels : Nat) : Stable (value levels) := by
  induction levels with
  | zero => exact stable_refuse _
  | succ levels ih => exact .bind (stable_take 1) fun _ => ih.afterMarker _

end Reader

theorem Encoding.length_pos {value : Value} {front : Bytes} {depth : Nat}
    (written : value.Encoding front depth) : 0 < front.length := by
  cases written with
  | null | no | yes | float | tiny | wide => exact Nat.succ_pos _
  | bytes _ announced | string _ announced | list _ announced | map _ _ announced
  | struct _ _ announced =>
    rw [List.length_append]
    exact Nat.add_pos_left announced.length_pos _

section Decoding

variable {input : Bytes} {value : Value} {count : Nat}

theorem decode_ok_append (decoded : decode input = .ok (value, count)) (more : Bytes) :
    decode (input ++ more) = .ok (value, count) := by
  obtain ⟨front, rest, rfl, rfl, done⟩ := decode_eq_ok.1 decoded
  have later := (Reader.stable_value _).found done more
  exact decode_eq_ok.2 ⟨front, rest ++ more, List.append_assoc .., rfl, later⟩

theorem decode_error_append {fault : CodecFault} (broken : decode input = .error fault)
    (other : fault.kind ≠ .notEnoughBytes) (more : Bytes) :
    decode (input ++ more) = .error fault := by
  cases done : read input with
  | ok result =>
    rw [decode, done] at broken
    cases broken
  | error same =>
    rw [decode, done] at broken
    cases broken
    have later : read (input ++ more) = _ := (Reader.stable_value _).refused done other more
    rw [decode, later]
    rfl

theorem count_of_decode (decoded : decode input = .ok (value, count)) :
    1 ≤ count ∧ count ≤ input.length := by
  obtain ⟨within, depth, -, written⟩ := encoding_of_decode decoded (.refl value)
  have positive := written.length_pos
  rw [List.length_take, Nat.min_eq_left within] at positive
  exact ⟨positive, within⟩

/-- Were a front of a value read as anything, or refused for what it holds, so would the whole. -/
theorem decode_take (decoded : decode input = .ok (value, count)) {kept : Nat}
    (fewer : kept < count) :
    ∃ fault, decode (input.take kept) = .error fault ∧ fault.kind = .notEnoughBytes := by
  have whole := List.take_append_drop kept input
  cases cut : decode (input.take kept) with
  | ok result =>
    obtain ⟨other, shorter⟩ := result
    have same := decode_ok_append cut (input.drop kept)
    rw [whole, decoded] at same
    cases same
    have within := (count_of_decode cut).2
    rw [List.length_take] at within
    omega
  | error fault =>
    refine ⟨fault, rfl, ?_⟩
    by_contra other
    have same := decode_error_append cut other (input.drop kept)
    rw [whole, decoded] at same
    cases same

end Decoding

/-- What follows a value makes no difference to it, and a value that is cut short lacks bytes
wherever it is cut; a fault is the same whatever follows, unless it is that bytes are missing. -/
theorem decode_append (input more : Bytes) :
    (∀ value count, decode input = .ok (value, count) →
      1 ≤ count ∧ count ≤ input.length ∧ decode (input ++ more) = .ok (value, count) ∧
      ∀ kept < count, ∃ fault, decode (input.take kept) = .error fault ∧
        fault.kind = .notEnoughBytes) ∧
    ∀ fault, decode input = .error fault → fault.kind ≠ .notEnoughBytes →
      decode (input ++ more) = .error fault := by
  constructor
  · intro value count decoded
    obtain ⟨positive, within⟩ := count_of_decode decoded
    exact ⟨positive, within, decode_ok_append decoded more, fun kept => decode_take decoded⟩
  · intro fault broken other
    exact decode_error_append broken other more

end Value
end BoltClient
