import BoltClient.Codec.Unpack
import BoltClient.Proofs.Codec.Grammar

/-!
A count is read from every header that can announce it and from nothing else, and a
marker belongs to one kind at most. So the decoder, which tries the kinds one after the
other, ends with the kind of the header, and the markers of scalars are of no kind. A
header that is written is one of those that are read.
-/

namespace BoltClient

namespace HeaderScheme

theorem take_append (front rest : Bytes) :
    take front.length (front ++ rest) = .ok (front, rest) := by
  rw [take, Bytes.split?_append]

theorem eq_append_of_take {count : Nat} {input front rest : Bytes}
    (taken : take count input = .ok (front, rest)) :
    input = front ++ rest ∧ front.length = count := by
  unfold take at taken
  split at taken
  · next split =>
    cases taken
    exact Bytes.eq_append_of_split? split
  · cases taken

/-- Whether a marker begins a header of this kind. -/
def claims (scheme : HeaderScheme) (marker : UInt8) : Bool :=
  (scheme.compactCount? marker).isSome || (scheme.longWidth? marker).isSome

/-- A marker of another kind is passed over without reading on. -/
theorem read?_of_not_claims {scheme : HeaderScheme} {marker : UInt8}
    (foreign : scheme.claims marker = false) (input : Bytes) :
    scheme.read? marker input = .ok none := by
  simp only [claims, Bool.or_eq_false_iff, Option.isSome_eq_false_iff, Option.isNone_iff_eq_none]
    at foreign
  rw [read?, foreign.1, foreign.2]

/-- A marker of this kind announces a count unless its header is broken. -/
theorem read?_ne_none_of_claims {scheme : HeaderScheme} {marker : UInt8}
    (own : scheme.claims marker = true) (input : Bytes) :
    scheme.read? marker input ≠ .ok none := by
  unfold read?
  cases compact : scheme.compactCount? marker with
  | some count => simp
  | none =>
    cases long : scheme.longWidth? marker with
    | none => simp [claims, compact, long] at own
    | some width =>
      simp only
      split
      · simp
      · split <;> simp

end HeaderScheme

namespace Composite

open HeaderScheme

private theorem claims_unique_below : ∀ number < 256, ∀ first ∈ all,
    first.scheme.claims (UInt8.ofNat number) → ∀ second ∈ all,
      second.scheme.claims (UInt8.ofNat number) → first = second := by
  decide +kernel

theorem mem_all (kind : Composite) : kind ∈ all := by cases kind <;> decide

/-- The marker ranges of the kinds do not overlap. -/
theorem eq_of_claims {first second : Composite} {marker : UInt8}
    (one : first.scheme.claims marker = true) (other : second.scheme.claims marker = true) :
    first = second := by
  rw [← UInt8.ofNat_toNat (x := marker)] at one other
  exact claims_unique_below _ marker.toNat_lt _ (mem_all first) one _ (mem_all second) other

private theorem sized_below : ∀ number < 256, ∀ kind ∈ all,
    kind.scheme.claims (UInt8.ofNat number) →
    (0x80 ≤ number ∧ number < 0xC0) ∨ (0xCC ≤ number ∧ number < 0xE0) := by
  decide +kernel

/-- No header begins like a scalar or a small integer. -/
theorem range_of_claims {kind : Composite} {marker : UInt8}
    (own : kind.scheme.claims marker = true) :
    (0x80 ≤ marker.toNat ∧ marker.toNat < 0xC0) ∨ (0xCC ≤ marker.toNat ∧ marker.toNat < 0xE0) := by
  rw [← UInt8.ofNat_toNat (x := marker)] at own
  exact sized_below _ marker.toNat_lt _ (mem_all kind) own

/-- What is announced is read by the kind that the marker belongs to. -/
theorem announced?_of_claims {kind : Composite} {marker : UInt8}
    (own : kind.scheme.claims marker = true) (input : Bytes) (kinds : List Composite)
    (tried : kind ∈ kinds) :
    announced? marker input kinds =
      (kind.scheme.read? marker input).map fun found =>
        found.map fun (count, rest) => (kind, count, rest) := by
  induction kinds with
  | nil => simp at tried
  | cons first others ih =>
    by_cases same : first = kind
    · subst same
      have announces := read?_ne_none_of_claims own input
      unfold announced?
      split
      · next fault broken => rw [broken]; rfl
      · next count rest found => rw [found]; rfl
      · next none => exact absurd none announces
    · have foreign : first.scheme.claims marker = false :=
        Bool.eq_false_iff.2 fun claimed => same (eq_of_claims claimed own)
      have later : kind ∈ others := (List.mem_cons.1 tried).resolve_left (Ne.symm same)
      rw [announced?, read?_of_not_claims foreign]
      exact ih later

private theorem long_of_find? {kind : Composite} {count width : Nat} {marker : UInt8}
    {header : Bytes} {fits : UInt8 × Nat → Bool}
    (picked : kind.scheme.long.find? fits = some (marker, width))
    (means : fits (marker, width) = decide (count ≤ capacity width))
    (same : (.ok (marker :: Bytes.ofNat width count) : Except CodecFault Bytes) = .ok header) :
    ∃ marker width, (marker, width) ∈ kind.scheme.long ∧ count ≤ capacity width ∧
      header = marker :: Bytes.ofNat width count := by
  have wide : count ≤ capacity width := of_decide_eq_true (means ▸ List.find?_some picked)
  exact ⟨marker, width, List.mem_of_find?_eq_some picked, wide, (Except.ok.inj same).symm⟩

/-- How a header looks: a compact marker that holds the count, or a long marker
with the count behind it. -/
theorem cases_of_write {kind : Composite} {count : Nat} {header : Bytes}
    (written : kind.scheme.write count = .ok header) :
    (∃ base, kind.scheme.compact = some base ∧ count ≤ 15 ∧ header = [base + UInt8.ofNat count]) ∨
    (∃ marker width, (marker, width) ∈ kind.scheme.long ∧ count ≤ capacity width ∧
      header = marker :: Bytes.ofNat width count) := by
  unfold write at written
  simp only at written
  split at written
  · next base compact =>
    split at written
    · next small => exact .inl ⟨base, compact, small, (Except.ok.inj written).symm⟩
    · split at written
      · next picked => exact .inr (long_of_find? picked rfl written)
      · cases written
  · split at written
    · next picked => exact .inr (long_of_find? picked rfl written)
    · cases written

private theorem compactCount?_compact : ∀ kind ∈ all, ∀ base ∈ kind.compactBase?, ∀ count ≤ 15,
    kind.scheme.compactCount? (base + UInt8.ofNat count) = some count := by
  decide +kernel

private theorem marker_of_compactCount? : ∀ kind ∈ all, ∀ number < 256,
    ∀ count ∈ kind.scheme.compactCount? (UInt8.ofNat number), count ≤ 15 ∧
      ∃ base ∈ kind.compactBase?, UInt8.ofNat number = base + UInt8.ofNat count := by
  decide +kernel

private theorem marker_of_long : ∀ kind ∈ all, ∀ entry ∈ kind.scheme.long,
    kind.scheme.compactCount? entry.1 = none ∧ kind.scheme.longWidth? entry.1 = some entry.2 ∧
      kind.longMarker? entry.2 = some entry.1 := by
  decide +kernel

private theorem marker_of_longWidth? : ∀ kind ∈ all, ∀ number < 256,
    ∀ width ∈ kind.scheme.longWidth? (UInt8.ofNat number),
      kind.longMarker? width = some (UInt8.ofNat number) := by
  decide +kernel

/-- The marker of a width that is looked up is the one that the grammar has for it. -/
theorem longMarker?_of_longWidth? {kind : Composite} {width : Nat} {marker : UInt8}
    (wide : kind.scheme.longWidth? marker = some width) : kind.longMarker? width = some marker := by
  rw [← UInt8.ofNat_toNat (x := marker)] at wide ⊢
  exact marker_of_longWidth? kind (mem_all kind) marker.toNat marker.toNat_lt width wide

theorem long_of_longMarker? {kind : Composite} {width : Nat} {marker : UInt8}
    (own : kind.longMarker? width = some marker) : (marker, width) ∈ kind.scheme.long := by
  unfold longMarker? at own
  split at own <;> cases own <;> decide

private theorem lt_limit_of_capacity {count width : Nat} (fits : count ≤ capacity width) :
    count < Bytes.limit width := by
  have positive := Bytes.limit_pos width
  unfold capacity at fits
  omega

/-- What is written is a header of its kind. -/
theorem header_of_write {kind : Composite} {count : Nat} {header : Bytes}
    (written : kind.scheme.write count = .ok header) : kind.Header count header := by
  rcases cases_of_write written with
    ⟨base, compact, small, rfl⟩ | ⟨marker, width, long, fits, rfl⟩
  · have own : kind.compactBase? = some base := by cases kind <;> exact compact
    exact .compact own small
  · have own := (marker_of_long kind (mem_all kind) (marker, width) long).2.2
    have bounded : count ≤ 0x7FFFFFFF := by
      unfold capacity maxCount at fits
      omega
    exact .long own (lt_limit_of_capacity fits) bounded

/-- A header is of its own kind and its count is read whatever follows. -/
theorem Header.read?_eq {kind : Composite} {count : Nat} {header : Bytes}
    (announced : kind.Header count header) :
    ∃ marker tail, header = marker :: tail ∧ kind.scheme.claims marker = true ∧
      ∀ rest, kind.scheme.read? marker (tail ++ rest) = .ok (some (count, rest)) := by
  cases announced with
  | @compact base own small =>
    have found := compactCount?_compact kind (mem_all kind) base own count small
    refine ⟨_, [], rfl, ?_, ?_⟩
    · rw [claims, found]
      rfl
    · intro rest
      rw [read?, found]
      rfl
  | @long width marker own fits bounded =>
    obtain ⟨notCompact, found, -⟩ :=
      marker_of_long kind (mem_all kind) (marker, width) (long_of_longMarker? own)
    refine ⟨marker, _, rfl, ?_, ?_⟩
    · rw [claims, found, Option.isSome_some, Bool.or_true]
    · intro rest
      have number : Bytes.toNat (Bytes.ofNat width count) = count := Bytes.toNat_ofNat fits
      have within : ¬ maxCount < count := Nat.not_lt.2 bounded
      have taken := take_append (Bytes.ofNat width count) rest
      rw [Bytes.length_ofNat] at taken
      simp only [read?, notCompact, found, taken, number, if_neg within]

/-- A count is read only from a header of its kind. -/
theorem header_of_read? {kind : Composite} {marker : UInt8} {input rest : Bytes} {count : Nat}
    (found : kind.scheme.read? marker input = .ok (some (count, rest))) :
    ∃ tail, input = tail ++ rest ∧ kind.Header count (marker :: tail) := by
  have same := UInt8.ofNat_toNat (x := marker)
  unfold read? at found
  cases compact : kind.scheme.compactCount? marker with
  | some number =>
    rw [compact] at found
    cases found
    rw [← same] at compact
    obtain ⟨small, base, own, shape⟩ :=
      marker_of_compactCount? kind (mem_all kind) marker.toNat marker.toNat_lt count compact
    rw [same] at shape
    exact ⟨[], rfl, shape ▸ .compact own small⟩
  | none =>
    cases long : kind.scheme.longWidth? marker with
    | none =>
      rw [compact, long] at found
      cases found
    | some width =>
      rw [compact, long] at found
      simp only at found
      split at found
      · cases found
      · next raw behind taken =>
        split at found
        · cases found
        · next bounded =>
          cases found
          have own := longMarker?_of_longWidth? long
          obtain ⟨rfl, rfl⟩ := eq_append_of_take taken
          have header : kind.Header (Bytes.toNat raw)
              (marker :: Bytes.ofNat raw.length (Bytes.toNat raw)) :=
            .long own (Bytes.toNat_lt raw) (Nat.le_of_not_lt bounded)
          rw [Bytes.ofNat_toNat] at header
          exact ⟨raw, rfl, header⟩

/-- Behind a header stands what its kind and count announce. -/
theorem Header.announced?_eq {kind : Composite} {count : Nat} {header : Bytes}
    (announced : kind.Header count header) :
    ∃ marker tail, header = marker :: tail ∧ kind.scheme.claims marker = true ∧
      ∀ rest, announced? marker (tail ++ rest) all = .ok (some (kind, count, rest)) := by
  obtain ⟨marker, tail, shape, own, found⟩ := announced.read?_eq
  refine ⟨marker, tail, shape, own, ?_⟩
  intro rest
  rw [announced?_of_claims own _ _ (mem_all kind), found rest]
  rfl

/-- What is announced stands behind a header of its kind. -/
theorem header_of_announced? {marker : UInt8} {input rest : Bytes} {kinds : List Composite}
    {kind : Composite} {count : Nat}
    (found : announced? marker input kinds = .ok (some (kind, count, rest))) :
    ∃ tail, input = tail ++ rest ∧ kind.Header count (marker :: tail) := by
  induction kinds with
  | nil => cases found
  | cons first others ih =>
    unfold announced? at found
    split at found
    · cases found
    · next own =>
      cases found
      exact header_of_read? own
    · exact ih found

end Composite
end BoltClient
