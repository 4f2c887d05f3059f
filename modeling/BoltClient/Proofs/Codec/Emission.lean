import BoltClient.Codec.Pack

/-!
A writer that was not stopped has put out the bytes of its parts, one after the
other. The lemmas take a whole emission apart into those of its parts, so that
what is said of packed values follows their structure.
-/

namespace BoltClient

namespace Emission

theorem result_eq_ok {emission : Emission} {bytes : Bytes} :
    emission.result = .ok bytes ↔ emission = of bytes := by
  obtain ⟨written, fault⟩ := emission
  cases fault <;> simp [result, of]

theorem ofHeader_eq_of {header : Except CodecFault Bytes} {bytes : Bytes} :
    ofHeader header = of bytes ↔ header = .ok bytes := by
  cases header <;> simp [ofHeader, of]

/-- Both writers ran to their ends. -/
theorem andThen_eq_of {first : Emission} {second : Unit → Emission} {bytes : Bytes} :
    first.andThen second = of bytes ↔
      ∃ front back, first = of front ∧ second () = of back ∧ bytes = front ++ back := by
  obtain ⟨written, fault⟩ := first
  cases fault with
  | some fault => simp [andThen, of]
  | none =>
    constructor
    · intro whole
      simp only [andThen, of, mk.injEq] at whole
      refine ⟨written, (second ()).bytes, rfl, ?_, whole.1.symm⟩
      rw [of, ← whole.2]
    · rintro ⟨front, back, same, rest, rfl⟩
      simp only [of, mk.injEq, and_true] at same
      simp [andThen, rest, same, of]

end Emission

namespace Value

theorem encode_eq_ok {value : Value} {bytes : Bytes} :
    value.encode = .ok bytes ↔ value.emit = .of bytes := Emission.result_eq_ok

/-- A sized value is its header and its content. -/
theorem emitSized_eq_of {kind : Composite} {count : Nat} {content : Unit → Emission}
    {bytes : Bytes} :
    emitSized kind count content = .of bytes ↔
      ∃ header body, kind.scheme.write count = .ok header ∧ content () = .of body ∧
        bytes = header ++ body := by
  rw [emitSized, Emission.andThen_eq_of]
  simp only [Emission.ofHeader_eq_of]

theorem emitText_eq_of {text : String} {bytes : Bytes} :
    emitText text = .of bytes ↔
      ∃ header, Composite.string.scheme.write (Utf8.encode text).length = .ok header ∧
        bytes = header ++ Utf8.encode text := by
  rw [emitText, emitSized_eq_of]
  constructor
  · rintro ⟨header, body, written, content, rfl⟩
    cases content
    exact ⟨header, written, rfl⟩
  · rintro ⟨header, written, rfl⟩
    exact ⟨header, _, written, rfl, rfl⟩

/-- The header of a structure is that of its kind, then the signature. -/
theorem structHeader_eq_ok {signature : UInt8} {count : Nat} {bytes : Bytes} :
    structHeader signature count = .ok bytes ↔
      ∃ header, Composite.struct.scheme.write count = .ok header ∧
        bytes = header ++ [signature] := by
  unfold structHeader
  cases Composite.struct.scheme.write count with
  | ok header => simp [eq_comm]
  | error fault => simp

end Value
end BoltClient
