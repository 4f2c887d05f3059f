import BoltClient.Bytes

/-!
UTF-8. Writing a character is arithmetic on its code point; reading is a
machine that takes one byte at a time and knows, inside a character, which
range the next byte must fall into. A fault tells where the broken character
begins and how many of its bytes were acceptable before the break.
-/

namespace BoltClient.Utf8

/-- Where text stops being UTF-8: `width` bytes from `index` on form no
character, or, without a width, the text ends inside a character. -/
structure Fault where
  index : Nat
  width : Option Nat
  deriving DecidableEq, Repr

def Fault.message (fault : Fault) : String :=
  match fault.width with
  | some width => s!"invalid utf-8 sequence of {width} bytes from index {fault.index}"
  | none => s!"incomplete utf-8 byte sequence from index {fault.index}"

def following (code : Nat) : UInt8 := UInt8.ofNat (0x80 + code % 0x40)

def encodeChar (c : Char) : Bytes :=
  let code := c.toNat
  if code < 0x80 then [UInt8.ofNat code]
  else if code < 0x800 then [UInt8.ofNat (0xC0 + code / 0x40), following code]
  else if code < 0x10000 then
    [UInt8.ofNat (0xE0 + code / 0x1000), following (code / 0x40), following code]
  else
    [UInt8.ofNat (0xF0 + code / 0x40000), following (code / 0x1000), following (code / 0x40),
      following code]

def encode (text : String) : Bytes := text.toList.flatMap encodeChar

/-- An unfinished character: the bits read, the bytes seen and still missing,
and the range of the next byte. -/
structure Partial where
  code : Nat
  seen : Nat
  missing : Nat
  low : UInt8
  high : UInt8
  deriving DecidableEq, Repr

/-- What a character's first byte announces; overlong forms, surrogates and
code points past U+10FFFF are excluded by the range of the second byte. -/
def Partial.ofLead (lead : UInt8) : Option Partial :=
  if 0xC2 ≤ lead ∧ lead ≤ 0xDF then some ⟨lead.toNat - 0xC0, 1, 1, 0x80, 0xBF⟩
  else if 0xE0 ≤ lead ∧ lead ≤ 0xEF then
    some ⟨lead.toNat - 0xE0, 1, 2, if lead = 0xE0 then 0xA0 else 0x80,
      if lead = 0xED then 0x9F else 0xBF⟩
  else if 0xF0 ≤ lead ∧ lead ≤ 0xF4 then
    some ⟨lead.toNat - 0xF0, 1, 3, if lead = 0xF0 then 0x90 else 0x80,
      if lead = 0xF4 then 0x8F else 0xBF⟩
  else none

/-- Reads bytes from the character that begins at `index`, `unfinished` when
some of its bytes are already taken. -/
def decodeFrom (index : Nat) (unfinished : Option Partial) : Bytes → Except Fault (List Char)
  | [] => match unfinished with
    | none => .ok []
    | some _ => .error ⟨index, none⟩
  | byte :: rest => match unfinished with
    | none =>
      if byte < 0x80 then
        (decodeFrom (index + 1) none rest).map (Char.ofNat byte.toNat :: ·)
      else match Partial.ofLead byte with
        | some started => decodeFrom index (some started) rest
        | none => .error ⟨index, some 1⟩
    | some begun =>
      if begun.low ≤ byte ∧ byte ≤ begun.high then
        let code := begun.code * 0x40 + byte.toNat % 0x40
        if begun.missing ≤ 1 then
          (decodeFrom (index + begun.seen + 1) none rest).map (Char.ofNat code :: ·)
        else decodeFrom index (some ⟨code, begun.seen + 1, begun.missing - 1, 0x80, 0xBF⟩) rest
      else .error ⟨index, some begun.seen⟩

def decode (bytes : Bytes) : Except Fault String := (decodeFrom 0 none bytes).map String.ofList

end BoltClient.Utf8
