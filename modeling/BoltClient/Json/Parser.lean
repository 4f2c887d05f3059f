import BoltClient.Json.Numeral

/-!
Reading JSON text. Arrays and objects may be nested 127 deep: the number of
levels still allowed shrinks at each bracket, and the number of characters
bounds the length of every sequence. Any departure from the grammar, a number
without finite value and a lone surrogate make the whole text unreadable.
-/

namespace BoltClient.Json

namespace Parser

def isBlank (c : Char) : Bool := c == ' ' || c == '\n' || c == '\t' || c == '\r'

def skipBlanks (input : List Char) : List Char := input.dropWhile isBlank

def digitValue (c : Char) : Nat := c.toNat - '0'.toNat

def hexValue? (c : Char) : Option Nat :=
  if c.isDigit then some (digitValue c)
  else if 'a' ≤ c ∧ c ≤ 'f' then some (c.toNat - 'a'.toNat + 10)
  else if 'A' ≤ c ∧ c ≤ 'F' then some (c.toNat - 'A'.toNat + 10)
  else none

/-- Four hexadecimal digits. -/
def codeUnit : List Char → Option (Nat × List Char)
  | a :: b :: c :: d :: rest => do
    let digits ← [a, b, c, d].mapM hexValue?
    return (digits.foldl (fun number digit => number * 16 + digit) 0, rest)
  | _ => none

/-- The character after a backslash and a `u`; a high surrogate needs a low one
in a second escape. -/
def unicodeEscape (input : List Char) : Option (Char × List Char) := do
  let (unit, rest) ← codeUnit input
  if 0xDC00 ≤ unit ∧ unit ≤ 0xDFFF then none
  else if 0xD800 ≤ unit ∧ unit ≤ 0xDBFF then
    match rest with
    | '\\' :: 'u' :: rest =>
      let (low, rest) ← codeUnit rest
      if 0xDC00 ≤ low ∧ low ≤ 0xDFFF then
        return (Char.ofNat (0x10000 + (unit - 0xD800) * 0x400 + (low - 0xDC00)), rest)
      else none
    | _ => none
  else return (Char.ofNat unit, rest)

def simpleEscape? : Char → Option Char
  | '"' => some '"'
  | '\\' => some '\\'
  | '/' => some '/'
  | 'b' => some '\x08'
  | 'f' => some '\x0c'
  | 'n' => some '\n'
  | 'r' => some '\r'
  | 't' => some '\t'
  | _ => none

/-- The characters of a string after its opening quote. -/
def stringBody : (fuel : Nat) → List Char → Option ((List Char) × List Char)
  | 0, _ => none
  | _ + 1, [] => none
  | _ + 1, '"' :: rest => some ([], rest)
  | fuel + 1, '\\' :: 'u' :: rest => do
    let (c, rest) ← unicodeEscape rest
    let (others, rest) ← stringBody fuel rest
    return (c :: others, rest)
  | fuel + 1, '\\' :: escaped :: rest => do
    let c ← simpleEscape? escaped
    let (others, rest) ← stringBody fuel rest
    return (c :: others, rest)
  | fuel + 1, c :: rest =>
    if c == '\\' || c.toNat < 0x20 then none
    else do
      let (others, rest) ← stringBody fuel rest
      return (c :: others, rest)

def string (input : List Char) : Option (String × List Char) := do
  let (content, rest) ← stringBody (input.length + 1) input
  return (String.ofList content, rest)

/-- The digits at the front, as numbers. -/
def digits (input : List Char) : List Nat × List Char :=
  ((input.takeWhile Char.isDigit).map digitValue, input.dropWhile Char.isDigit)

def someDigits (input : List Char) : Option ((List Nat) × List Char) :=
  match digits input with
  | ([], _) => none
  | found => some found

/-- A numeral without superfluous leading zeros. -/
def numeral (input : List Char) : Option (Json × List Char) := do
  let (negative, input) := match input with
    | '-' :: rest => (true, rest)
    | _ => (false, input)
  let (whole, rest) ← someDigits input
  if whole.head? = some 0 ∧ whole.length ≠ 1 then none
  else
    let (fraction, rest) ← match rest with
      | '.' :: rest => (someDigits rest).map fun (found, rest) => (some found, rest)
      | _ => some (none, rest)
    let (exponent, rest) ← match rest with
      | mark :: behind =>
        if mark == 'e' || mark == 'E' then
          let (down, unsigned) := match behind with
            | '-' :: unsigned => (true, unsigned)
            | '+' :: unsigned => (false, unsigned)
            | _ => (false, behind)
          (someDigits unsigned).map fun (found, rest) => (some (down, found), rest)
        else some (none, rest)
      | [] => some (none, rest)
    let json ← (Numeral.mk negative whole fraction exponent).toJson?
    return (json, rest)

/-- Items separated by commas up to the closing character, at least one. -/
def sequence {α : Type} (item : List Char → Option (α × List Char)) (close : Char) :
    (fuel : Nat) → List Char → Option ((List α) × List Char)
  | 0, _ => none
  | fuel + 1, input => do
    let (first, rest) ← item (skipBlanks input)
    match skipBlanks rest with
    | ',' :: rest =>
      let (others, rest) ← sequence item close fuel rest
      return (first :: others, rest)
    | c :: rest => if c == close then return ([first], rest) else none
    | [] => none

/-- The inside of a bracket pair, which may be empty. -/
def bracketed {α : Type} (item : List Char → Option (α × List Char)) (close : Char) (input : List Char) :
    Option ((List α) × List Char) :=
  match skipBlanks input with
  | c :: rest => if c == close then some ([], rest) else sequence item close input.length input
  | [] => none

def entry (value : List Char → Option (Json × List Char)) (input : List Char) : Option ((String × Json) × List Char) :=
  match input with
  | '"' :: rest => do
    let (key, rest) ← string rest
    match skipBlanks rest with
    | ':' :: rest =>
      let (item, rest) ← value (skipBlanks rest)
      return ((key, item), rest)
    | _ => none
  | _ => none

/-- One value without blanks before it, with fewer than `levels` levels of brackets. -/
def value : (levels : Nat) → List Char → Option (Json × List Char)
  | 0, _ => none
  | levels + 1, input =>
    match input with
    | 'n' :: 'u' :: 'l' :: 'l' :: rest => some (.null, rest)
    | 't' :: 'r' :: 'u' :: 'e' :: rest => some (.boolean true, rest)
    | 'f' :: 'a' :: 'l' :: 's' :: 'e' :: rest => some (.boolean false, rest)
    | '"' :: rest => (string rest).map fun (text, rest) => (.string text, rest)
    | '[' :: rest =>
      if levels = 0 then none
      else (bracketed (value levels) ']' rest).map fun (items, rest) => (.array items, rest)
    | '\x7b' :: rest =>
      if levels = 0 then none
      else (bracketed (entry (value levels)) '\x7d' rest).map fun (entries, rest) =>
        (.object entries, rest)
    | _ => numeral input

end Parser

/-- Reads a text that holds one document and nothing else but blanks. -/
def parse? (text : String) : Option Json := do
  let (json, rest) ← Parser.value 128 (Parser.skipBlanks text.toList)
  match Parser.skipBlanks rest with
  | [] => return json
  | _ => none

end BoltClient.Json
