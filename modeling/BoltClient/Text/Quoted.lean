import BoltClient.Text.Printable

/-!
Quoted text. A quote and a backslash are escaped, five controls have short
forms, and every other character that would not show is written as its code
point in hexadecimal between braces.
-/

namespace BoltClient.Quoted

/-- The digits of `code` in base sixteen, lower case, without leading zeros. -/
def hexDigits (code : Nat) : List Char := Nat.toDigits 16 code

def escape (c : Char) : List Char :=
  match c with
  | '\x00' => ['\\', '0']
  | '\t' => ['\\', 't']
  | '\n' => ['\\', 'n']
  | '\r' => ['\\', 'r']
  | '"' => ['\\', '"']
  | '\\' => ['\\', '\\']
  | _ =>
    if Printable.isPrintable c then [c]
    else ['\\', 'u', '\x7b'] ++ hexDigits c.toNat ++ ['\x7d']

def quote (text : String) : String :=
  String.ofList ('"' :: (text.toList.flatMap escape ++ ['"']))

/-- A list of texts, each quoted, between brackets. -/
def quoteList (texts : List String) : String :=
  "[" ++ ", ".intercalate (texts.map quote) ++ "]"

end BoltClient.Quoted
