import BoltClient.Value.Entries
import BoltClient.Number.Layout

/-!
JSON documents and their compact text. The entries of an object are kept as
they were read, duplicates included; the text writes keys in ascending order.
-/

namespace BoltClient

inductive Json where
  | null
  | boolean (value : Bool)
  | integer (value : Int)
  | float (number : Double)
  | string (text : String)
  | array (items : List Json)
  | object (entries : List (String × Json))
  deriving Inhabited

namespace Json

/-- Quote, backslash and controls are escaped, five controls by a letter. -/
def escape (c : Char) : List Char :=
  match c with
  | '"' => ['\\', '"']
  | '\\' => ['\\', '\\']
  | '\x08' => ['\\', 'b']
  | '\t' => ['\\', 't']
  | '\n' => ['\\', 'n']
  | '\x0c' => ['\\', 'f']
  | '\r' => ['\\', 'r']
  | _ =>
    if c.toNat < 0x20 then
      ['\\', 'u', '0', '0', Nat.digitChar (c.toNat / 16), Nat.digitChar (c.toNat % 16)]
    else [c]

def quote (text : String) : String :=
  String.ofList ('"' :: (text.toList.flatMap escape ++ ['"']))

mutual

/-- Compact text; a number without finite value is written as null. -/
def text : Json → String
  | null => "null"
  | boolean value => toString value
  | integer value => toString value
  | float number => if number.isFinite then DecimalLayout.scientific.text number else "null"
  | string content => quote content
  | array items => "[" ++ ",".intercalate (textsOfItems items) ++ "]"
  | object entries =>
    let written := Entries.sorted (textsOfEntries entries)
    "\x7b" ++ ",".intercalate (written.map fun (key, item) => quote key ++ ":" ++ item) ++ "\x7d"
termination_by structural json => json

def textsOfItems : List Json → List String
  | [] => []
  | item :: rest => item.text :: textsOfItems rest
termination_by structural items => items

def textsOfEntries : List (String × Json) → List (String × String)
  | [] => []
  | (key, item) :: rest => (key, item.text) :: textsOfEntries rest
termination_by structural entries => entries

end

end Json
end BoltClient
