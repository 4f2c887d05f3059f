import BoltClient.Value.Basic

/-!
The text of a value for readers: quoted strings, bare keys in ascending order,
byte strings by their length alone.
-/

namespace BoltClient.Value

mutual

def textUnsorted : Value → String
  | null => "null"
  | boolean value => toString value
  | integer value => toString value.toInt
  | float number => DecimalLayout.plain.text number
  | bytes content => s!"<{content.length} bytes>"
  | string text => Quoted.quote text
  | list items => "[" ++ ", ".intercalate (textsOfItems items) ++ "]"
  | map entries => "\x7b" ++ ", ".intercalate (textsOfEntries entries) ++ "\x7d"
  | struct signature fields =>
    "Structure(" ++ CodecFault.hexByte signature ++ ", [" ++
      ", ".intercalate (textsOfItems fields) ++ "])"
termination_by structural value => value

def textsOfItems : List Value → List String
  | [] => []
  | item :: rest => textUnsorted item :: textsOfItems rest
termination_by structural items => items

def textsOfEntries : List (String × Value) → List String
  | [] => []
  | (key, item) :: rest => (key ++ ": " ++ textUnsorted item) :: textsOfEntries rest
termination_by structural entries => entries

end

def text (value : Value) : String := textUnsorted value.sorted

end BoltClient.Value
