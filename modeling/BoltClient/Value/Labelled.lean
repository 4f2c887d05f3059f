import BoltClient.Value.Basic

/-!
Labelled text, for those who look for a cause: every part of a value stands under the name of
what it is, and nothing is left out. Entries come in the order in which they are.
-/

namespace BoltClient

namespace Labelled

def part (label content : String) : String := label ++ "(" ++ content ++ ")"

def option : Option String → String
  | none => "None"
  | some content => part "Some" content

def named (label : String) (fields : List (String × String)) : String :=
  let contents := fields.map fun (name, content) => name ++ ": " ++ content
  label ++ " \x7b " ++ ", ".intercalate contents ++ " \x7d"

def sequence (contents : List String) : String := "[" ++ ", ".intercalate contents ++ "]"

def entries (own : List (String × String)) : String :=
  let contents := own.map fun (key, content) => Quoted.quote key ++ ": " ++ content
  "\x7b" ++ ", ".intercalate contents ++ "\x7d"

end Labelled

namespace Value

open Labelled

mutual

def labelled : Value → String
  | null => "Null"
  | boolean value => part "Boolean" (toString value)
  | integer value => part "Integer" (toString value.toInt)
  | float number => part "Float" (DecimalLayout.labelled.text number)
  | bytes content => part "Bytes" (sequence (content.map fun byte => toString byte.toNat))
  | string text => part "String" (Quoted.quote text)
  | list items => part "List" (sequence (labelledItems items))
  | map own => part "Map" (entries (labelledEntries own))
  | struct signature fields =>
    part "Structure" (named "Structure"
      [("signature", toString signature.toNat), ("fields", sequence (labelledItems fields))])
termination_by structural value => value

def labelledItems : List Value → List String
  | [] => []
  | item :: rest => labelled item :: labelledItems rest
termination_by structural items => items

def labelledEntries : List (String × Value) → List (String × String)
  | [] => []
  | (key, item) :: rest => (key, labelled item) :: labelledEntries rest
termination_by structural entries => entries

end

end Value
end BoltClient
