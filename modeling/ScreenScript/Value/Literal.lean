import ScreenScript.Number.Shortest
import ScreenScript.Text.Quoted
import ScreenScript.Value

/-! # Values written as literals

Messages show values as literals: texts quoted, lists in brackets, mappings in braces, with the
constants `None`, `True` and `False`.
-/

namespace ScreenScript.Value

mutual

def literal : Value → String
  | .null => "None"
  | .bool truth => if truth then "True" else "False"
  | .int number => toString number
  | .float number => number.text "inf" "nan"
  | .text content => Text.quoted content
  | .list items => "[" ++ ", ".intercalate (itemLiterals items) ++ "]"
  | .mapping fields => "\x7b" ++ ", ".intercalate (fieldLiterals fields) ++ "\x7d"

def itemLiterals : List Value → List String
  | [] => []
  | item :: rest => item.literal :: itemLiterals rest

/-- The entries of a mapping, each as its key and its value. -/
def fieldLiterals : List (String × Value) → List String
  | [] => []
  | (key, value) :: rest => (Text.quoted key ++ ": " ++ value.literal) :: fieldLiterals rest

end

/-- The literal of what an expression yields, which may be nothing. -/
def literal? : Option Value → String
  | some value => value.literal
  | none => "MISSING"

end ScreenScript.Value
