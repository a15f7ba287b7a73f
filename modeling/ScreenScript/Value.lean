import ScreenScript.Keyed
import ScreenScript.Number.Binary64

/-! # Dynamic values

The values that flow through screen documents and the data behind them: what a JSON text can
say, with integers of any size kept apart from floating-point numbers. Mappings keep the order
of their keys, which `Keyed` governs.
-/

namespace ScreenScript

inductive Value where
  | null
  | bool (truth : Bool)
  | int (number : Int)
  | float (number : Binary64)
  | text (content : String)
  | list (items : List Value)
  | mapping (fields : List (String × Value))
deriving Inhabited, Repr

abbrev Fields := List (String × Value)

namespace Value

/-- The name by which messages speak of a value's type. -/
def typeName : Value → String
  | .null => "NoneType"
  | .bool _ => "bool"
  | .int _ => "int"
  | .float _ => "float"
  | .text _ => "str"
  | .list _ => "list"
  | .mapping _ => "dict"

def text? : Value → Option String
  | .text content => some content
  | _ => none

def list? : Value → Option (List Value)
  | .list items => some items
  | _ => none

def mapping? : Value → Option Fields
  | .mapping fields => some fields
  | _ => none

/-- A value as interpolated text: a text is itself and every other value is empty. -/
def asText (value : Value) : String :=
  value.text?.getD ""

/-- A text, or the value that stands for the absence of one. -/
def ofText? : Option String → Value
  | some content => .text content
  | none => .null

end Value

namespace Fields

/-- The value under a key, `null` when there is none. -/
def getOrNull (fields : Fields) (key : String) : Value :=
  (Keyed.get? fields key).getD .null

def text? (fields : Fields) (key : String) : Option String :=
  (Keyed.get? fields key).bind Value.text?

/-- The text under a key, or `default` when no text is there. -/
def textOr (fields : Fields) (key default : String) : String :=
  (fields.text? key).getD default

end Fields

end ScreenScript
