import ScreenScript.Expression
import ScreenScript.Notice
import ScreenScript.Router

/-! # Component renderers

A registry says which renderer draws the components of each type. A renderer turns the
properties of a component into a face: what the component shows, and what it does when it is
used. Types without a renderer show nothing.

Four renderers are there from the start. A host may put in others of its own, which see what
those see: the properties of the component, the data, and the router if one is given. They are any
functions of that; they change nothing, and what they draw has no rows.
-/

namespace ScreenScript

/-- What one component shows: its type, its properties, the path of the data that its text is
bound to, and the node of its action, `null` when it has none. A face that is not attached gives no
access to the scope that it was drawn in. -/
structure Face where
  type : String
  props : Fields
  bind : Option String
  action : Value
  attached : Bool
deriving Inhabited, Repr

/-- A renderer. -/
inductive Renderer where
  | text
  | input
  | button
  /-- Shows its components once for each row of its items. -/
  | list
  | host (draw : (read : String → Option Value) → Option Router → (props : Fields) → Option Face)
deriving Inhabited

/-- The renderers by the types that they draw. -/
abbrev Registry := List (String × Renderer)

/-- The renderers that every host has unless it chooses otherwise. -/
def Registry.standard : Registry :=
  [("text", .text), ("input", .input), ("button", .button), ("list", .list)]

/-- The types that have a renderer, in the order of their code points. -/
def Registry.types (registry : Registry) : List String :=
  (Keyed.keys registry).mergeSort (· ≤ ·)

namespace Face

def plain (type : String) (props : Fields) : Face :=
  ⟨type, props, none, .null, true⟩

def style (props : Fields) : String × Value :=
  ("style", props.getOrNull "style")

def row (fields : Fields) : Face :=
  plain "row" fields

/-- The path that the text of a face is read from and written to. A face that is not attached
reaches no data, whatever its binding says. -/
def bound? (face : Face) : Option String :=
  if face.attached then face.bind else none

def draw? (read : String → Option Value) (router : Option Router) (props : Fields) :
    Renderer → Option Face
  | .text =>
    let shown := ((Keyed.get? props "value").bind (Expression.eval? read)).elim "" Value.asText
    some (plain "text" [("value", .text shown), style props])
  | .input =>
    some ⟨"input", [("placeholder", .text (props.textOr "placeholder" "")), style props],
      some (props.textOr "bind" ""), .null, true⟩
  | .button =>
    some ⟨"button", [("label", .text (props.textOr "label" "Button")), style props], none,
      props.getOrNull "onTap", true⟩
  | .list => some (plain "list" [style props])
  | .host draw => draw read router props

end Face

end ScreenScript
