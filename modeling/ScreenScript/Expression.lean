import ScreenScript.Path
import ScreenScript.Template

/-! # Expressions

Any value is an expression. A text is a template, a mapping with a text under `var` is the value
under that path, and a mapping with a list under `concat` is the concatenation of its evaluated
parts. Every other mapping or list is evaluated element by element, where elements that yield
nothing are left out; all else evaluates to itself. Evaluation reads the data through `read`
alone, so it depends on nothing but what `read` answers, and it changes nothing.
-/

namespace ScreenScript.Expression

mutual

/-- The value of an expression, and nothing when it names absent data. -/
def eval? (read : String → Option Value) : Value → Option Value
  | .text content => some (.text (Template.render read content))
  | .mapping fields =>
    match Fields.text? fields "var" with
    | some path => read path
    | none =>
      match parts? read fields with
      | some parts => some (.text (String.join parts))
      | none => some (.mapping (evalFields read fields))
  | .list items => some (.list (evalItems read items))
  | other => some other

/-- The values of the items of a list, without those that yield nothing. -/
def evalItems (read : String → Option Value) : List Value → List Value
  | [] => []
  | item :: rest =>
    match eval? read item with
    | some value => value :: evalItems read rest
    | none => evalItems read rest

/-- The values of the entries of a mapping, without those that yield nothing. -/
def evalFields (read : String → Option Value) : List (String × Value) → Fields
  | [] => []
  | (key, node) :: rest =>
    match eval? read node with
    | some value => (key, value) :: evalFields read rest
    | none => evalFields read rest

/-- The texts of the parts to concatenate, when the entry under `concat` is a list. -/
def parts? (read : String → Option Value) : List (String × Value) → Option (List String)
  | [] => none
  | (key, node) :: rest => if key = "concat" then partsIn? read node else parts? read rest

def partsIn? (read : String → Option Value) : Value → Option (List String)
  | .list parts => some (evalTexts read parts)
  | _ => none

/-- Each part as text: what is no text, or yields nothing, is empty. -/
def evalTexts (read : String → Option Value) : List Value → List String
  | [] => []
  | part :: rest => (eval? read part).elim "" Value.asText :: evalTexts read rest

end

/-- The parts to concatenate are those of the list under `concat`. -/
theorem parts?_eq (read : String → Option Value) (fields : Fields) :
    parts? read fields =
      ((Keyed.get? fields "concat").bind Value.list?).map (evalTexts read) := by
  induction fields with
  | nil => rfl
  | cons entry rest ih =>
    by_cases found : entry.1 = "concat"
    · rw [parts?, if_pos found, Keyed.get?, if_pos found]
      cases entry.2 <;> rfl
    · rw [parts?, if_neg found, Keyed.get?, if_neg found, ih]

theorem evalItems_eq_filterMap (read : String → Option Value) (items : List Value) :
    evalItems read items = items.filterMap (eval? read) := by
  induction items with
  | nil => rfl
  | cons item rest ih => cases value : eval? read item <;> simp [evalItems, value, ih]

theorem evalFields_eq_filterMap (read : String → Option Value) (fields : Fields) :
    evalFields read fields =
      fields.filterMap fun entry => (eval? read entry.2).map (entry.1, ·) := by
  induction fields with
  | nil => rfl
  | cons entry rest ih =>
    cases value : eval? read entry.2 <;> simp [evalFields, value, ih]

theorem evalTexts_eq_map (read : String → Option Value) (parts : List Value) :
    evalTexts read parts = parts.map fun part => (eval? read part).elim "" Value.asText := by
  induction parts with
  | nil => rfl
  | cons part rest ih => simp [evalTexts, ih]

theorem parts?_eq_bind (read : String → Option Value) (fields : Fields) :
    parts? read fields = (Keyed.get? fields "concat").bind (partsIn? read) := by
  rw [parts?_eq]
  cases Keyed.get? fields "concat" with
  | none => rfl
  | some node => cases node <;> rfl

/-- The value of an expression, `null` when it names absent data. -/
def evaluate (read : String → Option Value) (node : Value) : Value :=
  (eval? read node).getD .null

/-- Reading from a root mapping by the text of a path. -/
def reader (data : Fields) (path : String) : Option Value :=
  data.at? (Path.ofText path)

end ScreenScript.Expression
