import ScreenScript.Schema.Issue

/-! # Checked values

`Checked α` is what a check returns: a valid result, or all the issues that were found, in the
order of the parts they were found in. Checks of several parts combine as an applicative, which
goes on after a failure so that no issue hides another.
-/

namespace ScreenScript

/-- The result of a check. -/
inductive Checked (α : Type) where
  | valid (value : α)
  | invalid (issues : List Issue)
deriving DecidableEq, Inhabited, Repr

namespace Checked

variable {α β : Type}

def issues : Checked α → List Issue
  | .valid _ => []
  | .invalid issues => issues

/-- The result of a check whose value is processed further. -/
def map (f : α → β) : Checked α → Checked β
  | .valid value => .valid (f value)
  | .invalid issues => .invalid issues

/-- The results of two checks joined. -/
def ap : Checked (α → β) → Checked α → Checked β
  | .valid f, checked => checked.map f
  -- The second check is made all the same, so that no issue hides another.
  | .invalid first, checked => .invalid (first ++ checked.issues)

instance : Applicative Checked where
  pure := .valid
  map := map
  seq f checked := ap f (checked ())

/-- The failure with one issue, at the place of the value itself. -/
def fail (cause : Cause) : Checked α :=
  .invalid [⟨[], cause⟩]

/-- The result for a part, with its issues placed in the whole. -/
def under (step : Place) : Checked α → Checked α
  | .valid value => .valid value
  | .invalid issues => .invalid (issues.map (Issue.under step))

@[simp]
theorem issues_valid (value : α) : (valid value).issues = [] := rfl

@[simp]
theorem issues_invalid (found : List Issue) : (invalid (α := α) found).issues = found := rfl

theorem issues_ap (f : Checked (α → β)) (checked : Checked α) :
    (f.ap checked).issues = f.issues ++ checked.issues := by
  cases f <;> cases checked <;> simp [ap, map, issues]

end Checked

namespace Check

variable {α : Type}

def text : Value → Checked String
  | .text content => .valid content
  | _ => .fail .notText

def mapping : Value → Checked Fields
  | .mapping fields => .valid fields
  | _ => .fail .notMapping

/-- Checks the items of a list in order; the first one stands at `position`. -/
def items (item : Value → Checked α) : (position : Nat) → List Value → Checked (List α)
  | _, [] => .valid []
  | position, value :: rest =>
    ((item value).under (.index position) |>.map List.cons).ap (items item (position + 1) rest)

/-- Accepts a list whose items are accepted. -/
def listOf (item : Value → Checked α) : Value → Checked (List α)
  | .list values => items item 0 values
  | _ => .fail .notList

/-- Accepts a mapping whose entries make up a model. -/
def model (entries : Fields → Checked α) : Value → Checked α
  | .mapping fields => entries fields
  | _ => .fail .notModel

/-- Accepts `null` as the absence of a value. -/
def nullable (check : Value → Checked α) : Value → Checked (Option α)
  | .null => .valid none
  | value => (check value).map some

/-- Checks the entry under a key, which must be there. -/
def required (fields : Fields) (key : String) (check : Value → Checked α) : Checked α :=
  match Keyed.get? fields key with
  | some value => (check value).under (.key key)
  | none => .invalid [⟨[.key key], .missing⟩]

/-- Checks the entry under the first of the keys that is there; without any, the field has its
default. -/
def optional (fields : Fields) (default : α) (check : Value → Checked α) :
    List String → Checked α
  | [] => .valid default
  | key :: others =>
    match Keyed.get? fields key with
    | some value => (check value).under (.key key)
    | none => optional fields default check others

/-- Refuses every entry whose key is not one of those given. -/
def only (known : List String) (fields : Fields) : Checked Unit :=
  match (Keyed.keys fields).filter (fun key => !known.contains key) with
  | [] => .valid ()
  | extra => .invalid (extra.map fun key => ⟨[.key key], .extraEntry⟩)

end Check

end ScreenScript
