import ScreenScript.Action
import ScreenScript.Schema.Checked

/-! # Checking actions that are written by their kinds

`Action.toValue` writes an action by its kind, and `Action.check` accepts what is written so.
The places of its issues name the kind of the action they lie in before the entry.
-/

namespace ScreenScript.Action

def checkAssignment (make : String → Value → Instruction) (fields : Fields) :
    Checked Action :=
  (fun path value => .single (make path value)) <$> Check.required fields "var" Check.text
    <*> Check.optional fields .null .valid ["value"]

def checkCommand (fields : Fields) : Checked Action :=
  (fun name params => .single (.command name params)) <$> Check.required fields "name" Check.text
    <*> Check.optional fields [] Check.mapping ["params"]

/-- Checks the entries of an instruction that was not recognized. -/
def checkUnrecognized (fields : Fields) : Checked Action :=
  (fun reason node => .single (.unrecognized reason node))
    <$> Check.required fields "reason" Check.text
    <*> Check.optional fields .null .valid ["node"]

mutual

/-- Checks an action. -/
def check : Value → Checked Action
  | .mapping fields =>
    match Keyed.get? fields "kind" with
    | none => .fail .noTag
    | some (.text "append") => (checkAssignment .append fields).under (.key "append")
    | some (.text "sequence") => ((checkSteps fields).map .sequence).under (.key "sequence")
    | some (.text "set") => (checkAssignment .set fields).under (.key "set")
    | some (.text "command") => (checkCommand fields).under (.key "command")
    | some (.text "unrecognized") => (checkUnrecognized fields).under (.key "unrecognized")
    | some _ => .fail .unknownTag
  | _ => .fail .notTagged

/-- Checks the steps of a sequence, of which there are none by default. -/
def checkSteps : List (String × Value) → Checked (List Action)
  | [] => .valid []
  | (key, value) :: rest =>
    if key = "steps" then (checkList value).under (.key "steps") else checkSteps rest

def checkList : Value → Checked (List Action)
  | .list steps => checkItems 0 steps
  | _ => .fail .notList

/-- Checks actions one after another; the first one stands at `position`. -/
def checkItems (position : Nat) : List Value → Checked (List Action)
  | [] => .valid []
  | step :: rest =>
    (((check step).under (.index position)).map List.cons).ap (checkItems (position + 1) rest)

end

end ScreenScript.Action
