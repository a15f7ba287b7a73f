import ScreenScript.Command
import ScreenScript.Schema.Checked

/-! # Checking commands that are written by their kinds

A command for a screen names it, an alert has a title and may have a message, and the other
commands have no entry but their kind.
-/

namespace ScreenScript.Command

def checkScreen (make : String → Command) (fields : Fields) : Checked Command :=
  (Check.required fields "screen_id" Check.text).map make

def checkAlert (fields : Fields) : Checked Command :=
  Command.showAlert <$> Check.required fields "title" Check.text
    <*> Check.optional fields "" Check.text ["message"]

def check : Value → Checked Command
  | .mapping fields =>
    match Keyed.get? fields "kind" with
    | none => .fail .noTag
    | some (.text "navigate") => (checkScreen .navigate fields).under (.key "navigate")
    | some (.text "navigate_back") => .valid .navigateBack
    | some (.text "reset") => (checkScreen .reset fields).under (.key "reset")
    | some (.text "present_modal") =>
      (checkScreen .presentModal fields).under (.key "present_modal")
    | some (.text "dismiss_modal") => .valid .dismissModal
    | some (.text "show_alert") => (checkAlert fields).under (.key "show_alert")
    | some _ => .fail .unknownTag
  | _ => .fail .notTagged

end ScreenScript.Command
