import ScreenScript.Action.Check
import ScreenScript.Command.Check
import ScreenScript.Failure
import ScreenScript.Screen
import ScreenScript.Settings

/-! # The models that values are checked against

Each model has a check and a written form. A record of a screen or of one of its parts cannot be
changed once it is checked; the fields of all other records can be replaced, and what replaces
them is not checked.
-/

namespace ScreenScript

inductive Model where
  | screen
  | navigationBar
  | trailingButton
  | settings
  | action
  | command
deriving DecidableEq, Inhabited, Repr

/-- A value that was checked against a model. -/
inductive Record where
  | screen (screen : Screen)
  | navigationBar (bar : NavigationBar)
  | trailingButton (button : TrailingButton)
  | settings (settings : Settings)
  | action (action : Action)
  | command (command : Command)
deriving Inhabited, Repr

def Model.check (value : Value) : Model → Checked Record
  | .screen => .screen <$> Screen.check value
  | .navigationBar => .navigationBar <$> NavigationBar.check value
  | .trailingButton => .trailingButton <$> TrailingButton.check value
  | .settings => .settings <$> Settings.check value
  | .action => .action <$> Action.check value
  | .command => .command <$> Command.check value

def Record.toValue : Record → Value
  | .screen checked => checked.toValue
  | .navigationBar checked => checked.toValue
  | .trailingButton checked => checked.toValue
  | .settings checked => .mapping checked.fields
  | .action checked => checked.toValue
  | .command checked => .mapping checked.fields

/-- Whether the fields of a record cannot be replaced. -/
def Record.isFrozen : Record → Bool
  | .screen _ | .navigationBar _ | .trailingButton _ => true
  | .settings _ | .action _ | .command _ => false

/-- The name by which messages speak of the model of a record. -/
def Record.modelName : Record → String
  | .screen _ => "Screen"
  | .navigationBar _ => "NavigationBar"
  | .trailingButton _ => "TrailingButton"
  | .settings _ => "RuntimeSettings"
  | .action (.single (.append ..)) => "AppendAction"
  | .action (.single (.set ..)) => "SetAction"
  | .action (.single (.command ..)) => "CommandAction"
  | .action (.single (.unrecognized ..)) => "UnrecognizedAction"
  | .action (.sequence _) => "SequenceAction"
  | .command (.navigate _) => "NavigateCommand"
  | .command .navigateBack => "NavigateBackCommand"
  | .command (.reset _) => "ResetCommand"
  | .command (.presentModal _) => "PresentModalCommand"
  | .command .dismissModal => "DismissModalCommand"
  | .command (.showAlert ..) => "ShowAlertCommand"
  | .command (.foreign _) => "Message"

/-- The written form of a record with one of its fields replaced. -/
def Record.replace (record : Record) (field : String) (value : Value) : Except Failure Value :=
  if record.isFrozen then .error (.invalid [⟨[.key field], .frozen⟩])
  else
    let fields := (record.toValue.mapping?).getD []
    if Keyed.contains fields field then .ok (.mapping (Keyed.put fields field value))
    else .error (.noField record.modelName field)

end ScreenScript
