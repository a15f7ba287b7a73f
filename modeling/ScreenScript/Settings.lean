import ScreenScript.Schema.Checked

/-! # Settings of a session

The settings say which screen a session starts on, the title of its alerts and the data it
starts with. Each has a default, and no other entry is admitted.
-/

namespace ScreenScript

/-- The settings of a session. Without an initial screen a session asks for the identifier of the
first screen of its document. -/
structure Settings where
  initialScreen : Option String
  alertTitle : String
  initialData : Fields
deriving Repr

namespace Settings

instance : Inhabited Settings := ⟨⟨none, "Alerta", []⟩⟩

def check : Value → Checked Settings :=
  Check.model fun fields =>
    (fun screen title data _ => Settings.mk screen title data)
      <$> Check.optional fields none (Check.nullable Check.text) ["initial_screen"]
      <*> Check.optional fields (default : Settings).alertTitle Check.text ["alert_title"]
      <*> Check.optional fields [] Check.mapping ["initial_data"]
      <*> Check.only ["initial_screen", "alert_title", "initial_data"] fields

/-- The entries by which settings are written. -/
def fields (settings : Settings) : Fields :=
  [("initial_screen", .ofText? settings.initialScreen), ("alert_title", .text settings.alertTitle),
    ("initial_data", .mapping settings.initialData)]

end Settings

end ScreenScript
