import ScreenScript.Value

/-! # Commands to the host

The messages that actions send to whatever shows the screens: moves between screens and alerts.
A host may also send messages of its own making. What such a message asks for, its attributes
tell when it is applied.
-/

namespace ScreenScript

inductive Command where
  | navigate (screen : String)
  | navigateBack
  | reset (screen : String)
  | presentModal (screen : String)
  | dismissModal
  | showAlert (title message : String)
  /-- A message by its attributes, which need not be those of any command. -/
  | foreign (attributes : Fields)
deriving Inhabited, Repr

/-- The entries by which a command is written, its kind first. -/
def Command.fields : Command → Fields
  | .navigate screen => [("kind", .text "navigate"), ("screen_id", .text screen)]
  | .navigateBack => [("kind", .text "navigate_back")]
  | .reset screen => [("kind", .text "reset"), ("screen_id", .text screen)]
  | .presentModal screen => [("kind", .text "present_modal"), ("screen_id", .text screen)]
  | .dismissModal => [("kind", .text "dismiss_modal")]
  | .showAlert title message =>
    [("kind", .text "show_alert"), ("title", .text title), ("message", .text message)]
  | .foreign attributes => attributes

end ScreenScript
