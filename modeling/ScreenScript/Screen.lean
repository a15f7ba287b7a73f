import ScreenScript.Schema.Checked

/-! # Screens

A document is a list of screens. A screen has an identifier, a list of component descriptors
that are kept as they are written, a navigation bar if it has one, and an action to run when it
first appears. Several entries may be written under either of two keys; the first of them wins
whenever it is there. Entries that a screen does not have are ignored.
-/

namespace ScreenScript

/-- How a navigation bar shows its title. -/
inductive DisplayMode where
  | large
  | inline
deriving DecidableEq, Inhabited, Repr

/-- The button at the trailing edge of a navigation bar. Its action is a node, `null` when it
has none. -/
structure TrailingButton where
  label : String
  action : Value
deriving Inhabited, Repr

structure NavigationBar where
  title : String
  displayMode : DisplayMode
  trailingButton : Option TrailingButton
deriving Inhabited, Repr

/-- A screen. The action for its first appearance is a node, `null` when it has none. -/
structure Screen where
  id : String
  components : List Fields
  navigationBar : Option NavigationBar
  onAppear : Value
deriving Inhabited, Repr

namespace DisplayMode

def name : DisplayMode → String
  | .large => "large"
  | .inline => "inline"

/-- The display mode that a value names. Whatever names none means the inline mode. -/
def ofValue : Value → DisplayMode
  | .text "large" => .large
  | _ => .inline

end DisplayMode

namespace TrailingButton

def check : Value → Checked TrailingButton :=
  Check.model fun fields =>
    TrailingButton.mk <$> Check.required fields "label" Check.text
      <*> Check.optional fields .null .valid ["action"]

def toValue (button : TrailingButton) : Value :=
  .mapping [("label", .text button.label), ("action", button.action)]

end TrailingButton

namespace NavigationBar

def check : Value → Checked NavigationBar :=
  Check.model fun fields =>
    NavigationBar.mk <$> Check.optional fields "" Check.text ["title"]
      <*> Check.optional fields .inline (fun value => .valid (DisplayMode.ofValue value))
        ["displayMode", "display_mode"]
      <*> Check.optional fields none (Check.nullable TrailingButton.check)
        ["trailingButton", "trailing_button"]

def toValue (bar : NavigationBar) : Value :=
  .mapping [("title", .text bar.title), ("displayMode", .text bar.displayMode.name),
    ("trailingButton", bar.trailingButton.elim .null TrailingButton.toValue)]

end NavigationBar

namespace Screen

def check : Value → Checked Screen :=
  Check.model fun fields =>
    Screen.mk <$> Check.required fields "id" Check.text
      <*> Check.optional fields [] (Check.listOf Check.mapping) ["components"]
      <*> Check.optional fields none (Check.nullable NavigationBar.check)
        ["navigationBar", "navigation_bar"]
      <*> Check.optional fields .null .valid ["onAppearLogic", "on_appear_logic"]

/-- Checks a document: a list of screens. -/
def checkDocument : Value → Checked (List Screen) :=
  Check.listOf check

def toValue (screen : Screen) : Value :=
  .mapping [("id", .text screen.id), ("components", .list (screen.components.map .mapping)),
    ("navigationBar", screen.navigationBar.elim .null NavigationBar.toValue),
    ("onAppearLogic", screen.onAppear)]

def title? (screen : Screen) : Option String :=
  screen.navigationBar.map NavigationBar.title

/-- The title of a screen, empty when it has no navigation bar. -/
def title (screen : Screen) : String :=
  screen.title?.getD ""

/-- The display mode of a screen, inline when it has no navigation bar. -/
def displayMode (screen : Screen) : DisplayMode :=
  screen.navigationBar.elim .inline NavigationBar.displayMode

/-- The button at the trailing edge, when there is one. -/
def trailingButton (screen : Screen) : Option TrailingButton :=
  screen.navigationBar.bind NavigationBar.trailingButton

end Screen

end ScreenScript
