import ScreenScript.Command

/-! # Notices

What the log records: steps that are skipped, moves that lead nowhere, alerts of a host without
a screen, and failures that a serving consumer survives. A notice has a level, a template in
which each `%` directive stands for an argument, and the arguments.
-/

namespace ScreenScript

/-- How grave a notice is. -/
inductive Level where
  | debug
  | info
  | warning
  | error
deriving DecidableEq, Inhabited, Repr

def Level.name : Level → String
  | .debug => "DEBUG"
  | .info => "INFO"
  | .warning => "WARNING"
  | .error => "ERROR"

inductive Argument where
  | text (content : String)
  | value (value : Value)
  | command (command : Command)
deriving Inhabited, Repr

/-- A record of the log. -/
inductive Notice where
  /-- A write to a path without a key. -/
  | emptyPath (path : String)
  /-- An append of something that is no mapping. -/
  | appendSkipped (path : String) (entry : Value)
  /-- A node that is no action; whether it mentions an assignment decides how grave that is. -/
  | nodeSkipped (reason : String) (assignment : Bool)
  /-- A command by a name that is not known. -/
  | unknownCommand (name : String)
  /-- A command that names its screen by something that is no text. -/
  | screenNotText (name : String)
  /-- A command for a router where there is none. -/
  | noRouter (name : String)
  | alert (title message : Value)
  | applyFailed (command : Command)
  /-- A command that nothing knows how to carry out. -/
  | noHandler (kind : Value)
  | navigateUncached (asked : Value)
  | presentUncached (asked : Value)
  | resetUncached (asked : Value)
  /-- A component of a type that no renderer is registered for. -/
  | noRenderer (type : String)
  /-- A component of a screen that does not tell its type. -/
  | noType (screen : String) (index : Nat)
deriving Inhabited, Repr

namespace Notice

def level : Notice → Level
  | .appendSkipped .. | .screenNotText _ | .noType .. => .warning
  | .nodeSkipped _ assignment => if assignment then .warning else .debug
  | .alert .. => .info
  | .applyFailed _ => .error
  | _ => .debug

def template : Notice → String
  | .emptyPath _ => "ignoring write to empty context path %r"
  | .appendSkipped .. => "append to %r skipped: value is not a mapping (%r)"
  | .nodeSkipped .. => "skipping action node: %s"
  | .unknownCommand _ => "unknown command %r ignored"
  | .screenNotText _ => "%s skipped: 'params.screen' must be a string"
  | .noRouter _ => "%s skipped: no router"
  | .alert .. => "alert %r: %s"
  | .applyFailed _ => "failed to apply %r"
  | .noHandler _ => "no handler for command kind %r"
  | .navigateUncached _ => "navigate: screen %r is not cached"
  | .presentUncached _ => "presentModal: screen %r is not cached"
  | .resetUncached _ => "reset: screen %r is not cached"
  | .noRenderer _ => "no renderer registered for component type %r"
  | .noType .. => "screen %r component #%d has no type; skipped"

/-- The arguments of a notice, in the order of its template. -/
def arguments : Notice → List Argument
  | .emptyPath path => [.text path]
  | .appendSkipped path entry => [.text path, .value entry]
  | .nodeSkipped reason _ => [.text reason]
  | .unknownCommand name | .screenNotText name | .noRouter name => [.text name]
  | .alert title message => [.value title, .value message]
  | .applyFailed command => [.command command]
  | .noHandler kind => [.value kind]
  | .navigateUncached asked | .presentUncached asked | .resetUncached asked => [.value asked]
  | .noRenderer type => [.text type]
  | .noType screen index => [.text screen, .value (.int index)]

end Notice

end ScreenScript
