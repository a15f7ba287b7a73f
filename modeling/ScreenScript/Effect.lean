import ScreenScript.Action
import ScreenScript.Expression
import ScreenScript.Notice

/-! # Effects of instructions

Each instruction has one effect, which the data of its scope alone determines: it writes a
value, it sends a command, or it is skipped with a notice that says why. It never moves a router
and never shows an alert itself.
-/

namespace ScreenScript

inductive Effect where
  | write (path : String) (value : Value)
  | send (command : Command)
  | skip (notice : Notice)
deriving Inhabited, Repr

namespace Effect

def route (routed : Bool) (name : String) (command : Command) : Effect :=
  if routed then .send command else .skip (.noRouter name)

/-- Sends a command for a screen, which the parameters must name. -/
def routeTo (routed : Bool) (name : String) (params : Fields) (command : String → Command) :
    Effect :=
  match params.text? "screen" with
  | some screen => route routed name (command screen)
  | none => .skip (.screenNotText name)

/-- The message of an alert; what yields no text is an empty message. -/
def alertMessage (read : String → Option Value) (params : Fields) : String :=
  ((Keyed.get? params "message").bind (Expression.eval? read)).elim "" Value.asText

/-- The effect of a command by its name. -/
def ofCommand (alertTitle : String) (routed : Bool) (read : String → Option Value)
    (name : String) (params : Fields) : Effect :=
  match name with
  | "navigate" => routeTo routed name params .navigate
  | "navigateBack" => route routed name .navigateBack
  | "showAlert" => .send (.showAlert alertTitle (alertMessage read params))
  | "presentModal" => routeTo routed name params .presentModal
  | "dismissModal" => route routed name .dismissModal
  | "reset" => routeTo routed name params .reset
  | _ => .skip (.unknownCommand name)

/-- The effect of appending a value to the list at a path. What stands there without being a
list gives way to a new one. -/
def ofAppend (read : String → Option Value) (path : String) : Value → Effect
  | .mapping entry =>
    .write path (.list ((((read path).bind Value.list?).getD []) ++ [.mapping entry]))
  | entry => .skip (.appendSkipped path entry)

/-- The effect of an instruction on the data that `read` reads. -/
def ofInstruction (alertTitle : String) (routed : Bool) (read : String → Option Value) :
    Instruction → Effect
  | .append path value => ofAppend read path (Expression.evaluate read value)
  | .set path value => .write path (Expression.evaluate read value)
  | .command name params => ofCommand alertTitle routed read name params
  | .unrecognized reason node =>
    .skip (.nodeSkipped reason (node.mapping?.elim false Action.mentionsAssignment))

end Effect

end ScreenScript
