import ScreenScript.Effect
import ScreenScript.World.Data
import ScreenScript.World.Delivery

/-! # Executing actions

An action is executed in a scope, perhaps with a router: its instructions run in document order,
and each has the effect that `Effect.ofInstruction` gives it on the data as it is then. Commands
are sent and not applied. An action may be given by a node or as one that was read before.
-/

namespace ScreenScript.Eff

variable {H : Type}

def perform (host : Host H) (scope : ScopeId) (router : Option RouterId) : Effect → Eff H Unit
  | .write path value => write host scope path value
  | .send command => send command router
  | .skip notice => log notice

/-- Executes one instruction. -/
def executeInstruction (host : Host H) (scope : ScopeId) (router : Option RouterId)
    (instruction : Instruction) : Eff H Unit := do
  let world ← get
  perform host scope router
    (Effect.ofInstruction world.alertTitle router.isSome (world.reader scope) instruction)

mutual

def execute (host : Host H) (scope : ScopeId) (router : Option RouterId) : Action → Eff H Unit
  | .single instruction => executeInstruction host scope router instruction
  | .sequence steps => executeAll host scope router steps

def executeAll (host : Host H) (scope : ScopeId) (router : Option RouterId) :
    List Action → Eff H Unit
  | [] => return ()
  | step :: rest => do
    execute host scope router step
    executeAll host scope router rest

end

/-- Executes the action that is described. -/
def executeDescribed (host : Host H) (scope : ScopeId) (router : Option RouterId)
    (description : Action.Description) : Eff H Unit :=
  execute host scope router description.action

end ScreenScript.Eff
