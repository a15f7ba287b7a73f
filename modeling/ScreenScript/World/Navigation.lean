import ScreenScript.World

/-! # Moving a router

A move that is not refused changes the router and then calls those that listen to it. A move
that is refused does nothing at all.
-/

namespace ScreenScript.Eff

variable {H : Type}

/-- The notice that a move leaves: a reset clears the history even if its screen is not cached. -/
def resetNotice (router : Router) : Move → List Notice
  | .reset asked => if (router.screen? asked).isSome then [] else [.resetUncached asked]
  | _ => []

/-- Makes a move and says whether it succeeded. -/
def move (host : Host H) (router : RouterId) (step : Move) : Eff H Bool := do
  let before := (← get).routers router
  match before.move? step with
  | none => return false
  | some after =>
    modify fun world =>
      (world.mapRouter router fun _ => after).record (resetNotice before step)
    -- The listeners of the router as it was moved, each told of the screen that is shown by then.
    callAll host (fun world => .moved (((world.routers router).current?).map Screen.id))
      after.listeners
    return before.succeeds step

/-- Makes a listener be called after every change of a router, behind those that listen
already. -/
def listen (router : RouterId) (listener : String) : Eff H Unit :=
  modify fun world =>
    world.mapRouter router fun old => { old with listeners := old.listeners ++ [listener] }

/-- Removes the first place of a listener among those of a router, if it has one. -/
def unlisten (router : RouterId) (listener : String) : Eff H Unit :=
  modify fun world =>
    world.mapRouter router fun old => { old with listeners := old.listeners.erase listener }

def preload (router : RouterId) (screens : List Screen) : Eff H Unit :=
  modify fun world => world.mapRouter router fun old => old.preload screens

end ScreenScript.Eff
