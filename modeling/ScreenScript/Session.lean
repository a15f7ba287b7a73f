import ScreenScript.Settings
import ScreenScript.World.Execution
import ScreenScript.World.Rendering

/-! # Sessions

A session runs the screens of a document: it starts on one of them, shows the current screen,
and carries out what the user does. Commands are applied as soon as the action that sent them
has been executed.

Each screen identifier has one view in a session. The action for the first appearance of a
screen belongs to its view and is started at most once, which bounds the rounds of `show`: every
round but the last starts the action of a view for the first time.
-/

namespace ScreenScript

namespace Session

variable {H : Type}

/-- The screen that an element of a document stands for. -/
def screen : Value → Except Failure Screen
  | .mapping fields =>
    match Screen.check (.mapping fields) with
    | .valid screen => .ok screen
    | .invalid issues => .error (.invalid issues)
  | value => .error (.notScreen value.typeName)

/-- An element of a document: a screen, or a value that may stand for one. -/
inductive Entry where
  | screen (screen : Screen)
  | value (value : Value)
deriving Inhabited, Repr

def Entry.resolve : Entry → Except Failure Screen
  | .screen loaded => .ok loaded
  | .value node => Session.screen node

/-- The screens of the elements of a document, up to the first that has none. -/
def screens : List Entry → Except Failure (List Screen)
  | [] => .ok []
  | entry :: rest => do
    let first ← entry.resolve
    let others ← screens rest
    return first :: others

/-- The identifier of the screen that a session starts on: the one in the settings, else that of
the first screen. -/
def initialScreen? (settings : Settings) (screens : List Screen) : Option String :=
  settings.initialScreen <|> screens.head?.map Screen.id

/-- The world in which a session starts. -/
def start (screens : List Screen) (settings : Settings) (registry : Registry) (host : H) :
    World H :=
  let world := (World.initial settings.initialData settings.alertTitle registry host).mapRouter
    World.mainRouter (·.preload screens)
  match initialScreen? settings screens with
  | none => world
  | some id =>
    let router := world.routers World.mainRouter
    let step := Move.reset (.text id)
    (world.mapRouter World.mainRouter fun _ => (router.move? step).getD router).record
      (Eff.resetNotice router step)

def startOn (document : List Entry) (settings : Settings) (registry : Registry) (host : H) :
    Except Failure (World H) := do
  return start (← screens document) settings registry host

end Session

namespace Eff

variable {H : Type}

def currentScreen? : Eff H (Option Screen) :=
  return ((← get).routers World.mainRouter).current?

/-- The view of the session for a screen. A screen that has none by its identifier gets one. -/
def viewOf (screen : Screen) : Eff H View := do
  match Keyed.get? (← get).views screen.id with
  | some view => return view
  | none =>
    let view := View.fresh screen Scopes.main (some World.mainRouter)
    modify fun world => { world with views := Keyed.put world.views screen.id view }
    return view

/-- Lets a view appear: it starts the action for its first appearance if that is still to be
done. It says whether there was such an action. -/
def appear (host : Host H) (view : View) (latch : View → Eff H Unit) : Eff H Bool := do
  match view.waiting? with
  | none => return false
  | some node =>
    -- Kept before the action is executed, so that a failure of the action does not undo it.
    latch { view with appeared := true }
    execute host view.scope view.router (Action.ofNode node)
    return true

/-- Lets a view of the session appear, which is the one for the given screen identifier. -/
def appearInSession (host : Host H) (id : String) (view : View) : Eff H Bool :=
  appear host view fun latched =>
    modify fun world => { world with views := Keyed.put world.views id latched }

def flush (host : Host H) : Eff H Nat :=
  drain host

/-- Shows the current screen within so many rounds. -/
def showWithin (host : Host H) : Nat → Eff H (List Node)
  | 0 => throw .unsettled
  | rounds + 1 => do
    match ← currentScreen? with
    | none => return []
    | some screen =>
      let view ← viewOf screen
      let started ← appearInSession host screen.id view
      let _ ← flush host
      -- The action may have led to another screen, which appears in turn.
      if started then showWithin host rounds else render view

/-- The rounds that showing takes at most while no screens come in from elsewhere: one for each
screen that the router knows or shows, and one more. -/
def showRounds (world : World H) : Nat :=
  let router := world.routers World.mainRouter
  router.cache.length + router.stack.length + router.modals.length + 1

def showCurrent (host : Host H) (more : Nat) : Eff H (List Node) := do
  showWithin host (showRounds (← get) + more)

/-- Executes an action in a scope and applies the commands that wait. -/
def trigger (host : Host H) (scope : ScopeId) (action : Action) : Eff H Unit := do
  execute host scope (some World.mainRouter) action
  let _ ← flush host

/-- Runs the action of a node, if it has one, in the scope that the node gives access to, or else in
the main one. -/
def tap (host : Host H) (node : Node) : Eff H Unit :=
  match node.face.action with
  | .null => return ()
  | action => trigger host node.home (Action.ofNode action)

/-- Runs the action of the trailing button of the current screen, if there is one. -/
def tapTrailing (host : Host H) : Eff H Unit := do
  match ← currentScreen? with
  | none => return ()
  | some screen =>
    match (← viewOf screen).screen.trailingButton.map TrailingButton.action with
    | none | some .null => return ()
    | some action => trigger host Scopes.main (Action.ofNode action)

end Eff

end ScreenScript
