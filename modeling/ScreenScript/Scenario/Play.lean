import ScreenScript.Action.Check
import ScreenScript.Document
import ScreenScript.Scenario.Bench

/-! # Playing a scenario

A scenario sets up a world and takes its steps in it. A step that fails does not end the
scenario. After each step the loop runs until it is idle, and what can be seen of the world is
reported.
-/

namespace ScreenScript.Scenario

namespace Drive

/-- Answers a step. -/
def answer (host : Host Bench) : Step → Drive Answer
  | .asking scopeName routed request => do
    let scope ← scope scopeName
    let router ← router routed
    match request with
    | .lookup path =>
      return ((← get).reader scope path).elim .missing .value
    | .resolve path default => return .value (((← get).reader scope path).getD default)
    | .write path value =>
      Eff.write host scope path value
      return .nothing
    | .replaceData data =>
      Eff.replaceData scope data
      return .nothing
    | .snapshot => return .value (.mapping ((← get).data scope))
    | .literal =>
      return .text ("DataContext(" ++ Value.literal (.mapping ((← get).data scope)) ++ ")")
    | .fork fields name =>
      let world ← get
      set { world with scopes := world.scopes.fork scope fields }
      nameScope name world.scopes.next
      return .flag true
    | .subscribe listener handle reaction fails =>
      script listener ⟨reaction, fails⟩
      Eff.subscribe scope listener
      nameSubscription handle (.scope scope listener)
      return .nothing
    | .listen listener handle reaction fails =>
      script listener ⟨reaction, fails⟩
      Eff.listen World.mainRouter listener
      nameSubscription handle (.router World.mainRouter listener)
      return .nothing
    | .unsubscribe handle =>
      match Keyed.get? (← get).host.subscriptions handle with
      | some (.scope scope listener) => Eff.unsubscribe scope listener
      | some (.router router listener) => Eff.unlisten router listener
      | none => pure ()
      return .nothing
    | .evaluate node => return .value (Expression.evaluate ((← get).reader scope) node)
    | .evalNode node =>
      return (Expression.eval? ((← get).reader scope) node).elim .missing .value
    | .execute node =>
      Eff.executeDescribed host scope router (.node node)
      return .nothing
    | .executeModel model =>
      Eff.executeDescribed host scope router (.read (← require (Action.check model)))
      return .nothing
    | .navigate asked =>
      return .flag (← Eff.move host World.mainRouter (.navigate (← Eff.key asked)))
    | .goBack => return .flag (← Eff.move host World.mainRouter .goBack)
    | .reset asked =>
      return .flag (← Eff.move host World.mainRouter (.reset (← Eff.key asked)))
    | .presentModal asked =>
      return .flag (← Eff.move host World.mainRouter (.presentModal (← Eff.key asked)))
    | .dismissModal => return .flag (← Eff.move host World.mainRouter .dismissModal)
    | .push screen =>
      let screen ← require (Screen.check screen)
      let _ ← Eff.move host World.mainRouter (.push screen)
      return .nothing
    | .preload screens =>
      Eff.preload World.mainRouter (← screens.mapM fun screen => require (Screen.check screen))
      return .nothing
    | .screen asked =>
      let asked ← Eff.key asked
      return .screen (((← get).routers World.mainRouter).screen? asked)
    | .screens =>
      return .screens (((← get).routers World.mainRouter).cache.mergeSort
        fun first second => first.1 ≤ second.1)
    | .send message =>
      Eff.send (← command message) router
      return .nothing
    | .sendFromElsewhere message =>
      Eff.sendFromElsewhere (← command message) router
      return .nothing
    | .bindChannel =>
      Eff.bindChannel
      return .nothing
    | .drain => return .count (← Eff.drain host)
    | .pending => return .count (← get).channel.pending
    | .serve =>
      Eff.startServing
      Eff.settle host (← get).host.budget
      return .consumer (← get).channel.serving
    | .close =>
      Eff.close
      Eff.settle host (← get).host.budget
      return .consumer (← get).channel.serving
    | .register type renderer =>
      modify fun world => { world with registry := Keyed.put world.registry type renderer }
      return .nothing
    | .types => return .names (Registry.types (← get).registry)
    | .renderComponent type props =>
      keepRendering (← Eff.renderComponent scope router type props)
    | .openView screen name =>
      let view := View.fresh (← require (Screen.check screen)) scope router
      nameView name view
      return .view view
    | .bar name => return .view (← view name)
    | .appear name => return .flag (← Eff.appear host (← view name) (nameView name))
    | .render name => keepRendering (← Eff.render (← view name))
    | .isVisible name component =>
      return .flag (Layout.isVisible ((← get).data (← view name).scope) component)
    | .showCurrent =>
      keepRendering (← Eff.showCurrent host (← get).host.budget)
    | .flush => return .count (← Eff.flush host)
    | .trigger node =>
      Eff.trigger host scope (Action.ofNode node)
      return .nothing
    | .tap selector =>
      Eff.tap host (← select selector)
      return .nothing
    | .tapTrailing =>
      Eff.tapTrailing host
      return .nothing
    | .current => return .screen (← Eff.currentScreen?)
    | .sessionView asked =>
      let asked ← asked.mapM Eff.key
      let cached := asked.bind ((← get).routers World.mainRouter).screen?
      match cached <|> (← Eff.currentScreen?) with
      | none => return .sessionView none
      | some screen => return .sessionView (some (← Eff.viewOf screen))
    | .node selector => return .node (see (← get) (← select selector))
    | .enter selector content =>
      Eff.enter host (← select selector) content
      return .nothing
    | .find selector type =>
      return .nodes (seeAll (← get) ((← select selector).find type))
    | .nodeScope selector name =>
      match (← select selector).scope? with
      | some found =>
        nameScope name found
        return .flag (found = scope)
      | none => return .flag false

def takeAll (host : Host Bench) : List Step → Drive Unit
  | [] => pure ()
  | step :: rest => do
    let _ ← answer host step
    takeAll host rest

/-- Lets a listener follow its script. The steps are gone before they are taken, so a listener
that causes itself to be called does not take them again. -/
def follow (host : Host Bench) (listener : String) : Drive Unit := do
  match Keyed.get? (← get).host.scripts listener with
  | none => pure ()
  | some script =>
    keep fun bench =>
      { bench with scripts := Keyed.put bench.scripts listener { script with reaction := [] } }
    takeAll host script.reaction
    if script.fails then throw .listenerFailed

end Drive

/-- The host whose listeners follow their scripts, where calls may be nested to the given depth.
Each call that is nested in the steps of another one finds one script less with steps in it, so
a depth of one more than the number of scripts is never exceeded. -/
def scripted (presenter : Presenter) : (depth : Nat) → Host Bench
  | 0 => ⟨fun _ _ => pure (), presenter⟩
  | depth + 1 => ⟨fun listener _ => Drive.follow (scripted presenter depth) listener, presenter⟩

/-- How a scenario sets up its world. -/
structure Setup where
  session : Bool
  /-- Whether the screens of a session are loaded as a document first. -/
  load : Bool
  /-- Whether there is a router. Without one the screens are not even looked at. -/
  hasRouter : Bool
  /-- The data of the main scope, unless the world is that of a session. -/
  data : Fields
  settings : Option Value
  screens : Option Value
  registry : Registry
  presenter : Presenter

/-- The elements of a value that is used as a document: the items of a list, the keys of a
mapping, the characters of a text. -/
def elements : Value → Except Failure (List Value)
  | .list items => .ok items
  | .mapping fields => .ok ((Keyed.keys fields).map .text)
  | .text content => .ok (content.toList.map fun char => .text (String.singleton char))
  | value => .error (.notIterable value.typeName)

/-- The value that a check accepts, or the failure with its issues. -/
def accept {α : Type} : Checked α → Except Failure α
  | .valid value => .ok value
  | .invalid issues => .error (.invalid issues)

/-- The document that a session starts on. -/
def Setup.document (setup : Setup) : Except Failure (List Session.Entry) := do
  let document := setup.screens.getD (.list [])
  if setup.load then return (← Document.load (.decoded document)).map .screen
  else return (← elements document).map .value

def Setup.world (setup : Setup) (budget : Nat) : Except Failure (World Bench) := do
  let settings ← setup.settings.elim (.ok default) fun value => accept (Settings.check value)
  if setup.session then
    Session.startOn (← setup.document) settings setup.registry (.empty true budget)
  else
    let world := World.initial setup.data settings.alertTitle setup.registry
      (Bench.empty setup.hasRouter budget)
    if setup.hasRouter then
      let document ← elements (setup.screens.getD (.list []))
      let screens ← document.mapM fun value => accept (Screen.check value)
      return world.mapRouter World.mainRouter (·.preload screens)
    else return world

structure Report where
  outcome : Except Failure Answer
  data : Fields
  router : Option Router
  queue : List Entry
  alerts : List (Value × Value)
  calls : List Call
  notices : List Notice

def report (world : World Bench) (scope : String) (outcome : Except Failure Answer) : Report where
  outcome := outcome
  data := world.data ((Keyed.get? world.host.scopes scope).getD Scopes.main)
  router := if world.host.hasRouter then some (world.routers World.mainRouter) else none
  queue := world.channel.queue
  alerts := world.alerts
  calls := world.calls
  notices := world.notices

/-- The world with the records of earlier steps forgotten. -/
def forget (world : World Bench) : World Bench :=
  { world with alerts := [], calls := [], notices := [] }

/-- The result of an operation, with the world that it leaves behind whether it fails or not. -/
def outcome {α : Type} (operation : Drive α) (world : World Bench) :
    Except Failure α × World Bench :=
  match EStateM.run operation world with
  | .ok value world => (.ok value, world)
  | .error failure world => (.error failure, world)

/-- Takes a step and lets the loop run until it is idle. -/
def take (host : Host Bench) (step : Step) (world : World Bench) : Report × World Bench :=
  let (result, world) := outcome (Drive.answer host step) (forget world)
  let (_, world) := outcome (Eff.settle host world.host.budget) world
  (report world step.scope result, world)

def takeEach (host : Host Bench) : List Step → World Bench → List Report
  | [], _ => []
  | step :: rest, world =>
    let (first, world) := take host step world
    first :: takeEach host rest world

/-- Plays a scenario: the report on the world as it was set up, and one on each step. -/
def play (setup : Setup) (steps : List Step) : Except Failure (List Report) := do
  let budget := sizes steps + 1
  let world ← setup.world budget
  let host := scripted setup.presenter budget
  return report world "root" (.ok .nothing) :: takeEach host steps world

end ScreenScript.Scenario
