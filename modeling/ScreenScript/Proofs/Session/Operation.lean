import ScreenScript.Proofs.Operating

/-! # Operations of a session and the visits they make

A session is operated in the ways that its interface allows. Where it deals with a screen it visits
it: it answers the view of the screen, which is a fresh one the first time, and it may let the view
appear, which starts the action of the view unless that was started before. `Operation.visits`
tells the visits of an operation and what was started on them. They are no mere record: `Visit.make`
says what is executed at a visit, and by `Operation.perform_eq_replay` an operation does what its
visits execute and nothing else for the appearance of screens.

All else that an operation does is executing, draining, rendering and moving the router. So a
property of the visits and the world lasts through every operation as soon as it lasts through these
and through one visit: that is `Lasting.perform`, under any host, with listeners or without. What
becomes of views that are not of the session is not told.
-/

namespace ScreenScript

variable {H : Type}

/-- A screen for which a session answered a view, and the node of the action that was started on
its appearing, if one was. -/
structure Visit where
  screen : Screen
  started : Option Value
deriving Inhabited, Repr

namespace World

def current? (world : World H) : Option Screen :=
  (world.routers mainRouter).current?

/-- The view that a session answers for a screen. -/
def viewFor (world : World H) (screen : Screen) : View :=
  (Keyed.get? world.views screen.id).getD (View.fresh screen Scopes.main (some mainRouter))

/-- The world once a session has answered a view for a screen. -/
def opened (world : World H) (screen : Screen) : World H :=
  if Keyed.contains world.views screen.id then world
  else { world with views := Keyed.put world.views screen.id (world.viewFor screen) }

/-- The world once a view keeps that it has appeared. -/
def latched (world : World H) (id : String) (view : View) : World H :=
  { world with views := Keyed.put world.views id { view with appeared := true } }

@[simp] theorem scopes_opened (world : World H) (screen : Screen) :
    (world.opened screen).scopes = world.scopes := by
  unfold opened
  split <;> rfl

@[simp] theorem routers_opened (world : World H) (screen : Screen) :
    (world.opened screen).routers = world.routers := by
  unfold opened
  split <;> rfl

@[simp] theorem channel_opened (world : World H) (screen : Screen) :
    (world.opened screen).channel = world.channel := by
  unfold opened
  split <;> rfl

theorem Silent.opened {world : World H} (silent : world.Silent) (screen : Screen) :
    (world.opened screen).Silent where
  scopes id := by
    rw [scopes_opened]
    exact silent.scopes id
  routers id := by
    rw [routers_opened]
    exact silent.routers id

theorem Silent.latched {world : World H} (silent : world.Silent) (id : String) (view : View) :
    (world.latched id view).Silent :=
  ⟨silent.scopes, silent.routers⟩

/-- A screen reads as its view once that was answered, and every other view is as before. -/
theorem get?_opened (world : World H) (screen : Screen) (id : String) :
    Keyed.get? (world.opened screen).views id =
      if screen.id = id then some (world.viewFor screen) else Keyed.get? world.views id := by
  unfold opened viewFor Keyed.contains
  cases found : Keyed.get? world.views screen.id with
  | none => simp only [Option.isSome_none, Bool.false_eq_true, ↓reduceIte, Option.getD_none,
      Keyed.get?_put]
  | some view =>
    simp only [Option.isSome_some, ↓reduceIte, Option.getD_some]
    split
    next same => rw [← same, found]
    · rfl

theorem get?_opened_self (world : World H) (screen : Screen) :
    Keyed.get? (world.opened screen).views screen.id = some (world.viewFor screen) := by
  rw [get?_opened, if_pos rfl]

theorem current?_opened (world : World H) (screen : Screen) :
    (world.opened screen).current? = world.current? := by
  rw [current?, routers_opened]
  rfl

theorem viewFor_of_found {world : World H} {screen : Screen} {view : View}
    (found : Keyed.get? world.views screen.id = some view) : world.viewFor screen = view := by
  rw [viewFor, found]
  rfl

/-- To answer a view that is there changes nothing. -/
theorem opened_of_found {world : World H} {screen : Screen} {view : View}
    (found : Keyed.get? world.views screen.id = some view) : world.opened screen = world := by
  rw [opened, Keyed.contains, found]
  rfl

/-- Only a view that was answered before can have appeared. -/
theorem get?_of_appeared {world : World H} {screen : Screen}
    (seen : (world.viewFor screen).appeared = true) :
    Keyed.get? world.views screen.id = some (world.viewFor screen) := by
  unfold viewFor at seen ⊢
  cases found : Keyed.get? world.views screen.id with
  | none =>
    rw [found] at seen
    cases seen
  | some view => rfl

end World

/-- An action is still to be run exactly when the view has one and has not appeared. -/
theorem View.waiting?_eq_some {view : View} {node : Value} (waiting : view.waiting? = some node) :
    view.appeared = false ∧ view.screen.onAppear = node := by
  unfold View.waiting? at waiting
  split at waiting
  · cases waiting
  next unseen =>
    refine ⟨Bool.eq_false_iff.mpr unseen, ?_⟩
    split at waiting
    · cases waiting
    · exact Option.some.inj waiting

theorem View.waiting?_eq_none {view : View} (rested : view.waiting? = none) :
    view.screen.onAppear = .null ∨ view.appeared = true := by
  unfold View.waiting? at rested
  split at rested
  next seen => exact .inr seen
  · split at rested
    next none => exact .inl none
    · cases rested

namespace Eff

theorem currentScreen?_bind {α : Type} (rest : Option Screen → Eff H α) (world : World H) :
    (currentScreen? >>= rest) world = rest world.current? world := rfl

theorem viewOf_eq (screen : Screen) (world : World H) :
    viewOf screen world = .ok (world.viewFor screen) (world.opened screen) := by
  rw [viewOf, get_bind]
  unfold World.opened World.viewFor Keyed.contains
  cases Keyed.get? world.views screen.id <;> rfl

theorem appearInSession_of_rested (host : Host H) (id : String) {view : View} {world : World H}
    (rested : view.waiting? = none) : appearInSession host id view world = .ok false world := by
  unfold appearInSession appear
  rw [rested]
  rfl

/-- A view that appears has its action executed after it was kept that it has appeared. -/
theorem appearInSession_of_some (host : Host H) (id : String) {view : View} {node : Value}
    (world : World H) (waiting : view.waiting? = some node) :
    appearInSession host id view world =
      (do
        execute host view.scope view.router (Action.ofNode node)
        return true : Eff H Bool) (world.latched id view) := by
  unfold appearInSession appear
  rw [waiting]
  rfl

/-- One round of showing a screen: it tells the view, and whether its action was started. -/
def showRound (host : Host H) (screen : Screen) : Eff H (View × Bool) := do
  let view ← viewOf screen
  let started ← appearInSession host screen.id view
  let _ ← flush host
  return (view, started)

/-- A round that succeeds either executes the action that waits, with the view kept as one that has
appeared, or finds none that waits. Then it drains. -/
theorem showRound_cases {host : Host H} {screen : Screen} {view : View} {started : Bool}
    {world next : World H} (ran : showRound host screen world = .ok (view, started) next) :
    view = world.viewFor screen ∧
      ((∃ node middle applied, started = true ∧ view.waiting? = some node ∧
          execute host view.scope view.router (Action.ofNode node)
            ((world.opened screen).latched screen.id view) = .ok () middle ∧
          drain host middle = .ok applied next) ∨
        (started = false ∧ view.waiting? = none ∧
          ∃ applied, drain host (world.opened screen) = .ok applied next)) := by
  rw [showRound, bind_of_ok (viewOf_eq screen world)] at ran
  obtain ⟨_, middle, appeared, ran⟩ := bind_eq_ok_iff.mp ran
  obtain ⟨applied, _, drained, finished⟩ := bind_eq_ok_iff.mp ran
  cases finished
  refine ⟨rfl, ?_⟩
  cases waiting : (world.viewFor screen).waiting? with
  | some node =>
    rw [appearInSession_of_some host screen.id _ waiting] at appeared
    obtain ⟨_, _, executed, finished⟩ := bind_eq_ok_iff.mp appeared
    cases finished
    exact .inl ⟨node, middle, applied, rfl, rfl, executed, drained⟩
  | none =>
    rw [appearInSession_of_rested host screen.id waiting] at appeared
    cases appeared
    exact .inr ⟨rfl, rfl, applied, drained⟩

theorem showWithin_succ (host : Host H) (rounds : Nat) (world : World H) :
    showWithin host (rounds + 1) world =
      match world.current? with
      | none => .ok [] world
      | some screen =>
        (do
          let (view, started) ← showRound host screen
          if started then showWithin host rounds else render view : Eff H (List Node)) world := by
  rw [showWithin, currentScreen?_bind]
  cases world.current? with
  | none => rfl
  | some screen => simp only [showRound, bind_assoc, pure_bind]

/-- The visits of the rounds in which a session is shown. -/
def visitsWithin (host : Host H) : Nat → World H → List Visit
  | 0, _ => []
  | rounds + 1, world =>
    match world.current? with
    | none => []
    | some screen =>
      ⟨screen, (world.viewFor screen).waiting?⟩ ::
        match showRound host screen world with
        | .ok (_, true) next => visitsWithin host rounds next
        | _ => []

end Eff

/-- What is executed at a visit. The view of the screen is answered; if the visit starts the action
for its first appearance, the view keeps that it has appeared and the action is executed once, and
otherwise nothing is executed. -/
def Visit.make (host : Host H) (visit : Visit) : Eff H View := do
  let view ← Eff.viewOf visit.screen
  if visit.started.isSome then
    modify fun world => world.latched visit.screen.id view
    Eff.execute host view.scope view.router (Action.ofNode view.screen.onAppear)
  return view

namespace Eff

/-- Shows the current screen by visits that are given, one for each round. -/
def showAs (host : Host H) : Nat → List Visit → Eff H (List Node)
  | 0, _ => throw .unsettled
  | _ + 1, [] => return []
  | rounds + 1, visit :: rest => do
    let view ← visit.make host
    let _ ← flush host
    if visit.started.isSome then showAs host rounds rest else render view

/-- To answer the view of a screen is to make a visit that starts nothing. -/
theorem viewOf_eq_make (host : Host H) (screen : Screen) (world : World H) :
    viewOf screen world = Visit.make host ⟨screen, none⟩ world := by
  rw [Visit.make, bind_of_ok (viewOf_eq screen world), viewOf_eq]
  rfl

theorem make_of_waiting (host : Host H) {screen : Screen} {world : World H} {node : Value}
    (waiting : (world.viewFor screen).waiting? = some node) :
    Visit.make host ⟨screen, some node⟩ world =
      (do
        execute host (world.viewFor screen).scope (world.viewFor screen).router (Action.ofNode node)
        return world.viewFor screen : Eff H View)
        ((world.opened screen).latched screen.id (world.viewFor screen)) := by
  rw [Visit.make, bind_of_ok (viewOf_eq screen world), (View.waiting?_eq_some waiting).2]
  rfl

/-- To answer the view of a screen and let it appear is to make a visit. -/
theorem appear_eq_make {α : Type} (host : Host H) (screen : Screen) (world : World H)
    (rest : View → Bool → Eff H α) :
    (do
      let view ← viewOf screen
      let started ← appearInSession host screen.id view
      rest view started : Eff H α) world =
      (do
        let view ← Visit.make host ⟨screen, (world.viewFor screen).waiting?⟩
        rest view (world.viewFor screen).waiting?.isSome : Eff H α) world := by
  rw [bind_of_ok (viewOf_eq screen world)]
  cases waiting : (world.viewFor screen).waiting? with
  | none =>
    rw [bind_of_ok (appearInSession_of_rested host screen.id waiting),
      bind_of_ok ((viewOf_eq_make host screen world).symm.trans (viewOf_eq screen world))]
    rfl
  | some node =>
    have appeared := appearInSession_of_some host screen.id (world.opened screen) waiting
    have made := make_of_waiting host waiting
    cases ran : execute host (world.viewFor screen).scope (world.viewFor screen).router
        (Action.ofNode node) ((world.opened screen).latched screen.id (world.viewFor screen)) with
    | ok _ next =>
      rw [bind_of_ok ran] at appeared made
      rw [bind_of_ok appeared, bind_of_ok made]
      rfl
    | error failure next =>
      rw [bind_of_error ran] at appeared made
      rw [bind_of_error appeared, bind_of_error made]

/-- A round makes one visit and drains. -/
theorem showRound_eq_make (host : Host H) (screen : Screen) (world : World H) :
    showRound host screen world =
      (do
        let view ← Visit.make host ⟨screen, (world.viewFor screen).waiting?⟩
        let _ ← flush host
        return (view, (world.viewFor screen).waiting?.isSome) : Eff H (View × Bool)) world :=
  appear_eq_make host screen world fun view started => do
    let _ ← flush host
    return (view, started)

/-- Showing executes what is executed at the visits of its rounds, and drains after each. -/
theorem showWithin_eq_showAs (host : Host H) (rounds : Nat) (world : World H) :
    showWithin host rounds world =
      showAs host rounds (visitsWithin host rounds world) world := by
  induction rounds generalizing world with
  | zero => rfl
  | succ rounds ih =>
    rw [showWithin_succ, visitsWithin]
    cases world.current? with
    | none => rfl
    | some screen =>
      have round := showRound_eq_make host screen world
      simp only [showAs]
      cases made : Visit.make host ⟨screen, (world.viewFor screen).waiting?⟩ world with
      | error failure next =>
        rw [bind_of_error made] at round
        rw [bind_of_error round, bind_of_error made]
      | ok view middle =>
        rw [bind_of_ok made] at round
        rw [bind_of_ok made]
        cases flushed : flush host middle with
        | error failure next =>
          rw [bind_of_error flushed] at round
          rw [bind_of_error round, bind_of_error flushed]
        | ok applied next =>
          rw [bind_of_ok flushed] at round
          have ran : showRound host screen world =
              .ok (view, (world.viewFor screen).waiting?.isSome) next := round
          rw [bind_of_ok flushed, bind_of_ok ran]
          cases started : (world.viewFor screen).waiting?.isSome with
          | false => rfl
          | true =>
            rw [started] at ran
            simp only [ran]
            exact ih next

end Eff

namespace Session

open Eff World

/-- What is done to a session from outside. -/
inductive Operation where
  /-- Shows the current screen, where so many screens may come in meanwhile. -/
  | showCurrent (more : Nat)
  /-- Asks for the view of a screen, the current one unless it is given. -/
  | view (asked : Option Screen)
  /-- Lets the view of a screen appear, the current one unless it is given. -/
  | appear (asked : Option Screen)
  | trigger (scope : ScopeId) (action : Action)
  | tap (node : Node)
  | tapTrailing
  | enter (node : Node) (content : Value)
  | execute (scope : ScopeId) (router : Option RouterId) (action : Action)
  | send (command : Command) (router : Option RouterId)
  | flush
  | preload (screens : List Screen)
  | move (step : Move)

namespace Operation

/-- Carries out an operation. What it answers is left aside. -/
def perform (host : Host H) : Operation → Eff H Unit
  | .showCurrent more => do
    let _ ← Eff.showCurrent host more
  | .view asked => do
    match asked <|> (← get).current? with
    | none => return ()
    | some screen =>
      let _ ← viewOf screen
  | .appear asked => do
    match asked <|> (← get).current? with
    | none => return ()
    | some screen =>
      let view ← viewOf screen
      let _ ← appearInSession host screen.id view
  | .trigger scope action => Eff.trigger host scope action
  | .tap node => Eff.tap host node
  | .tapTrailing => Eff.tapTrailing host
  | .enter node content => Eff.enter host node content
  | .execute scope router action => Eff.execute host scope router action
  | .send command router => Eff.send command router
  | .flush => do
    let _ ← Eff.flush host
  | .preload screens => Eff.preload mainRouter screens
  | .move step => do
    let _ ← Eff.move host mainRouter step

def brings : Operation → List Screen
  | .view asked | .appear asked => asked.toList
  | .preload screens => screens
  | .move (.push screen) => [screen]
  | _ => []

def visits (host : Host H) (world : World H) : Operation → List Visit
  | .showCurrent more => visitsWithin host (showRounds world + more) world
  | .view asked => (asked <|> world.current?).toList.map (⟨·, none⟩)
  | .appear asked =>
    (asked <|> world.current?).toList.map fun screen => ⟨screen, (world.viewFor screen).waiting?⟩
  | .tapTrailing => world.current?.toList.map (⟨·, none⟩)
  | _ => []

/-- An operation, told by its visits: for the appearance of screens it executes what is executed at
the visits, and nothing else. -/
def replay (host : Host H) (visits : List Visit) : Operation → Eff H Unit
  | .showCurrent more => do
    let _ ← showAs host (showRounds (← get) + more) visits
  | .view _ => visits.forM fun visit => do
    let _ ← visit.make host
  | .appear _ => visits.forM fun visit => do
    let _ ← visit.make host
  | .tapTrailing => visits.forM fun visit => do
    let view ← visit.make host
    match view.screen.trailingButton.map TrailingButton.action with
    | none | some .null => return ()
    | some action => Eff.trigger host Scopes.main (Action.ofNode action)
  -- No other operation deals with a view.
  | operation => operation.perform host

private theorem forM_toList (visit : Screen → Visit) (make : Visit → Eff H Unit)
    (asked : Option Screen) :
    (asked.toList.map visit).forM make =
      match asked with
      | none => return ()
      | some screen => make (visit screen) := by
  cases asked <;> simp

/-- Every operation does what its visits tell. -/
theorem perform_eq_replay (host : Host H) (operation : Operation) (world : World H) :
    operation.perform host world = operation.replay host (operation.visits host world) world := by
  cases operation with
  | showCurrent more =>
    exact bind_eq_of_eq (showWithin_eq_showAs host (showRounds world + more) world) _
  | view asked =>
    rw [perform, get_bind, replay, visits, forM_toList]
    cases asked <|> world.current? with
    | none => rfl
    | some screen => exact bind_eq_of_eq (viewOf_eq_make host screen world) _
  | appear asked =>
    rw [perform, get_bind, replay, visits, forM_toList]
    cases asked <|> world.current? with
    | none => rfl
    | some screen => exact appear_eq_make host screen world fun _ _ => return ()
  | tapTrailing =>
    rw [perform, Eff.tapTrailing, currentScreen?_bind, replay, visits, forM_toList]
    cases world.current? with
    | none => rfl
    | some screen => exact bind_eq_of_eq (viewOf_eq_make host screen world) _
  | _ => rfl

end Operation

/-- What a property of the visits and the world needs in order to last, as long as no other screens
come in than those that are known. -/
structure Lasting (host : Host H) (known : Screen → Prop)
    (property : List Visit → World H → Prop) : Prop where
  operating : Operating host fun _ operation => ∀ visits, Sustains (property visits) operation
  send : ∀ command router visits, Sustains (property visits) (send command router)
  render : ∀ view visits, Sustains (property visits) (render view)
  preload : ∀ screens, (∀ screen ∈ screens, known screen) →
    ∀ visits, Sustains (property visits) (preload mainRouter screens)
  move : ∀ step, (∀ screen, step = .push screen → known screen) →
    ∀ visits, Sustains (property visits) (move host mainRouter step)
  current : ∀ {visits world screen}, property visits world → world.current? = some screen →
    known screen
  /-- The view of a screen is answered. -/
  visit : ∀ {visits world screen}, property visits world → known screen →
    property (visits ++ [⟨screen, none⟩]) (world.opened screen)
  /-- The view of a screen is answered and keeps that it has appeared. -/
  start : ∀ {visits world screen node}, property visits world → known screen →
    (world.viewFor screen).waiting? = some node →
    property (visits ++ [⟨screen, some node⟩])
      ((world.opened screen).latched screen.id (world.viewFor screen))

namespace Lasting

variable {host : Host H} {known : Screen → Prop} {property : List Visit → World H → Prop}
  {visits : List Visit} {world : World H} {screen : Screen}

/-- A visit at which the view appears starts the action that waits, if there is one. -/
theorem appear (lasting : Lasting host known property) (holds : property visits world)
    (named : known screen) :
    property (visits ++ [⟨screen, (world.viewFor screen).waiting?⟩])
      (after (appearInSession host screen.id (world.viewFor screen)) (world.opened screen)) := by
  cases waiting : (world.viewFor screen).waiting? with
  | none =>
    rw [after_of_ok (appearInSession_of_rested host screen.id waiting)]
    exact lasting.visit holds named
  | some node =>
    have started := lasting.start holds named waiting
    simp only [after, appearInSession_of_some host screen.id _ waiting]
    exact Sustains.following (lasting.operating.execute _ _ _ _ _ started) fun _ =>
      lasting.operating.pure true _

/-- A round of showing visits the screen that was current at its start. -/
theorem round (lasting : Lasting host known property) (holds : property visits world)
    (current : world.current? = some screen) :
    property (visits ++ [⟨screen, (world.viewFor screen).waiting?⟩])
      (after (showRound host screen) world) := by
  have appeared := lasting.appear holds (lasting.current holds current)
  unfold showRound
  simp only [after, bind_of_ok (viewOf_eq screen world)]
  exact Sustains.following appeared fun _ => (lasting.operating.drain _).bind fun _ =>
    lasting.operating.pure _ _

/-- Showing keeps the property however many rounds it takes, also when it fails. -/
theorem showWithin (lasting : Lasting host known property) (rounds : Nat)
    (holds : property visits world) :
    property (visits ++ visitsWithin host rounds world)
      (after (Eff.showWithin host rounds) world) := by
  induction rounds generalizing visits world with
  | zero =>
    rw [visitsWithin, List.append_nil]
    exact holds
  | succ rounds ih =>
    simp only [after, showWithin_succ, visitsWithin]
    cases current : world.current? with
    | none =>
      rw [List.append_nil]
      exact holds
    | some screen =>
      have round := lasting.round holds current
      cases ran : showRound host screen world with
      | error failure next =>
        rw [after_of_error ran] at round
        simp only [bind_of_error ran, ran]
        exact round
      | ok shown next =>
        obtain ⟨view, started⟩ := shown
        rw [after_of_ok ran] at round
        simp only [bind_of_ok ran, ran]
        cases started with
        | true =>
          have later := ih round
          rw [List.append_assoc] at later
          exact later
        | false => exact lasting.render view _ _ round

private theorem ended (lasting : Lasting host known property) {α : Type} (visits : List Visit)
    (_ : α) : Sustains (property visits) (Pure.pure () : Eff H Unit) :=
  lasting.operating.pure () visits

/-- The screen that is asked for, or else the current one, is visited, if there is one. -/
private theorem visitAsked (lasting : Lasting host known property) (asked : Option Screen)
    (named : ∀ screen ∈ asked.toList, known screen) (holds : property visits world)
    {visit : Screen → Visit} {operation : Screen → Eff H Unit}
    (visited : ∀ screen, known screen →
      property (visits ++ [visit screen]) (after (operation screen) world)) :
    property (visits ++ (asked <|> world.current?).toList.map visit)
      (after (match asked <|> world.current? with
        | none => return ()
        | some screen => operation screen) world) := by
  cases asked with
  | some screen => exact visited screen (named screen (List.mem_singleton_self _))
  | none =>
    cases current : world.current? with
    | none => exact (List.append_nil visits).symm ▸ holds
    | some screen => exact visited screen (lasting.current holds current)

/-- Every operation keeps the property, whether it succeeds or fails. -/
theorem perform (lasting : Lasting host known property) (operation : Operation)
    (named : ∀ screen ∈ operation.brings, known screen) (holds : property visits world) :
    property (visits ++ operation.visits host world) (after (operation.perform host) world) := by
  -- Operations that visit no screen.
  have quiet {operation : Eff H Unit} (sustains : Sustains (property visits) operation) :
      property (visits ++ []) (after operation world) := by
    rw [List.append_nil]
    exact sustains world holds
  cases operation with
  | showCurrent more =>
    exact Sustains.following (lasting.showWithin (showRounds world + more) holds) (lasting.ended _)
  | view asked =>
    refine lasting.visitAsked asked named holds fun screen named => ?_
    simp only [after, bind_of_ok (viewOf_eq screen world)]
    exact lasting.visit holds named
  | appear asked =>
    refine lasting.visitAsked asked named holds fun screen named => ?_
    simp only [after, bind_of_ok (viewOf_eq screen world)]
    exact Sustains.following (lasting.appear holds named) (lasting.ended _)
  | tapTrailing =>
    refine lasting.visitAsked none (fun _ member => absurd member List.not_mem_nil) holds
      fun screen named => ?_
    simp only [after, bind_of_ok (viewOf_eq screen world)]
    refine (?tapped : Sustains (property (visits ++ [⟨screen, none⟩])) _) _
      (lasting.visit holds named)
    split
    · exact lasting.ended _ ()
    · exact lasting.ended _ ()
    · exact lasting.operating.trigger _ _ _
  | trigger scope action => exact quiet (lasting.operating.trigger scope action visits)
  | tap node => exact quiet (lasting.operating.tap node visits)
  | enter node content => exact quiet (lasting.operating.enter node content visits)
  | execute scope router action =>
    exact quiet (lasting.operating.execute scope router action visits)
  | send command router => exact quiet (lasting.send command router visits)
  | flush => exact quiet ((lasting.operating.drain visits).bind (lasting.ended visits))
  | preload screens => exact quiet (lasting.preload screens named visits)
  | move step =>
    refine quiet ((lasting.move step (fun screen push => ?_) visits).bind (lasting.ended visits))
    subst push
    exact named screen (List.mem_singleton_self _)

end Lasting

end Session

end ScreenScript
