import ScreenScript.Proofs.Frame
import ScreenScript.Proofs.Session.Operation

/-! # The sessions that can be reached

A session is reached by starting it on the screens of a document and operating it in any way that
its interface allows, one operation after another, each under a host of its own, so an alert may
be refused once and accepted the next time. An operation that fails keeps what it did before.
Nobody subscribes to anything here. Beside the world the history keeps the screens that were
brought in and the visits: every screen for which the session answered a view, with the action
that was started on its appearing. `Kept` is the invariant: the table of views is determined by
the visits, and a view counts as appeared only when its action was started on one of them.
-/

namespace ScreenScript

variable {H : Type}

namespace Eff

/-- A view that appears executes its action to the end while nobody listens. -/
theorem appearInSession_of_waiting (host : Host H) (id : String) {view : View} {node : Value}
    {world : World H} (silent : world.Silent) (waiting : view.waiting? = some node) :
    appearInSession host id view world =
      .ok true (after (execute host view.scope view.router (Action.ofNode node))
        (world.latched id view)) := by
  obtain ⟨next, ran⟩ := execute_succeeds host view.scope view.router (Action.ofNode node)
    (silent.latched id view)
  rw [appearInSession_of_some host id world waiting, after_of_ok ran, bind_of_ok ran]
  rfl

end Eff

namespace Session

open Eff World

/-- A world is reached by a session that was started on the screens of a document and then
operated, with the screens that came in and the visits on the way. -/
inductive Reached : List Screen → List Visit → World H → Prop
  | start (screens : List Screen) (settings : Settings) (registry : Registry) (host : H) :
      Reached screens [] (start screens settings registry host)
  | step {brought : List Screen} {visits : List Visit} {world : World H}
      (reached : Reached brought visits world) (host : Host H) (operation : Operation) :
      Reached (brought ++ operation.brings) (visits ++ operation.visits host world)
        (after (operation.perform host) world)

/-- The invariant of sessions. A screen has a view exactly when one by its identifier was visited,
and it is the view of the first one; a view that has appeared was started on a visit. -/
structure Kept (brought : List Screen) (visits : List Visit) (world : World H) : Prop where
  silent : world.Silent
  held : ∀ screen, (world.routers mainRouter).Holds screen → screen ∈ brought
  visited : ∀ visit ∈ visits, visit.screen ∈ brought
  viewed : ∀ id, (Keyed.get? world.views id).map View.screen =
    (visits.map Visit.screen).find? fun screen => screen.id = id
  appeared : ∀ id view, Keyed.get? world.views id = some view → view.appeared = true →
    ∃ visit ∈ visits, visit.screen.id = id ∧ visit.started = some view.screen.onAppear

namespace Kept

variable {brought : List Screen} {visits : List Visit} {world : World H}

theorem of_undisturbed {next : World H} (kept : Kept brought visits world)
    (undisturbed : Undisturbed world next) : Kept brought visits next where
  silent := undisturbed.silent kept.silent
  held screen held := kept.held screen (undisturbed.held _ screen held)
  visited := kept.visited
  viewed := undisturbed.views ▸ kept.viewed
  appeared := undisturbed.views ▸ kept.appeared

theorem of_within (kept : Kept brought visits world) {α : Type} {operation : Eff H α}
    (within : Within Undisturbed operation) : Kept brought visits (after operation world) :=
  kept.of_undisturbed (within world kept.silent)

theorem mono (kept : Kept brought visits world) {brought' : List Screen}
    (more : ∀ screen ∈ brought, screen ∈ brought') : Kept brought' visits world where
  silent := kept.silent
  held screen held := more screen (kept.held screen held)
  visited visit member := more visit.screen (kept.visited visit member)
  viewed := kept.viewed
  appeared := kept.appeared

theorem mem_of_current (kept : Kept brought visits world) {screen : Screen}
    (current : world.current? = some screen) : screen ∈ brought :=
  kept.held screen (Router.holds_of_current? current)

/-- The view of a screen identifier is that of a screen by this identifier. -/
theorem id_of_view (kept : Kept brought visits world) {id : String} {view : View}
    (found : Keyed.get? world.views id = some view) : view.screen.id = id := by
  have first := kept.viewed id
  rw [found] at first
  simpa only [decide_eq_true_eq] using List.find?_some first.symm

/-- A first visit gives the screen its view, and a later one finds the view that is there. -/
theorem visit (kept : Kept brought visits world) {screen : Screen} (known : screen ∈ brought)
    (started : Option Value) :
    Kept brought (visits ++ [⟨screen, started⟩]) (world.opened screen) where
  silent := kept.silent.opened screen
  held := by
    rw [routers_opened]
    exact kept.held
  visited visit member := by
    rcases List.mem_append.mp member with earlier | now
    · exact kept.visited visit earlier
    · rw [List.mem_singleton.mp now]
      exact known
  viewed id := by
    rw [get?_opened, List.map_append, List.find?_append, ← kept.viewed id]
    by_cases same : screen.id = id
    · subst same
      simp only [↓reduceIte, viewFor]
      cases found : Keyed.get? world.views screen.id with
      | none => simp [View.fresh]
      | some view => simp
    · simp [same]
  appeared id view found seen := by
    rw [get?_opened] at found
    have earlier : Keyed.get? world.views id = some view := by
      split at found
      next same =>
        subst same
        cases found
        exact get?_of_appeared seen
      next differ => exact found
    obtain ⟨visit, member, same⟩ := kept.appeared id view earlier seen
    exact ⟨visit, List.mem_append_left _ member, same⟩

/-- A view may count as appeared once a visit has started its action. -/
theorem latch (kept : Kept brought visits world) {screen : Screen} {view : View} {node : Value}
    (started : ⟨screen, some node⟩ ∈ visits)
    (found : Keyed.get? world.views screen.id = some view)
    (waiting : view.waiting? = some node) :
    Kept brought visits (world.latched screen.id view) where
  silent := kept.silent.latched screen.id view
  held := kept.held
  visited := kept.visited
  viewed id := by
    simp only [latched, Keyed.get?_put]
    split
    next same =>
      rw [← kept.viewed id, ← same, found]
      rfl
    · exact kept.viewed id
  appeared id other answered seen := by
    simp only [latched, Keyed.get?_put] at answered
    split at answered
    next same =>
      cases answered
      exact ⟨_, started, same, congrArg some (View.waiting?_eq_some waiting).2.symm⟩
    · exact kept.appeared id other answered seen

/-- Preloading brings in the screens that it puts into the cache. -/
theorem preload (kept : Kept brought visits world) (screens : List Screen) :
    Kept (brought ++ screens) visits (after (Eff.preload mainRouter screens) world) where
  silent := by
    refine ⟨kept.silent.scopes, fun id => ?_⟩
    change ((world.mapRouter mainRouter (·.preload screens)).routers id).listeners = []
    rw [routers_mapRouter]
    split <;> exact kept.silent.routers id
  held screen held := by
    have asked : ((world.routers mainRouter).preload screens).Holds screen := held
    exact List.mem_append.mpr ((Router.holds_of_preload asked).imp (kept.held screen) id)
  visited visit member := List.mem_append_left _ (kept.visited visit member)
  viewed := kept.viewed
  appeared := kept.appeared

/-- A move brings in the screen that it pushes, if it is a push. -/
theorem move (kept : Kept brought visits world) (step : Move) :
    Kept (brought ++ (Operation.move step).brings) visits (world.moved mainRouter step) where
  silent := by
    refine ⟨fun id => ?_, fun id => ?_⟩
    · rw [scopes_moved]
      exact kept.silent.scopes id
    · rw [listeners_moved]
      exact kept.silent.routers id
  held screen held := by
    rw [routers_moved, if_pos rfl] at held
    cases accepted : (world.routers mainRouter).move? step with
    | none =>
      rw [accepted] at held
      exact List.mem_append_left _ (kept.held screen held)
    | some next =>
      rw [accepted] at held
      rcases Router.holds_of_move? accepted held with before | pushed
      · exact List.mem_append_left _ (kept.held screen before)
      · subst pushed
        exact List.mem_append_right _ (List.mem_singleton_self _)
  visited visit member := List.mem_append_left _ (kept.visited visit member)
  viewed := by
    rw [views_moved]
    exact kept.viewed
  appeared := by
    rw [views_moved]
    exact kept.appeared

end Kept

/-- The invariant lasts as long as only screens are dealt with that were brought in. -/
theorem lasting_kept (host : Host H) (brought : List Screen) :
    Lasting host (· ∈ brought) (Kept brought) where
  operating := (operating_undisturbed host).sustains fun within _ _ kept => kept.of_within within
  send command router _ _ kept := kept.of_within (undisturbed_send command router)
  render view _ _ kept := kept.of_within (undisturbed_render view)
  preload screens known _ _ kept :=
    (kept.preload screens).mono fun screen member =>
      (List.mem_append.mp member).elim id (known screen)
  move step known _ world kept := by
    rw [after_of_ok (move_of_silent host (kept.silent.routers mainRouter) step)]
    refine (kept.move step).mono fun screen member => ?_
    rcases List.mem_append.mp member with before | pushed
    · exact before
    · cases step with
      | push other => exact List.mem_singleton.mp pushed ▸ known other rfl
      | _ => cases pushed
  current kept current := kept.mem_of_current current
  visit kept known := kept.visit known none
  start kept known waiting := by
    refine (kept.visit known _).latch ?_ (get?_opened_self _ _) waiting
    exact List.mem_append_right _ (List.mem_singleton_self _)

/-- The invariant holds when a session starts. -/
theorem kept_start (screens : List Screen) (settings : Settings) (registry : Registry) (host : H) :
    Kept screens [] (start screens settings registry host) := by
  have initial : Kept [] []
      (World.initial settings.initialData settings.alertTitle registry host) := {
    silent := silent_initial ..
    held := by
      rintro screen (onStack | modal | cached)
      · cases onStack
      · cases modal
      · cases cached
    visited := by
      intro visit member
      cases member
    viewed := fun _ => rfl
    appeared := by
      intro id view found
      cases found }
  have loaded := initial.preload screens
  unfold start
  split
  · exact loaded
  next id found =>
    have moved : Kept (screens ++ []) [] _ := loaded.move (.reset (.text id))
    rw [List.append_nil] at moved
    exact moved

/-- The invariant holds in every world that a session reaches. -/
theorem kept_of_reached {brought : List Screen} {visits : List Visit} {world : World H}
    (reached : Reached brought visits world) : Kept brought visits world := by
  induction reached with
  | start screens settings registry host => exact kept_start screens settings registry host
  | @step brought _ _ _ host operation kept =>
    have earlier := kept.mono fun screen => List.mem_append_left operation.brings
    exact (lasting_kept host _).perform operation
      (fun screen => List.mem_append_right brought) earlier

end Session

end ScreenScript
