import ScreenScript.Proofs.Session.Reached

/-! # The view of the current screen

The router keeps screens and the session keeps views, each in a table of its own under the
identifiers of screens. A session answers one view for each identifier: that of the first screen
by it for which a view was asked. So the view of the current screen has the identifier of the
current screen, and it is of that very screen as long as no two screens by its identifier came
in. When one screen replaces another in the cache of the router, the view stays as it was.
-/

namespace ScreenScript

variable {H : Type}

namespace Session

open Eff World

/-- The session works with this view wherever it deals with the current screen: when it is asked
for the view, when the action of the screen is started, when the screen is shown, and when its
trailing button is tapped. -/
structure WorksWith (host : Host H) (screen : Screen) (view : View) (world next : World H) :
    Prop where
  viewed : viewOf screen world = .ok view next
  appears : ∀ node, view.waiting? = some node →
    appearInSession host screen.id view next =
      .ok true (after (execute host view.scope view.router (Action.ofNode view.screen.onAppear))
        (next.latched screen.id view))
  shown : ∀ rounds, showWithin host (rounds + 1) world =
    (do
      let started ← appearInSession host screen.id view
      let _ ← flush host
      if started then showWithin host rounds else render view : Eff H (List Node)) next
  tapped : tapTrailing host world =
    (match view.screen.trailingButton.map TrailingButton.action with
      | none | some .null => return ()
      | some action => trigger host Scopes.main (Action.ofNode action) : Eff H Unit) next

variable {brought : List Screen} {visits : List Visit} {world : World H}

private theorem worksWith_of_current (kept : Kept brought visits world) (host : Host H)
    {screen : Screen} (current : world.current? = some screen) :
    WorksWith host screen (world.viewFor screen) world (world.opened screen) where
  viewed := viewOf_eq screen world
  appears node waiting := by
    have visited := kept.visit (kept.mem_of_current current) none
    rw [(View.waiting?_eq_some waiting).2]
    exact appearInSession_of_waiting host screen.id visited.silent waiting
  shown rounds := by
    rw [showWithin_succ, current]
    simp only [showRound, bind_assoc, pure_bind]
    exact bind_of_ok (viewOf_eq screen world)
  tapped := by
    rw [tapTrailing, currentScreen?_bind, current]
    exact bind_of_ok (viewOf_eq screen world)

/-- The screen of the view is the first one by its identifier that was visited. -/
private theorem screen_viewFor (kept : Kept brought visits world) (screen : Screen) :
    (world.viewFor screen).screen =
      ((visits.map Visit.screen).find? fun other => other.id = screen.id).getD screen := by
  rw [← kept.viewed screen.id, viewFor]
  cases Keyed.get? world.views screen.id <;> rfl

/-- In every world that a session reaches, the view of the current screen has the identifier of
that screen. It is the view of the first screen by it that was visited, hence of the current one
unless another screen by its identifier came in. -/
theorem view_of_current (reached : Reached brought visits world) (host : Host H) {screen : Screen}
    (current : world.current? = some screen) :
    ∃ view next, WorksWith host screen view world next ∧
      view.screen.id = screen.id ∧
      view.screen =
        ((visits.map Visit.screen).find? fun other => other.id = screen.id).getD screen ∧
      ((∀ other ∈ brought, other.id = screen.id → other = screen) → view.screen = screen) := by
  have kept := kept_of_reached reached
  have first := screen_viewFor kept screen
  refine ⟨_, _, worksWith_of_current kept host current, ?_, first, fun alone => ?_⟩
  · have visited := kept.visit (kept.mem_of_current current) none
    have found : Keyed.get? (world.opened screen).views screen.id = some (world.viewFor screen) :=
      (get?_opened ..).trans (if_pos rfl)
    exact visited.id_of_view found
  · cases found : (visits.map Visit.screen).find? fun other => other.id = screen.id with
    | none =>
      rw [first, found]
      rfl
    | some other =>
      obtain ⟨visit, member, rfl⟩ := List.mem_map.mp (List.mem_of_find?_eq_some found)
      have same : visit.screen.id = screen.id := by
        simpa only [decide_eq_true_eq] using List.find?_some found
      rw [first, found]
      exact alone visit.screen (kept.visited visit member) same

/-- A screen with nothing but a title. -/
private def titled (title : String) : Screen :=
  ⟨"a", [], some ⟨title, .inline, none⟩, .null⟩

/-- A session that showed a screen, and whose router then came to show another one by the same
identifier. -/
private def replaced : World Unit :=
  after ((Operation.move (.reset (.text "a"))).perform .calm)
    (after ((Operation.preload [titled "New"]).perform .calm)
      (after ((Operation.showCurrent 0).perform .calm)
        (start [titled "Old"] default Registry.standard ())))

private theorem reached_replaced :
    Reached [titled "Old", titled "New"] [⟨titled "Old", none⟩] replaced :=
  .step (.step (.step (.start [titled "Old"] default Registry.standard ()) .calm (.showCurrent 0))
    .calm (.preload [titled "New"])) .calm (.move (.reset (.text "a")))

/-- The view of the replaced screen is answered for the one that replaced it. -/
theorem view_of_current_replaced :
    replaced.current? = some (titled "New") ∧
      ∃ view next, WorksWith .calm (titled "New") view replaced next ∧
        view.screen = titled "Old" := by
  obtain ⟨view, next, works, _, first, _⟩ := view_of_current reached_replaced .calm rfl
  exact ⟨rfl, view, next, works, first⟩

end Session

end ScreenScript
