import ScreenScript.Proofs.Session.Reached

/-! # What showing the current screen returns

A round of showing picks the view of the current screen, lets it appear, and only then applies
the commands that wait. A round that starts an action is followed by another one, with nothing
left on the channel. A round that starts none ends with rendering, and nobody looks again at the
router: when commands were waiting from before, they may have moved it meanwhile. In that case,
and in no other, the screen that is rendered is not the current one. How long showing takes is
not bounded here.
-/

namespace ScreenScript

variable {H : Type}

namespace Session

open Eff World

/-- The nodes are the rendering of the view that the session keeps for a screen identifier, and
the action of that view, if it has one, was started on a visit. -/
def Rendered (visits : List Visit) (id : String) (nodes : List Node) (last : World H) : Prop :=
  ∃ view earlier, Keyed.get? last.views id = some view ∧ view.screen.id = id ∧
    (view.screen.onAppear = .null ∨
      ∃ visit ∈ visits, visit.screen.id = id ∧ visit.started = some view.screen.onAppear) ∧
    render view earlier = .ok nodes last

/-- The nodes are the rendering of the current screen, and none when there is none. -/
def ShowsCurrent (visits : List Visit) (nodes : List Node) (last : World H) : Prop :=
  match last.current? with
  | none => nodes = []
  | some screen => Rendered visits screen.id nodes last

/-- The commands that wait lead away from a current screen that has no action left to start. -/
structure Overtaken (host : Host H) (world : World H) (screen : Screen) : Prop where
  current : world.current? = some screen
  rested : (world.viewFor screen).waiting? = none
  away : ∃ applied next, drain host (world.opened screen) = .ok applied next ∧
    next.current?.map Screen.id ≠ some screen.id

/-- With nothing on the channel no screen is overtaken. -/
theorem not_overtaken_of_empty {host : Host H} {world : World H} (empty : world.channel.queue = [])
    (screen : Screen) : ¬Overtaken host world screen := by
  rintro ⟨current, _, applied, next, drained, away⟩
  have queue : (world.opened screen).channel.queue = [] := by
    rw [channel_opened]
    exact empty
  have still : next = world.opened screen := by
    cases serving : (world.opened screen).channel.serving with
    | true =>
      rw [drain_of_serving host serving] at drained
      cases drained
    | false =>
      rw [drain_of_empty host serving queue] at drained
      cases drained
      rfl
  rw [still, current?_opened, current] at away
  exact away rfl

section

variable {brought : List Screen} {visits : List Visit} {world last : World H}

/-- A round that starts nothing ends with the rendering of the view that it picked. -/
private theorem rendered_of_rested (kept : Kept brought visits world) {host : Host H}
    {screen : Screen} (current : world.current? = some screen)
    (rested : (world.viewFor screen).waiting? = none) {applied : Nat} {next : World H}
    (drained : drain host (world.opened screen) = .ok applied next) {nodes : List Node}
    (rendered : render (world.viewFor screen) next = .ok nodes last) :
    Rendered (visits ++ [⟨screen, none⟩]) screen.id nodes last := by
  have visited := kept.visit (kept.mem_of_current current) none
  have flushed := undisturbed_drain host _ visited.silent
  have drawn := undisturbed_render (world.viewFor screen) next
  rw [after_of_ok drained] at flushed
  rw [after_of_ok rendered] at drawn
  have views := (drawn (flushed.silent visited.silent)).views.trans flushed.views
  have found := get?_opened_self world screen
  refine ⟨_, next, views ▸ found, visited.id_of_view found, ?_, rendered⟩
  rcases View.waiting?_eq_none rested with none | seen
  · exact .inl none
  · exact .inr (visited.appeared screen.id _ found seen)

/-- The last round shows the current screen, unless the commands that waited led away from it. -/
private theorem shows_of_rested (kept : Kept brought visits world) {host : Host H}
    {screen : Screen} (current : world.current? = some screen)
    (rested : (world.viewFor screen).waiting? = none) {applied : Nat} {next : World H}
    (drained : drain host (world.opened screen) = .ok applied next) {nodes : List Node}
    (rendered : render (world.viewFor screen) next = .ok nodes last) :
    ((∀ screen, ¬Overtaken host world screen) →
      ShowsCurrent (visits ++ [⟨screen, none⟩]) nodes last) ∧
    ∀ screen', Overtaken host world screen' →
      Rendered (visits ++ [⟨screen, none⟩]) screen'.id nodes last ∧
        last.current?.map Screen.id ≠ some screen'.id := by
  have shows := rendered_of_rested kept current rested drained rendered
  have still : last.current? = next.current? := by
    unfold World.current?
    rw [routers_of_render rendered]
  refine ⟨fun stays => ?_, fun screen' overtaken => ?_⟩
  · have same : next.current?.map Screen.id = some screen.id :=
      Decidable.byContradiction fun away =>
        stays screen ⟨current, rested, applied, next, drained, away⟩
    obtain ⟨found, currently, same⟩ := Option.map_eq_some_iff.mp same
    simp only [ShowsCurrent, still, currently, same]
    exact shows
  · cases current.symm.trans overtaken.current
    obtain ⟨_, _, drained', away⟩ := overtaken.away
    cases drained.symm.trans drained'
    rw [still]
    exact ⟨shows, away⟩

/-- A round leaves nothing on the channel. -/
theorem queue_of_showRound (silent : world.Silent) {host : Host H} {screen : Screen}
    {view : View} {started : Bool} {next : World H}
    (ran : showRound host screen world = .ok (view, started) next) : next.channel.queue = [] := by
  rcases (showRound_cases ran).2 with
    ⟨node, middle, applied, _, _, executed, drained⟩ | ⟨_, _, applied, drained⟩
  · have latched := (silent.opened screen).latched screen.id view
    have undisturbed :=
      undisturbed_execute host view.scope view.router (Action.ofNode node) _ latched
    rw [after_of_ok executed] at undisturbed
    exact queue_of_drain (undisturbed.silent latched) drained
  · exact queue_of_drain (silent.opened screen) drained

/-- What the rounds of showing return, from any world that keeps the invariant. -/
private theorem shows_of_showWithin (host : Host H) (rounds : Nat) {visits : List Visit}
    {world : World H} (kept : Kept brought visits world) {nodes : List Node}
    (shown : Eff.showWithin host rounds world = .ok nodes last) :
    ((∀ screen, ¬Overtaken host world screen) →
      ShowsCurrent (visits ++ visitsWithin host rounds world) nodes last) ∧
    ∀ screen, Overtaken host world screen →
      Rendered (visits ++ visitsWithin host rounds world) screen.id nodes last ∧
        last.current?.map Screen.id ≠ some screen.id := by
  induction rounds generalizing visits world with
  | zero => cases shown
  | succ rounds ih =>
    rw [showWithin_succ] at shown
    rw [visitsWithin]
    cases current : world.current? with
    | none =>
      rw [current] at shown
      cases shown
      refine ⟨fun _ => ?_, fun screen overtaken => ?_⟩
      · simp only [ShowsCurrent, current]
      · rw [overtaken.current] at current
        cases current
    | some screen =>
      rw [current] at shown
      obtain ⟨⟨view, started⟩, next, ran, shown⟩ := bind_eq_ok_iff.mp shown
      simp only [ran]
      obtain ⟨rfl, ⟨node, _, _, rfl, waiting, _, _⟩ | ⟨rfl, rested, applied, drained⟩⟩ :=
        showRound_cases ran
      · -- The next round starts with nothing on the channel.
        simp only [↓reduceIte] at shown
        have round := (lasting_kept host brought).round kept current
        rw [after_of_ok ran] at round
        have rest := (ih round shown).1
          (not_overtaken_of_empty (queue_of_showRound kept.silent ran))
        rw [List.append_assoc] at rest
        refine ⟨fun _ => rest, fun other overtaken => ?_⟩
        cases current.symm.trans overtaken.current
        cases overtaken.rested.symm.trans waiting
      · simp only [Bool.false_eq_true, ↓reduceIte] at shown
        rw [rested]
        exact shows_of_rested kept current rested drained shown

/-- Showing returns the rendering of the screen that is current in the end, unless the commands
that waited led away from a screen that had nothing left to start. Then it returns the rendering
of the screen that they led away from. The visits at which actions were started are those that the
operations made, by what they executed. -/
theorem shows_of_showCurrent (reached : Reached brought visits world) (host : Host H)
    (more : Nat) {nodes : List Node} (shown : showCurrent host more world = .ok nodes last) :
    (∀ (host : Host H) (operation : Operation) (world : World H), operation.perform host world =
      operation.replay host (operation.visits host world) world) ∧
    ((∀ screen, ¬Overtaken host world screen) →
      ShowsCurrent (visits ++ visitsWithin host (showRounds world + more) world) nodes last) ∧
    ∀ screen, Overtaken host world screen →
      Rendered (visits ++ visitsWithin host (showRounds world + more) world) screen.id nodes
          last ∧
        last.current?.map Screen.id ≠ some screen.id :=
  ⟨Operation.perform_eq_replay,
    shows_of_showWithin host (showRounds world + more) (kept_of_reached reached) shown⟩

end

private def page (id text : String) : Screen :=
  ⟨id, [[("type", .text "text"), ("value", .text text)]], none, .null⟩

/-- An action executed beside the session, which leaves its command on the channel. -/
private def turnPage : Operation :=
  .execute Scopes.main (some mainRouter) (.single (.command "navigate" [("screen", .text "b")]))

/-- A session on the first of two pages, where a command to turn the page waits. -/
private def turning : World Unit :=
  after (turnPage.perform Host.calm)
    (start [page "a" "first", page "b" "second"] default Registry.standard ())

/-- The page that is turned away is the one that is shown. -/
theorem shows_of_showCurrent_turning :
    ∃ nodes last, showCurrent .calm 0 turning = .ok nodes last ∧
      Rendered (visitsWithin .calm (showRounds turning + 0) turning) "a" nodes last ∧
      nodes.map (fun node : Node => Fields.text? node.face.props "value") = [some "first"] ∧
      last.current?.map Screen.id = some "b" ∧
      ¬ShowsCurrent (visitsWithin .calm (showRounds turning + 0) turning) nodes last := by
  have reached : Reached [page "a" "first", page "b" "second"] [] turning :=
    .step (.start [page "a" "first", page "b" "second"] default Registry.standard ()) .calm turnPage
  have overtaken : Overtaken .calm turning (page "a" "first") :=
    ⟨rfl, rfl, 1, _, rfl, by decide⟩
  refine ⟨_, _, rfl, ?_, rfl, rfl, ?_⟩
  · exact ((shows_of_showCurrent reached .calm 0 rfl).2.2 _ overtaken).1
  · rintro ⟨view, _, found, _⟩
    cases found

end Session

end ScreenScript
