import ScreenScript.Proofs.Rendering.Seen
import ScreenScript.Proofs.Scope.Operations
import ScreenScript.Proofs.Session.Showing
import ScreenScript.Proofs.Session.Termination

/-! # Showing a session that is at rest

A session is at rest when nothing waits on its channel and the current screen has no action left
to start. To show it is then only to render the view of this screen, and that leaves it at rest.
Showing a session on whose channel nothing waits ends at rest, wherever the actions for the first
appearance lead on the way, so whoever shows it again sees the same and changes nothing but the
scopes of the rows, which are new each time, and the log. The views of a session stand in its main
scope, which is what keeps the new scopes out of what is rendered; listeners may do what they like
as long as they respect this, and nobody listens while the session is shown.
-/

namespace ScreenScript

open Scenario (seeAll)

variable {H : Type}

namespace World

/-- No scope went out of use, and the views that came in stand in the main scope. -/
structure Orderly (before after : World H) : Prop where
  grown : before.scopes.next ≤ after.scopes.next
  viewed : ∀ {id view}, Keyed.get? after.views id = some view → view.scope = Scopes.main ∨
    ∃ earlier, Keyed.get? before.views id = some earlier ∧ earlier.scope = view.scope

namespace Orderly

theorem of_views {before after : World H} (views : after.views = before.views)
    (grown : before.scopes.next ≤ after.scopes.next) : before.Orderly after where
  grown := grown
  viewed found := .inr ⟨_, views ▸ found, rfl⟩

theorem refl (world : World H) : world.Orderly world :=
  .of_views rfl (Nat.le_refl _)

theorem trans {first middle last : World H} (left : first.Orderly middle)
    (right : middle.Orderly last) : first.Orderly last where
  grown := Nat.le_trans left.grown right.grown
  viewed found := by
    rcases right.viewed found with main | ⟨earlier, there, same⟩
    · exact .inl main
    · rw [← same]
      exact left.viewed there

end Orderly

/-- The main scope is in use, and the views of the session stand in it. -/
structure Placed (world : World H) : Prop where
  used : Scopes.main < world.scopes.next
  viewed : ∀ {id view}, Keyed.get? world.views id = some view → view.scope = Scopes.main

namespace Placed

variable {world next : World H}

theorem of_orderly (placed : world.Placed) (orderly : world.Orderly next) : next.Placed where
  used := Nat.lt_of_lt_of_le placed.used orderly.grown
  viewed found := by
    rcases orderly.viewed found with main | ⟨earlier, there, same⟩
    · exact main
    · rw [← same]
      exact placed.viewed there

theorem scope_viewFor (placed : world.Placed) (screen : Screen) :
    (world.viewFor screen).scope = Scopes.main := by
  unfold viewFor
  cases found : Keyed.get? world.views screen.id with
  | none => rfl
  | some view => exact placed.viewed found

theorem opened (placed : world.Placed) (screen : Screen) : (world.opened screen).Placed where
  used := by
    rw [scopes_opened]
    exact placed.used
  viewed {id view} found := by
    rw [get?_opened] at found
    split at found
    · cases found
      exact placed.scope_viewFor screen
    · exact placed.viewed found

theorem latched (placed : world.Placed) (id : String) {view : View}
    (main : view.scope = Scopes.main) : (world.latched id view).Placed where
  used := placed.used
  viewed {other seen} found := by
    simp only [World.latched, Keyed.get?_put] at found
    split at found
    · cases found
      exact main
    · exact placed.viewed found

end Placed

/-- Nothing waits on the channel, which nobody serves, and the current screen has a view with no
action left to start. -/
structure Rests (world : World H) : Prop where
  unserved : world.channel.serving = false
  empty : world.channel.queue = []
  started : ∀ {screen}, world.current? = some screen →
    ∃ view, Keyed.get? world.views screen.id = some view ∧ view.waiting? = none

theorem Rests.of_still {world next : World H} (rests : world.Rests) (still : world.Still next) :
    next.Rests where
  unserved := still.channel ▸ rests.unserved
  empty := still.channel ▸ rests.empty
  started current := by
    rw [current?, still.routers] at current
    rw [still.views]
    exact rests.started current

end World

namespace Eff

open World

variable {α : Type} {host : Host H} {world next : World H} {screen : Screen}

/-- Renders the current screen in the view that the session has for it. -/
def renderCurrent : Eff H (List Node) := do
  let world ← get
  match world.current? with
  | none => return []
  | some screen => render (world.viewFor screen)

theorem renderCurrent_eq (world : World H) :
    renderCurrent world =
      match world.current? with
      | none => .ok [] world
      | some screen => render (world.viewFor screen) world := by
  rw [renderCurrent, get_bind]
  cases world.current? <;> rfl

/-- Showing a session at rest is rendering. -/
theorem showWithin_of_rests (rests : world.Rests) (host : Host H) (rounds : Nat) :
    showWithin host (rounds + 1) world = renderCurrent world := by
  rw [showWithin_succ, renderCurrent_eq]
  cases current : world.current? with
  | none => rfl
  | some screen =>
    obtain ⟨view, found, rested⟩ := rests.started current
    have same := viewFor_of_found found
    have round : showRound host screen world = .ok (view, false) world := by
      rw [showRound, bind_of_ok (viewOf_eq screen world), opened_of_found found, same,
        bind_of_ok (appearInSession_of_rested host screen.id rested)]
      exact bind_of_ok (drain_of_empty host rests.unserved rests.empty)
    simp only [bind_of_ok round, same, Bool.false_eq_true, ↓reduceIte]

theorem showCurrent_of_rests (rests : world.Rests) (host : Host H) (more : Nat) :
    showCurrent host more world = renderCurrent world := by
  have positive := card_awaiting_lt_showRounds world
  obtain ⟨rounds, same⟩ : ∃ rounds, showRounds world + more = rounds + 1 :=
    ⟨showRounds world + more - 1, by omega⟩
  change showWithin host (showRounds world + more) world = _
  rw [same]
  exact showWithin_of_rests rests host rounds

/-- A round in which nobody listens leaves the views of the session in the main scope. -/
theorem placed_showRound {view : View} {started : Bool} (silent : world.Silent)
    (placed : world.Placed) (ran : showRound host screen world = .ok (view, started) next) :
    next.Placed := by
  obtain ⟨rfl, ⟨node, middle, applied, _, _, executed, drained⟩ | ⟨_, _, applied, drained⟩⟩ :=
    showRound_cases ran
  · have latched := (silent.opened screen).latched screen.id (world.viewFor screen)
    have confined := confined_execute host (world.viewFor screen).scope
      (world.viewFor screen).router (Action.ofNode node) _ latched
    rw [after_of_ok executed] at confined
    have flushed := drained_drain host middle (confined.silent latched)
    rw [after_of_ok drained] at flushed
    refine ((placed.opened screen).latched screen.id (placed.scope_viewFor screen)).of_orderly ?_
    refine .of_views (flushed.views.trans confined.views) ?_
    rw [flushed.scopes, confined.next]
  · have flushed := drained_drain host _ (silent.opened screen)
    rw [after_of_ok drained] at flushed
    refine (placed.opened screen).of_orderly (.of_views flushed.views ?_)
    rw [flushed.scopes]

/-- The loop of showing ends at rest when nothing waits at its start. -/
theorem Loops.exists_rests (agreeable : host.presenter.Agreeable) {rounds : Nat}
    {outcome : EStateM.Result Failure (World H) (List Node)}
    (loops : Loops host rounds world outcome) (docile : world.Docile) (placed : world.Placed)
    (empty : world.channel.queue = []) :
    ∃ middle : World H, middle.Rests ∧ middle.Placed ∧ outcome = renderCurrent middle := by
  induction loops with
  | @blank world nothing =>
    refine ⟨world, ⟨docile.unserved, empty, ?_⟩, placed, ?_⟩
    · intro screen current
      cases nothing.symm.trans current
    · rw [renderCurrent_eq, nothing]
  | @failed _ _ screen _ _ ran =>
    obtain ⟨shown, next, ran', _⟩ := showRound_succeeds agreeable docile screen
    cases ran.symm.trans ran'
  | @settled world next screen view current ran =>
    obtain ⟨rfl, ⟨_, _, _, started, _⟩ | ⟨_, rested, applied, drained⟩⟩ := showRound_cases ran
    · cases started
    · have queue : (world.opened screen).channel.queue = [] := by
        rw [channel_opened]
        exact empty
      have unserved := (docile.opened screen).unserved
      rw [drain_of_empty host unserved queue] at drained
      cases drained
      have currently := (current?_opened world screen).trans current
      have found := get?_opened_self world screen
      refine ⟨world.opened screen, ⟨unserved, queue, ?_⟩, placed.opened screen, ?_⟩
      · intro other shown
        cases currently.symm.trans shown
        exact ⟨_, found, rested⟩
      · rw [renderCurrent_eq, currently]
        simp only [viewFor_of_found found]
  | @again _ next screen _ _ _ current ran later ih =>
    obtain ⟨shown, next, ran', still⟩ := showRound_succeeds agreeable docile screen
    cases ran.symm.trans ran'
    exact ih still (placed_showRound docile.silent placed ran)
      (Session.queue_of_showRound docile.silent ran)

/-- Showing a session on whose channel nothing waits is rendering it once it is at rest. -/
theorem exists_rests (agreeable : host.presenter.Agreeable) (silent : world.Silent)
    (unserved : world.channel.serving = false) (empty : world.channel.queue = [])
    (placed : world.Placed) :
    ∃ middle : World H, middle.Rests ∧ middle.Placed ∧
      ∀ more, showCurrent host more world = renderCurrent middle := by
  have docile : world.Docile := by
    refine ⟨silent, unserved, ?_⟩
    rw [empty]
    intro envelope member
    cases member
  obtain ⟨rounds, outcome, within, loops⟩ :=
    exists_loops host (world.awaiting.card + 1) silent (Nat.lt_succ_self _)
  obtain ⟨middle, rests, there, same⟩ := loops.exists_rests agreeable docile placed empty
  refine ⟨middle, rests, there, ?_⟩
  intro more
  have bounded := card_awaiting_lt_showRounds world
  have enough : rounds ≤ showRounds world + more := by omega
  rw [← same]
  exact loops.showWithin_eq enough

/-- Rendering the current screen leaves it as it looks, and a session at rest at rest. -/
theorem renderCurrent_repeats (rests : world.Rests) (placed : world.Placed) :
    ∃ nodes next nodes' last, renderCurrent world = .ok nodes next ∧ next.Rests ∧ next.Placed ∧
      renderCurrent next = .ok nodes' last ∧ next.Still last ∧
      seeAll last nodes' = seeAll next nodes ∧ seeAll last nodes = seeAll next nodes := by
  rw [renderCurrent_eq]
  cases current : world.current? with
  | none =>
    refine ⟨[], world, [], world, rfl, rests, placed, ?_, .refl world, rfl, rfl⟩
    rw [renderCurrent_eq, current]
  | some screen =>
    have used : (world.viewFor screen).scope < world.scopes.next := by
      rw [placed.scope_viewFor screen]
      exact placed.used
    obtain ⟨nodes, next, first⟩ := render_succeeds (world.viewFor screen) world
    obtain ⟨nodes', last, second⟩ := render_succeeds (world.viewFor screen) next
    have still := still_of_render used first
    have there := Nat.lt_of_lt_of_le used still.scopes.next
    have currently : next.current? = some screen := by
      rw [current?, still.routers]
      exact current
    have same : next.viewFor screen = world.viewFor screen := by
      rw [viewFor, still.views]
      rfl
    refine ⟨nodes, next, nodes', last, first, rests.of_still still, ?_, ?_,
      still_of_render there second, seeAll_of_render_render used first second⟩
    · exact placed.of_orderly (.of_views still.views still.scopes.next)
    · rw [renderCurrent_eq, currently]
      simp only [same]
      exact second

/-- An operation is orderly in every world, whether it succeeds or fails. -/
def Orderly (operation : Eff H α) : Prop :=
  ∀ world : World H, world.Orderly (after operation world)

theorem Orderly.sustains {operation : Eff H α} (orderly : Orderly operation) (base : World H) :
    Sustains base.Orderly operation :=
  fun world before => before.trans (orderly world)

theorem Orderly.compositional : Compositional (H := H) fun _ operation => Orderly operation where
  pure _ world := .refl world
  throw _ world := .refl world
  bind first second world :=
    Sustains.following (first world) fun result => (second result).sustains world

end Eff

/-- Whatever the listeners do is orderly. They may write, move routers, send commands, ask for views
and fail. -/
def Host.Orderly (host : Host H) : Prop :=
  ∀ listener event, Eff.Orderly (host.react listener event)

namespace Eff

open World

variable {host : Host H}

private theorem untouched_orderly (base : World H) (router : Option RouterId) :
    Untouched base.Orderly router where
  logged _ _ _ orderly := orderly.trans (.of_views rfl (Nat.le_refl _))
  shown _ _ orderly := orderly.trans (.of_views rfl (Nat.le_refl _))
  called _ _ orderly := orderly.trans (.of_views rfl (Nat.le_refl _))
  moved _ _ _ _ orderly := orderly.trans (.of_views rfl (Nat.le_refl _))

/-- Moving a router is orderly under listeners that are. -/
theorem orderly_move (orderly : host.Orderly) (router : RouterId) (step : Move) :
    Orderly (move host router step) :=
  fun world => sustains_move (untouched_orderly world (some router))
    (fun listener event => (orderly listener event).sustains world) rfl step world (.refl world)

/-- Actions and drains are orderly under listeners that are. -/
theorem operating_orderly (orderly : host.Orderly) :
    Operating host fun _ operation => Orderly operation where
  toCompositional := Orderly.compositional
  get world := .refl world
  log _ _ := .of_views rfl (Nat.le_refl _)
  write scope path value world := by
    simp only [after, write_eq]
    refine sustains_callAll (fun _ _ before => before.trans (.of_views rfl (Nat.le_refl _)))
      (fun listener event => (orderly listener event).sustains world) _ _ _ ?_
    refine .of_views (views_stored world scope path value) ?_
    rw [next_stored]
  send _ _ _ _ := .of_views rfl (Nat.le_refl _)
  take world := by
    cases queue : world.channel.queue with
    | nil =>
      rw [after_of_ok (take_of_nil queue)]
      exact .refl world
    | cons entry rest =>
      rw [after_of_ok (take_of_cons queue)]
      exact .of_views rfl (Nat.le_refl _)
  apply envelope world := sustains_apply (untouched_orderly world envelope.router)
    (fun listener event => (orderly listener event).sustains world) world (.refl world)

theorem orderly_render (view : View) : Orderly (render (H := H) view) :=
  fun world => .of_views rfl (Scopes.next_le_placeAll view.scope _ world.scopes)

end Eff

namespace Session

open Eff World

/-- That the views of the session stand in the main scope lasts under every orderly host. -/
theorem lasting_placed {host : Host H} (orderly : host.Orderly) :
    Lasting host (fun _ => True) fun _ world => world.Placed where
  operating := (operating_orderly orderly).sustains
    fun orderly (_ : List Visit) world placed => placed.of_orderly (orderly world)
  send _ _ _ _ placed := placed.of_orderly (.of_views rfl (Nat.le_refl _))
  render view _ world placed := placed.of_orderly (orderly_render view world)
  preload _ _ _ _ placed := placed.of_orderly (.of_views rfl (Nat.le_refl _))
  move step _ _ world placed := placed.of_orderly (orderly_move orderly mainRouter step world)
  current _ _ := trivial
  visit placed _ := placed.opened _
  start placed _ _ := (placed.opened _).latched _ (placed.scope_viewFor _)

/-- A session arises by starting it and operating it, under any hosts with orderly listeners, while
anything orderly may happen beside it, such as that somebody starts or ceases to listen, that the
channel is served or closed, or that scopes are forked and other views rendered. -/
inductive Arises : World H → Prop
  | start (screens : List Screen) (settings : Settings) (registry : Registry) (host : H) :
      Arises (start screens settings registry host)
  | step {world : World H} (arises : Arises world) {host : Host H} (orderly : host.Orderly)
      (operation : Operation) : Arises (after (operation.perform host) world)
  | beside {world next : World H} (arises : Arises world) (orderly : world.Orderly next) :
      Arises next

theorem placed_start (screens : List Screen) (settings : Settings) (registry : Registry)
    (host : H) : (start screens settings registry host).Placed := by
  have initial : (World.initial settings.initialData settings.alertTitle registry host).Placed := by
    refine ⟨Nat.lt_succ_self _, ?_⟩
    intro id view found
    cases found
  unfold start
  split
  · exact initial.of_orderly (.of_views rfl (Nat.le_refl _))
  · exact initial.of_orderly (.of_views rfl (Nat.le_refl _))

/-- The views of a session stand in its main scope. -/
theorem placed_of_arises {world : World H} (arises : Arises world) : world.Placed := by
  induction arises with
  | start screens settings registry host => exact placed_start screens settings registry host
  | step _ orderly operation placed =>
    have lasting := lasting_placed orderly
    exact @Lasting.perform H _ _ _ [] _ lasting operation (fun _ _ => trivial) placed
  | beside _ orderly placed => exact placed.of_orderly orderly

/-- A session on whose channel nothing waits, which nobody serves and where nobody listens, is
shown twice. Both times there are nodes, and they look the same. The second time nothing changes
but the scopes that are taken into use and the log: neither the data of the scopes that were in
use, the main one among them, nor the stacks, the channel, the alerts, or what the views keep. -/
theorem showCurrent_showCurrent {world : World H} (arises : Arises world) (silent : world.Silent)
    (unserved : world.channel.serving = false) (empty : world.channel.queue = [])
    {host : Host H} (agreeable : host.presenter.Agreeable) :
    ∃ nodes next, (∀ more, showCurrent host more world = .ok nodes next) ∧
      ∃ nodes' last, (∀ (host' : Host H) (more : Nat),
          showCurrent host' more next = .ok nodes' last) ∧
        seeAll last nodes' = seeAll next nodes ∧
        seeAll last nodes = seeAll next nodes ∧
        next.Still last ∧ last.data Scopes.main = next.data Scopes.main := by
  obtain ⟨middle, rests, placed, shown⟩ :=
    exists_rests agreeable silent unserved empty (placed_of_arises arises)
  obtain ⟨nodes, next, nodes', last, first, rests', placed', second, still, alike, as_before⟩ :=
    renderCurrent_repeats rests placed
  refine ⟨nodes, next, ?_, nodes', last, ?_, alike, as_before, still, still.data placed'.used⟩
  · intro more
    rw [shown, first]
  · intro host' more
    rw [showCurrent_of_rests rests', second]

/-- A cover that leads to the shelf when it appears. -/
private def cover : Screen :=
  ⟨"cover", [], none, .mapping [("action", .text "navigate"),
    ("params", .mapping [("screen", .text "shelf")])]⟩

/-- A list of boxes, each with an input for its label and a list of its books. -/
private def shelf : Screen :=
  ⟨"shelf", [[("type", .text "list"), ("items", .mapping [("var", .text "boxes")]),
    ("rowComponents", .list [
      .mapping [("type", .text "input"), ("bind", .text "label")],
      .mapping [("type", .text "list"), ("items", .mapping [("var", .text "books")]),
        ("rowComponents", .list [
          .mapping [("type", .text "text"), ("value", .text "$label: $title")]])]])]], none, .null⟩

/-- One box with one book. -/
private def boxes : Settings :=
  { (default : Settings) with
    initialData := [("boxes", .list [.mapping [("label", .text "A"),
      ("books", .list [.mapping [("title", .text "Mensagem")]])]])] }

/-- A session on the cover, where somebody listened for a while. -/
private def library : World Unit :=
  after (unsubscribe Scopes.main "log") (after (subscribe Scopes.main "log")
    (start [cover, shelf] boxes Registry.standard ()))

private theorem silent_library : library.Silent := by
  have started := (kept_start [cover, shelf] boxes Registry.standard ()).silent
  refine ⟨?_, started.routers⟩
  intro id
  by_cases main : id = Scopes.main
  · rw [main]
    rfl
  · change (if id = Scopes.main then _ else if id = Scopes.main then _ else
      (start [cover, shelf] boxes Registry.standard ()).scopes.get id).listeners = []
    rw [if_neg main, if_neg main]
    exact started.scopes id

/-- The cover leads to the shelf the first time, and the shelf is shown both times, with a scope for
the box and one for the book that are new each time. -/
theorem showCurrent_showCurrent_library :
    Arises library ∧ library.Silent ∧ library.channel.serving = false ∧
    library.channel.queue = [] ∧
    ∃ nodes next, showCurrent .calm 0 library = .ok nodes next ∧
      next.current?.map Screen.id = some "shelf" ∧
      (Node.birthsOf Scopes.main nodes).map Birth.scope = [1, 2] ∧
      ∃ nodes' last, showCurrent .calm 0 next = .ok nodes' last ∧
        seeAll last nodes' = seeAll next nodes ∧
        (Node.birthsOf Scopes.main nodes').map Birth.scope = [3, 4] := by
  have arises : Arises library :=
    .beside (.beside (.start [cover, shelf] boxes Registry.standard ())
      (.of_views rfl (Nat.le_refl _))) (.of_views rfl (Nat.le_refl _))
  have calm : (Host.calm : Host Unit).presenter.Agreeable := fun _ _ => rfl
  obtain ⟨nodes, next, first, nodes', last, second, alike, -⟩ :=
    showCurrent_showCurrent arises silent_library rfl rfl calm
  refine ⟨arises, silent_library, rfl, rfl, nodes, next, first 0, ?_, ?_, nodes', last,
    second .calm 0, alike, ?_⟩
  · rw [← after_of_ok (first 0)]
    rfl
  · cases first 0
    rfl
  · cases first 0
    cases second .calm 0
    rfl

end Session

end ScreenScript
