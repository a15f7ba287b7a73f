import ScreenScript.Proofs.Navigation.Stacks

/-! # What is opened and closed again leaves no trace

Navigating and going back are a pair of brackets on the navigation stack, and presenting and
dismissing are one on the modal stack. A word of brackets in which each is closed leaves a router
exactly as it was, and all its moves succeed: the screen that a move takes away is always one that
the word has put there, so going back never gets down to the root. Words of the two stacks may be
interleaved in any way, where the brackets of the one need not nest with those of the other. A
navigation stack without a root is excluded: what was navigated to first becomes the root there, and
stays. Those who listen may do anything but touch the router.
-/

namespace ScreenScript

variable {H : Type}

/-- The move that takes the topmost screen from a stack. -/
def Layer.close : Layer → Move
  | .navigation => .goBack
  | .modals => .dismissModal

theorem Layer.layer_close (layer : Layer) : layer.close.layer = layer := by
  cases layer <;> rfl

namespace Router

/-- The router with a further screen on one of its stacks. -/
def onto (router : Router) (screen : Screen) : Layer → Router
  | .navigation => { router with stack := screen :: router.stack }
  | .modals => { router with modals := screen :: router.modals }

/-- A move puts a screen onto one of the stacks. -/
inductive Opens (router : Router) : Layer → Move → Prop
  | navigate {asked : Value} {screen : Screen} (cached : router.screen? asked = some screen) :
      Opens router .navigation (.navigate asked)
  | presentModal {asked : Value} {screen : Screen} (cached : router.screen? asked = some screen) :
      Opens router .modals (.presentModal asked)
  | push (screen : Screen) : Opens router .modals (.push screen)

/-- Moves of one stack in which every screen that is put onto it is taken from it again. -/
inductive Balanced (router : Router) (layer : Layer) : List Move → Prop
  | nil : Balanced router layer []
  | bracket {opening : Move} {inside behind : List Move} (opens : router.Opens layer opening)
      (within : Balanced router layer inside) (rest : Balanced router layer behind) :
      Balanced router layer (opening :: (inside ++ layer.close :: behind))

/-- A stack is not too low to be taken from: the navigation stack has a root. -/
def Rooted (router : Router) (layer : Layer) : Prop :=
  layer = .navigation → router.stack ≠ []

/-- The router after moves, one after another. -/
abbrev playMoves (router : Router) (moves : List Move) : Router :=
  router.play (moves.map .move)

/-- Each of the moves succeeds, one after another. -/
def AllSucceed (router : Router) : List Move → Prop
  | [] => True
  | step :: rest =>
    router.answer (.move step) = step.report true ∧ (router.next (.move step)).AllSucceed rest

section

variable {router base : Router} {layer : Layer}

theorem playMoves_append (router : Router) (early late : List Move) :
    router.playMoves (early ++ late) = (router.playMoves early).playMoves late := by
  rw [playMoves, List.map_append, play_append]

theorem allSucceed_append {early late : List Move} :
    router.AllSucceed (early ++ late) ↔
      router.AllSucceed early ∧ (router.playMoves early).AllSucceed late := by
  induction early generalizing router with
  | nil => simp only [List.nil_append, AllSucceed, true_and, playMoves, List.map_nil, play_nil]
  | cons step rest ih =>
    rw [List.cons_append, AllSucceed, AllSucceed, ih, and_assoc]
    rfl

theorem Opens.layer_eq {opening : Move} (opens : base.Opens layer opening) :
    opening.layer = layer := by
  cases opens <;> rfl

theorem Balanced.layer_eq {moves : List Move} (balanced : base.Balanced layer moves) :
    ∀ step ∈ moves, step.layer = layer := by
  induction balanced with
  | nil => exact List.forall_mem_nil _
  | bracket opens _ _ inside behind =>
    exact List.forall_mem_cons.mpr ⟨opens.layer_eq, List.forall_mem_append.mpr
      ⟨inside, List.forall_mem_cons.mpr ⟨layer.layer_close, behind⟩⟩⟩

theorem rooted_onto (router : Router) (screen : Screen) (layer : Layer) :
    (router.onto screen layer).Rooted layer := by
  rintro rfl
  exact List.cons_ne_nil _ _

/-- A move that opens succeeds and puts one screen onto its stack. -/
theorem Opens.next_eq {opening : Move} (opens : base.Opens layer opening)
    (cache : router.cache = base.cache) :
    router.answer (.move opening) = opening.report true ∧
      ∃ screen, router.next (.move opening) = router.onto screen layer := by
  have found {asked : Value} {screen : Screen} (cached : base.screen? asked = some screen) :
      router.screen? asked = some screen := by
    rw [← cached, screen?, screen?, cache]
  cases opens with
  | navigate cached =>
    simp only [answer, succeeds, next, move?, found cached, Option.map_some, Option.isSome_some]
    exact ⟨trivial, _, rfl⟩
  | presentModal cached =>
    simp only [answer, succeeds, next, move?, found cached, Option.map_some, Option.isSome_some]
    exact ⟨trivial, _, rfl⟩
  | push screen => exact ⟨rfl, screen, rfl⟩

/-- Closing takes away what was put onto a stack last. -/
theorem close_onto (rooted : router.Rooted layer) (screen : Screen) :
    (router.onto screen layer).answer (.move layer.close) = layer.close.report true ∧
      (router.onto screen layer).next (.move layer.close) = router := by
  cases layer with
  | navigation =>
    -- The root is below the screen, so the screen is not the root itself.
    obtain ⟨cache, stack, modals, listeners⟩ := router
    obtain ⟨root, rest, rfl⟩ := List.exists_cons_of_ne_nil (rooted rfl)
    exact ⟨rfl, rfl⟩
  | modals => exact ⟨rfl, rfl⟩

/-- A balanced word succeeds on any router with the same screens cached, and restores it. -/
theorem Balanced.restores {moves : List Move} (balanced : base.Balanced layer moves)
    (cache : router.cache = base.cache) (rooted : router.Rooted layer) :
    router.AllSucceed moves ∧ router.playMoves moves = router := by
  induction balanced generalizing router with
  | nil => exact ⟨trivial, rfl⟩
  | @bracket opening inside behind opens _ _ within rest =>
    obtain ⟨opened, screen, put⟩ := opens.next_eq cache
    obtain ⟨closed, taken⟩ := close_onto rooted screen
    have cached : (router.onto screen layer).cache = base.cache := by
      cases layer <;> exact cache
    obtain ⟨inner, kept⟩ := within cached (router.rooted_onto screen layer)
    obtain ⟨later, restored⟩ := rest cache rooted
    constructor
    · rw [AllSucceed, put, allSucceed_append, kept, AllSucceed, taken]
      exact ⟨opened, inner, closed, later⟩
    · calc router.playMoves (opening :: (inside ++ layer.close :: behind))
          = (router.onto screen layer).playMoves (inside ++ layer.close :: behind) := by
            rw [playMoves, List.map_cons, play_cons, put]
        _ = (router.onto screen layer).playMoves (layer.close :: behind) := by
            rw [playMoves_append, kept]
        _ = router.playMoves behind := by
            rw [playMoves, List.map_cons, play_cons, taken]
        _ = router := restored

/-- Moves of the two stacks do to each stack, and answer, in any interleaving what they do and
answer alone. -/
theorem alike_interleaved {first second : Router} {other : Layer} {own foreign moves : List Move}
    (interleaved : Interleaves own foreign moves) (differ : layer ≠ other)
    (belong : ∀ step ∈ own, step.layer = layer) (apart : ∀ step ∈ foreign, step.layer = other)
    (here : Alike layer router first) (there : Alike other router second)
    (succeed : first.AllSucceed own) (succeed' : second.AllSucceed foreign) :
    router.AllSucceed moves ∧ Alike layer (router.playMoves moves) (first.playMoves own) ∧
      Alike other (router.playMoves moves) (second.playMoves foreign) := by
  induction interleaved generalizing router first second with
  | none => exact ⟨trivial, here, there⟩
  | @left _ _ _ step _ ih =>
    obtain ⟨rfl, belong⟩ := List.forall_mem_cons.mp belong
    obtain ⟨answered, succeed⟩ := succeed
    obtain ⟨moved, same⟩ := here.move
    obtain ⟨later, ends⟩ := ih belong apart moved ((Alike.skip differ).trans there) succeed succeed'
    exact ⟨⟨same.trans answered, later⟩, ends⟩
  | @right _ _ _ step _ ih =>
    obtain ⟨rfl, apart⟩ := List.forall_mem_cons.mp apart
    obtain ⟨answered, succeed'⟩ := succeed'
    obtain ⟨moved, same⟩ := there.move
    obtain ⟨later, ends⟩ := ih belong apart ((Alike.skip differ.symm).trans here) moved succeed
      succeed'
    exact ⟨⟨same.trans answered, later⟩, ends⟩

/-- A move does not change who listens. -/
theorem listeners_next (router : Router) (step : Move) :
    (router.next (.move step)).listeners = router.listeners := by
  rw [next]
  cases accepted : router.move? step with
  | none => rfl
  | some after => exact (move?_keeps accepted).2

theorem listeners_playMoves (router : Router) (moves : List Move) :
    (router.playMoves moves).listeners = router.listeners := by
  induction moves generalizing router with
  | nil => rfl
  | cons step rest ih => exact (ih _).trans (router.listeners_next step)

/-- Balanced words of the two stacks succeed in any interleaving, and restore the router. -/
theorem restored_of_interleaved {between modal moves : List Move} (filled : router.stack ≠ [])
    (navigates : router.Balanced .navigation between) (presents : router.Balanced .modals modal)
    (interleaved : Interleaves between modal moves) :
    router.AllSucceed moves ∧ router.playMoves moves = router := by
  obtain ⟨succeed, restored⟩ := navigates.restores rfl fun _ => filled
  obtain ⟨succeed', restored'⟩ := presents.restores rfl (nofun : router.Rooted .modals)
  obtain ⟨all, stack, modals⟩ := alike_interleaved interleaved (by decide) navigates.layer_eq
    presents.layer_eq (.refl _ router) (.refl _ router) succeed succeed'
  rw [restored] at stack
  rw [restored'] at modals
  have listeners := router.listeners_playMoves moves
  refine ⟨all, ?_⟩
  generalize router.playMoves moves = last at stack modals listeners
  obtain ⟨cache, _, _, _⟩ := last
  obtain ⟨_, _, _, _⟩ := router
  obtain ⟨rfl, rfl⟩ := stack
  obtain ⟨-, rfl⟩ := modals
  cases listeners
  rfl

end

end Router

/-- Those who are told that a router moved leave it alone. They may do anything else, and fail. -/
def Host.Onlookers (host : Host H) (id : RouterId) (names : List String) : Prop :=
  ∀ name ∈ names, ∀ current,
    Eff.Spares (fun world => world.routers id) (host.react name (.moved current))

namespace Eff

open Router

variable {host : Host H} {id : RouterId} {world : World H}

/-- A move that onlookers are told of makes of the router what it is, whether they fail or not. -/
theorem routers_operate_move (onlookers : host.Onlookers id (world.routers id).listeners)
    (step : Move) :
    (after (operate host id (.move step)) world).routers id =
      (world.routers id).next (.move step) := by
  let reached (world' : World H) : Prop :=
    world'.routers id = (world.routers id).next (.move step)
  have start : reached (world.moved id step) := by
    change (world.moved id step).routers id = _
    rw [World.routers_moved, if_pos rfl]
    rfl
  have told : Sustains reached
      (callAll host (fun world => .moved (((world.routers id).current?).map Screen.id))
        (if ((world.routers id).move? step).isSome then (world.routers id).listeners else [])) := by
    refine sustains_callAll_of_mem (fun _ _ holds => holds) fun name member current => ?_
    refine spares_iff.mp (onlookers name ?_ _) _
    split at member
    · exact member
    · cases member
  have moved : reached (after (move host id step) world) := by
    unfold after
    rw [move_eq]
    exact told.bind (fun _ => (Sustains.compositional reached).pure _) _ start
  exact Sustains.following moved fun _ => (Sustains.compositional reached).pure _

/-- Moves that onlookers are told of make of the router what they are. -/
theorem routers_operateAll_moves (onlookers : host.Onlookers id (world.routers id).listeners)
    (moves : List Move) :
    (operateAll host id (moves.map .move) world).routers id =
      (world.routers id).playMoves moves := by
  induction moves generalizing world with
  | nil => rfl
  | cons step rest ih =>
    have here := routers_operate_move onlookers step
    have listeners := congrArg Router.listeners here
    rw [listeners_next] at listeners
    have later := ih (listeners.symm ▸ onlookers)
    rw [here] at later
    exact later

/-- Moves that succeed on the router answer so, if those who are told of them do not fail. -/
theorem answers_of_allSucceed (onlookers : host.Onlookers id (world.routers id).listeners)
    (returns : ∀ name ∈ (world.routers id).listeners, ∀ current world,
      ∃ next, host.react name (.moved current) world = .ok () next)
    {moves : List Move} (succeed : (world.routers id).AllSucceed moves) :
    answers host id (moves.map .move) world =
      moves.map fun step => (.move step, .ok (step.report true)) := by
  induction moves generalizing world with
  | nil => rfl
  | cons step rest ih =>
    obtain ⟨answered, later⟩ := succeed
    have here := routers_operate_move onlookers step
    have listeners := congrArg Router.listeners here
    rw [listeners_next] at listeners
    rw [← here] at later
    have rest := ih (listeners.symm ▸ onlookers) (listeners.symm ▸ returns) later
    rw [List.map_cons, answers, result_operate_move returns, answered, rest, List.map_cons]

/-- Balanced words of the two stacks, interleaved in any way, leave a router with a root as it was:
both stacks, and with them the screen that is shown. Unless listeners fail, each move answers that
it succeeded. -/
theorem operateAll_of_balanced (filled : (world.routers id).stack ≠ [])
    {between modal moves : List Move}
    (navigates : (world.routers id).Balanced .navigation between)
    (presents : (world.routers id).Balanced .modals modal)
    (interleaved : Interleaves between modal moves)
    (onlookers : host.Onlookers id (world.routers id).listeners) :
    (operateAll host id (moves.map .move) world).routers id = world.routers id ∧
      ((∀ name ∈ (world.routers id).listeners, ∀ current world,
          ∃ next, host.react name (.moved current) world = .ok () next) →
        answers host id (moves.map .move) world =
          moves.map fun step => (.move step, .ok (step.report true))) := by
  obtain ⟨succeed, restored⟩ := restored_of_interleaved filled navigates presents interleaved
  refine ⟨?_, fun returns => answers_of_allSucceed onlookers returns succeed⟩
  rw [routers_operateAll_moves onlookers, restored]

/-- A host with one listener that fails as soon as it is told of something. -/
private def alarmed : Host Unit :=
  ⟨fun listener _ => if listener = "alarm" then throw .listenerFailed else pure (), .logging⟩

private def sheet (id : String) : Screen :=
  ⟨id, [], none, .null⟩

/-- A world whose router shows a screen over its root, and is listened to. -/
private def overlaid (listener : String) : World Unit :=
  operateAll alarmed World.mainRouter
    [.preload [sheet "a", sheet "b"], .move (.navigate (.text "a")),
      .move (.presentModal (.text "b")), .listen listener]
    (.initial [] "Alerta" [] ())

private def pages : List Move :=
  [.navigate (.text "b"), .goBack, .navigate (.text "a"), .goBack]

private def sheets : List Move :=
  [.push (sheet "c"), .presentModal (.text "a"), .dismissModal, .dismissModal]

/-- Brackets of one stack are closed inside brackets of the other that are not closed yet. -/
private def crossing : List Move :=
  [.navigate (.text "b"), .push (sheet "c"), .goBack, .presentModal (.text "a"),
    .navigate (.text "a"), .dismissModal, .dismissModal, .goBack]

private theorem crossing_interleaves : Interleaves pages sheets crossing :=
  .left _ (.right _ (.left _ (.right _ (.left _ (.right _ (.right _ (.left _ .none)))))))

/-- The root and the screen over it are shown again, also when a listener fails at each move. -/
theorem operateAll_of_balanced_crossing :
    ((operateAll alarmed World.mainRouter (crossing.map .move) (overlaid "log")).routers
        World.mainRouter).current? = some (sheet "b") ∧
      answers alarmed World.mainRouter (crossing.map .move) (overlaid "log") =
        crossing.map (fun step => (.move step, .ok (step.report true))) ∧
      ((operateAll alarmed World.mainRouter (crossing.map .move) (overlaid "alarm")).routers
        World.mainRouter).stack = [sheet "a"] := by
  have filled (listener : String) :
      ((overlaid listener).routers World.mainRouter).stack ≠ [] :=
    List.cons_ne_nil (sheet "a") []
  have lower (listener : String) : ((overlaid listener).routers World.mainRouter).screen?
      (.text "a") = some (sheet "a") := rfl
  have upper (listener : String) : ((overlaid listener).routers World.mainRouter).screen?
      (.text "b") = some (sheet "b") := rfl
  have navigates (listener : String) :
      ((overlaid listener).routers World.mainRouter).Balanced .navigation pages :=
    .bracket (.navigate (upper listener)) .nil (.bracket (.navigate (lower listener)) .nil .nil)
  have presents (listener : String) :
      ((overlaid listener).routers World.mainRouter).Balanced .modals sheets :=
    .bracket (.push (sheet "c")) (.bracket (.presentModal (lower listener)) .nil .nil) .nil
  have onlookers (listener : String) : alarmed.Onlookers World.mainRouter
      ((overlaid listener).routers World.mainRouter).listeners := by
    intro name _ current world
    simp only [alarmed]
    split <;> rfl
  have quiet : ∀ name ∈ ((overlaid "log").routers World.mainRouter).listeners, ∀ current world,
      ∃ next, alarmed.react name (.moved current) world = .ok () next := by
    intro name member current world
    obtain rfl : name = "log" := List.mem_singleton.mp member
    exact ⟨world, rfl⟩
  obtain ⟨restored, answered⟩ := operateAll_of_balanced (filled "log") (navigates "log")
    (presents "log") crossing_interleaves (onlookers "log")
  obtain ⟨restored', -⟩ := operateAll_of_balanced (filled "alarm") (navigates "alarm")
    (presents "alarm") crossing_interleaves (onlookers "alarm")
  exact ⟨by rw [restored]; rfl, answered quiet, by rw [restored']; rfl⟩

end Eff

end ScreenScript
