import ScreenScript.Screen

/-! # Navigation

A router holds the screens it can show, the stack of screens that were navigated to and the
stack of screens that were presented over them. Both stacks have their top first. The last
screen of the navigation stack is its root, which going back never removes. The two stacks are
independent: a move touches one of them at most.

A move asks for a screen by any value. Only a text can be the identifier of a screen, so nothing
is cached for any other value.
-/

namespace ScreenScript

abbrev RouterId := Nat

/-- The state of navigation, with the names of those that listen to its changes. -/
structure Router where
  cache : List (String × Screen)
  stack : List Screen
  modals : List Screen
  listeners : List String
deriving Inhabited, Repr

inductive Move where
  -- On the navigation stack.
  | navigate (asked : Value)
  | goBack
  | reset (asked : Value)
  -- On the modal stack.
  | presentModal (asked : Value)
  | push (screen : Screen)
  | dismissModal
deriving Inhabited, Repr

namespace Router

def empty : Router := ⟨[], [], [], []⟩

/-- The cached screen that a value asks for. -/
def screen? (router : Router) (asked : Value) : Option Screen :=
  asked.text?.bind (Keyed.get? router.cache)

/-- The router with further screens in its cache. Of two with one identifier the later one is
kept. -/
def preload (router : Router) (screens : List Screen) : Router :=
  { router with
    cache := screens.foldl (fun cache screen => Keyed.put cache screen.id screen) router.cache }

/-- The screen to be shown: the top modal one, else the top of the navigation stack. -/
def current? (router : Router) : Option Screen :=
  router.modals.head? <|> router.stack.head?

/-- The router after a move, and nothing when the move is refused. -/
def move? (router : Router) : Move → Option Router
  | .navigate asked =>
    (router.screen? asked).map fun screen => { router with stack := screen :: router.stack }
  | .goBack =>
    match router.stack with
    | _ :: below :: rest => some { router with stack := below :: rest }
    -- The root is never removed.
    | _ => none
  -- Never refused: without a cached screen the stack is cleared.
  | .reset asked => some { router with stack := (router.screen? asked).toList }
  | .presentModal asked =>
    (router.screen? asked).map fun screen => { router with modals := screen :: router.modals }
  | .push screen => some { router with modals := screen :: router.modals }
  | .dismissModal =>
    match router.modals with
    | _ :: rest => some { router with modals := rest }
    | [] => none

/-- Whether a move does what it asks for. A reset to a screen that is not cached does not, though
it changes the router. -/
def succeeds (router : Router) : Move → Bool
  | .reset asked => (router.screen? asked).isSome
  | move => (router.move? move).isSome

/-- A move changes neither the cache nor the listeners. -/
theorem move?_keeps {router after : Router} {move : Move} (moved : router.move? move = some after) :
    after.cache = router.cache ∧ after.listeners = router.listeners := by
  unfold move? at moved
  split at moved
  case h_1 | h_4 =>
    obtain ⟨screen, _, rfl⟩ := Option.map_eq_some_iff.mp moved
    exact ⟨rfl, rfl⟩
  case h_2 | h_6 =>
    split at moved
    · cases moved
      exact ⟨rfl, rfl⟩
    · cases moved
  case h_3 | h_5 =>
    cases moved
    exact ⟨rfl, rfl⟩

end Router

end ScreenScript
