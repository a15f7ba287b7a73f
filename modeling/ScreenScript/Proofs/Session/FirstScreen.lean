import ScreenScript.Proofs.Expression.Unambiguous
import ScreenScript.Proofs.Session.Starting

/-! # The screen that a session starts on

The router of a session knows one screen for each identifier, the last one in the document. A
session asks for the screen to start on by an identifier. Where the settings name one, this is as it
should be. Where they name none, it is the identifier of the first screen, and by then the position
of this screen is forgotten: the session starts on the last screen that shares its identifier, which
is the first screen itself as long as no further one repeats it.
-/

namespace ScreenScript

/-- The last of some screens with an identifier. -/
def Screen.lastWith? (screens : List Screen) (id : String) : Option Screen :=
  screens.findRev? fun screen => screen.id = id

namespace Screen

theorem lastWith?_cons (first : Screen) (rest : List Screen) (id : String) :
    lastWith? (first :: rest) id =
      (lastWith? rest id).or (if first.id = id then some first else none) := by
  rw [lastWith?, lastWith?, List.findRev?]
  cases List.findRev? (fun screen => screen.id = id) rest with
  | none => simp
  | some later => rfl

theorem lastWith?_first (first : Screen) (rest : List Screen) :
    lastWith? (first :: rest) first.id = some ((lastWith? rest first.id).getD first) := by
  rw [lastWith?_cons, if_pos rfl]
  cases lastWith? rest first.id <;> rfl

end Screen

namespace Router

/-- Preloading leaves one screen for each identifier. -/
theorem nodup_preload (router : Router) (unique : (Keyed.keys router.cache).Nodup)
    (screens : List Screen) : (Keyed.keys (router.preload screens).cache).Nodup := by
  induction screens generalizing router with
  | nil => exact unique
  | cons first rest ih =>
    exact ih (router.preload [first]) (Keyed.nodup_keys_put unique first.id first)

/-- Of the screens that are preloaded under one identifier the last is kept. -/
theorem get?_preload (router : Router) (screens : List Screen) (id : String) :
    Keyed.get? (router.preload screens).cache id =
      (Screen.lastWith? screens id).or (Keyed.get? router.cache id) := by
  induction screens generalizing router with
  | nil => rfl
  | cons first rest ih =>
    have put : Keyed.get? (router.preload [first]).cache id =
        if first.id = id then some first else Keyed.get? router.cache id :=
      Keyed.get?_put router.cache first.id id first
    refine (ih (router.preload [first])).trans ?_
    rw [put, Screen.lastWith?_cons, Option.or_assoc]
    congr 1
    split <;> rfl

end Router

namespace Session

variable {H : Type}

/-- The router that a session starts with knows the screens of the document and no others. On its
stack is the one that is kept under the identifier which the session asks for. -/
theorem mainRouter_start (screens : List Screen) (settings : Settings) (registry : Registry)
    (host : H) :
    (start screens settings registry host).routers World.mainRouter =
      { Router.empty.preload screens with
        stack := ((initialScreen? settings screens).bind (Screen.lastWith? screens)).toList } := by
  unfold start
  cases initialScreen? settings screens with
  | none => rfl
  | some id =>
    have cached := Router.get?_preload Router.empty screens id
    rw [show Keyed.get? Router.empty.cache id = none from rfl, Option.or_none] at cached
    rw [Option.bind_some, ← cached]
    rfl

theorem channel_start (screens : List Screen) (settings : Settings) (registry : Registry)
    (host : H) : (start screens settings registry host).channel = .empty := by
  unfold start
  split <;> rfl

theorem data_start (screens : List Screen) (settings : Settings) (registry : Registry) (host : H) :
    (start screens settings registry host).data Scopes.main = settings.initialData := by
  unfold start
  split <;> rfl

/-- What a session on some screens starts with, apart from the screen that it shows. -/
structure Fresh (screens : List Screen) (settings : Settings) (world : World H) : Prop where
  /-- No screen is presented. -/
  modals : (world.routers World.mainRouter).modals = []
  /-- The router knows one screen for each identifier at most. -/
  unique : (Keyed.keys (world.routers World.mainRouter).cache).Nodup
  /-- The router knows the last screen of each identifier, and nothing else. -/
  cached : ∀ id, Keyed.get? (world.routers World.mainRouter).cache id = Screen.lastWith? screens id
  /-- No command waits. -/
  queue : world.channel.queue = []
  /-- The data is that of the settings. -/
  data : world.data Scopes.main = settings.initialData

theorem fresh_start (screens : List Screen) (settings : Settings) (registry : Registry) (host : H) :
    Fresh screens settings (start screens settings registry host) where
  modals := by rw [mainRouter_start]; rfl
  unique := by
    rw [mainRouter_start]
    exact Router.nodup_preload Router.empty .nil screens
  cached id := by
    rw [mainRouter_start]
    exact (Router.get?_preload Router.empty screens id).trans (Option.or_none ..)
  queue := by rw [channel_start]; rfl
  data := data_start screens settings registry host

/-- A session starts on each document that is not empty and whose elements all have screens. Its
router knows the last screen of each identifier, nothing is presented and nothing waits, and its
data is that of the settings. If they name a screen, the session starts on the last one with this
identifier, and on none where there is none. If they name none, it starts on the last screen that
shares the identifier of the first one. That is the first screen itself exactly if no later one
shares its identifier, or if the last that does is the same screen. -/
theorem startOn_of_resolved {document : List Entry} {first : Screen} {rest : List Screen}
    (resolved :
      List.Forall₂ (fun entry screen => entry.resolve = .ok screen) document (first :: rest))
    (settings : Settings) (registry : Registry) (host : H) :
    ∃ world, startOn document settings registry host = .ok world ∧
      Fresh (first :: rest) settings world ∧
      (∀ id, settings.initialScreen = some id →
        (world.routers World.mainRouter).stack =
          (Screen.lastWith? (first :: rest) id).toList) ∧
      (settings.initialScreen = none →
        (world.routers World.mainRouter).stack =
            [(Screen.lastWith? rest first.id).getD first] ∧
          ((world.routers World.mainRouter).stack = [first] ↔
            ∀ later, Screen.lastWith? rest first.id = some later → later = first)) := by
  refine ⟨start (first :: rest) settings registry host,
    startOn_of_screens (screens_of_resolved resolved) settings registry host,
    fresh_start (first :: rest) settings registry host, ?named, ?unnamed⟩
  case named =>
    intro id named
    rw [mainRouter_start, initialScreen?, named]
    rfl
  case unnamed =>
    intro unnamed
    have stack : ((start (first :: rest) settings registry host).routers World.mainRouter).stack =
        [(Screen.lastWith? rest first.id).getD first] := by
      rw [mainRouter_start, initialScreen?, unnamed]
      exact congrArg Option.toList (Screen.lastWith?_first first rest)
    refine ⟨stack, ?_⟩
    rw [stack, List.cons.injEq]
    cases Screen.lastWith? rest first.id <;> simp

/-- A screen with a title, as a document has it. -/
private def entitled (id title : String) : Value :=
  .mapping [("id", .text id), ("navigationBar", .mapping [("title", .text title)])]

private def entitledScreen (id title : String) : Screen :=
  ⟨id, [], some ⟨title, .inline, none⟩, .null⟩

/-- The last of three screens has the identifier of the first one, and the session starts on it. -/
theorem startOn_of_resolved_repeated :
    ∃ world, startOn [.value (entitled "a" "First"), .screen (entitledScreen "b" "Between"),
        .value (entitled "a" "Second")] default Registry.standard () = .ok world ∧
      (world.routers World.mainRouter).stack = [entitledScreen "a" "Second"] ∧
      (world.routers World.mainRouter).stack ≠ [entitledScreen "a" "First"] ∧
      Keyed.get? (world.routers World.mainRouter).cache "b" =
        some (entitledScreen "b" "Between") := by
  obtain ⟨world, started, fresh, _, unnamed⟩ := startOn_of_resolved
    (.cons (show (Entry.value (entitled "a" "First")).resolve =
        .ok (entitledScreen "a" "First") from rfl)
      (.cons (show (Entry.screen (entitledScreen "b" "Between")).resolve =
          .ok (entitledScreen "b" "Between") from rfl)
        (.cons (show (Entry.value (entitled "a" "Second")).resolve =
          .ok (entitledScreen "a" "Second") from rfl) .nil)))
    default Registry.standard ()
  obtain ⟨stack, same⟩ := unnamed rfl
  refine ⟨world, started, stack, ?_, fresh.cached "b"⟩
  intro onFirst
  have titles := congrArg (fun screen => screen.navigationBar.map NavigationBar.title)
    (same.mp onFirst _ rfl)
  exact absurd titles (by decide)

end Session

end ScreenScript
