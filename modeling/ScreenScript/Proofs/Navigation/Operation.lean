import ScreenScript.Proofs.Channel.ExactlyOnce

/-! # Operations on a router

A router is filled, moved and listened to. Each of these is an operation, and `Router.play` is what
operations make of a router, one after another. In a world a move also calls those that listen, who
may fail, and a command moves the router that it came with. Whether a listener fails or not, the
router is then what the operation makes of it, and what the operations make of it that the
listeners have carried out meanwhile. Listeners that touch a router in another way are excluded.
-/

namespace ScreenScript

variable {H : Type} {α : Type}

/-- The third list has the elements of the first two, those of each in their order. -/
inductive Interleaves : List α → List α → List α → Prop
  | none : Interleaves [] [] []
  | left {xs ys zs : List α} (x : α) (rest : Interleaves xs ys zs) :
      Interleaves (x :: xs) ys (x :: zs)
  | right {xs ys zs : List α} (y : α) (rest : Interleaves xs ys zs) :
      Interleaves xs (y :: ys) (y :: zs)

namespace Interleaves

variable {xs xs' ys ys' zs zs' : List α}

theorem append (first : Interleaves xs ys zs) (second : Interleaves xs' ys' zs') :
    Interleaves (xs ++ xs') (ys ++ ys') (zs ++ zs') := by
  induction first with
  | none => exact second
  | left x _ ih => exact .left x ih
  | right y _ ih => exact .right y ih

theorem of_left (xs : List α) : Interleaves xs [] xs := by
  induction xs with
  | nil => exact .none
  | cons x rest ih => exact .left x ih

theorem symm (interleaves : Interleaves xs ys zs) : Interleaves ys xs zs := by
  induction interleaves with
  | none => exact .none
  | left x _ ih => exact .right x ih
  | right y _ ih => exact .left y ih

theorem map {β : Type} (f : α → β) (interleaves : Interleaves xs ys zs) :
    Interleaves (xs.map f) (ys.map f) (zs.map f) := by
  induction interleaves with
  | none => exact .none
  | left x _ ih => exact .left (f x) ih
  | right y _ ih => exact .right (f y) ih

/-- What only the first list has can be filtered out again. -/
theorem filter_eq {p : α → Bool} (interleaves : Interleaves xs ys zs)
    (here : ∀ x ∈ xs, p x = true) (there : ∀ y ∈ ys, p y = false) : zs.filter p = xs := by
  induction interleaves with
  | none => rfl
  | left x _ ih =>
    obtain ⟨first, later⟩ := List.forall_mem_cons.mp here
    rw [List.filter_cons_of_pos first, ih later there]
  | right y _ ih =>
    obtain ⟨first, later⟩ := List.forall_mem_cons.mp there
    rw [List.filter_cons_of_neg (by simp [first]), ih here later]

end Interleaves

/-- What a move answers: whether it succeeded, save that pushing a screen by reference answers
nothing. -/
def Move.report (succeeded : Bool) : Move → Option Bool
  | .push _ => none
  | _ => some succeeded

namespace Router

/-- What is done to a router from outside. -/
inductive Operation where
  | preload (screens : List Screen)
  | move (step : Move)
  | listen (listener : String)
  | unlisten (listener : String)

/-- The router after an operation. A move that is refused leaves it as it is. -/
def next (router : Router) : Operation → Router
  | .preload screens => router.preload screens
  | .move step => (router.move? step).getD router
  | .listen listener => { router with listeners := router.listeners ++ [listener] }
  | .unlisten listener => { router with listeners := router.listeners.erase listener }

def play (router : Router) (operations : List Operation) : Router :=
  operations.foldl next router

@[simp] theorem play_nil (router : Router) : router.play [] = router := rfl

@[simp] theorem play_cons (router : Router) (operation : Operation) (rest : List Operation) :
    router.play (operation :: rest) = (router.next operation).play rest := rfl

theorem play_append (router : Router) (early late : List Operation) :
    router.play (early ++ late) = (router.play early).play late :=
  List.foldl_append ..

def answer (router : Router) : Operation → Option Bool
  | .move step => step.report (router.succeeds step)
  | _ => none

end Router

namespace Eff

/-- Carries out an operation on a router. -/
def operate (host : Host H) (id : RouterId) : Router.Operation → Eff H (Option Bool)
  | .preload screens => do
    preload id screens
    return none
  | .move step => do
    return step.report (← move host id step)
  | .listen listener => do
    listen id listener
    return none
  | .unlisten listener => do
    unlisten id listener
    return none

/-- A move is made and then those are called that listen to the router. What it answers was
settled before. -/
theorem move_eq (host : Host H) (id : RouterId) (step : Move) (world : World H) :
    move host id step world =
      (do
        callAll host (fun world => .moved (((world.routers id).current?).map Screen.id))
          (if ((world.routers id).move? step).isSome then (world.routers id).listeners else [])
        return (world.routers id).succeeds step : Eff H Bool)
      (world.moved id step) := by
  cases accepted : (world.routers id).move? step with
  | none =>
    have failed : (world.routers id).succeeds step = false := by
      cases step <;> simp_all [Router.succeeds, Router.move?]
    simp only [World.moved, accepted, failed]
    rw [move, get_bind, accepted]
    rfl
  | some next =>
    have listeners := (Router.move?_keeps accepted).2
    simp only [World.moved, accepted, Option.isSome_some, ↓reduceIte, ← listeners]
    rw [move, get_bind, accepted]
    rfl

end Eff

namespace Eff

/-- What an operation ends with. -/
def result (operation : Eff H α) (world : World H) : Except Failure α :=
  match operation world with
  | .ok result _ => .ok result
  | .error failure _ => .error failure

/-- The world after operations on a router, one after another. Any of them may fail. -/
def operateAll (host : Host H) (id : RouterId) (operations : List Router.Operation)
    (world : World H) : World H :=
  operations.foldl (fun world operation => after (operate host id operation) world) world

def answers (host : Host H) (id : RouterId) :
    List Router.Operation → World H → List (Router.Operation × Except Failure (Option Bool))
  | [], _ => []
  | operation :: rest, world =>
    (operation, result (operate host id operation) world) ::
      answers host id rest (after (operate host id operation) world)

/-- As long as those do not fail who listen to a router, a move answers what the router gives it to
answer. -/
theorem result_operate_move {host : Host H} {id : RouterId} {world : World H}
    (returns : ∀ name ∈ (world.routers id).listeners, ∀ current world,
      ∃ next, host.react name (.moved current) world = .ok () next) (step : Move) :
    result (operate host id (.move step)) world = .ok ((world.routers id).answer (.move step)) := by
  have called (current : World H → Option String) {names : List String}
      (known : ∀ name ∈ names, name ∈ (world.routers id).listeners) (start : World H) :
      ∃ last, callAll host (fun world => .moved (current world)) names start = .ok () last := by
    induction names generalizing start with
    | nil => exact ⟨start, rfl⟩
    | cons name rest ih =>
      obtain ⟨first, later⟩ := List.forall_mem_cons.mp known
      obtain ⟨next, reacted⟩ := returns name first (current start)
        { start with calls := start.calls ++ [⟨name, .moved (current start)⟩] }
      obtain ⟨last, told⟩ := ih later next
      exact ⟨last, (bind_of_ok reacted).trans told⟩
  have known : ∀ name ∈ (if ((world.routers id).move? step).isSome
      then (world.routers id).listeners else []), name ∈ (world.routers id).listeners := by
    split
    · exact fun _ member => member
    · exact List.forall_mem_nil _
  obtain ⟨last, told⟩ := called (fun world => ((world.routers id).current?).map Screen.id) known
    (world.moved id step)
  have made : move host id step world = .ok ((world.routers id).succeeds step) last :=
    (move_eq ..).trans (bind_of_ok told)
  rw [result, operate, bind_of_ok made]
  rfl

/-- As long as listeners do not fail, an operation answers what the router gives it to answer. -/
theorem result_operate {host : Host H}
    (returns : ∀ listener current world,
      ∃ next, host.react listener (.moved current) world = .ok () next)
    (id : RouterId) (operation : Router.Operation) (world : World H) :
    result (operate host id operation) world = .ok ((world.routers id).answer operation) := by
  cases operation with
  | preload screens => rfl
  | listen listener => rfl
  | unlisten listener => rfl
  | move step => exact result_operate_move (fun name _ => returns name) step

end Eff

/-- A router is what operations of a kind have made of a given one. -/
def World.Dealt (id : RouterId) (allowed : Router.Operation → Prop) (base : Router)
    (world : World H) : Prop :=
  ∃ told, (∀ operation ∈ told, allowed operation) ∧ world.routers id = base.play told

/-- The listeners of a host touch a router by operations of a kind only. They may do anything else,
and fail. -/
def Host.Deals (host : Host H) (id : RouterId) (allowed : Router.Operation → Prop) : Prop :=
  ∀ listener event base, Eff.Sustains (World.Dealt id allowed base) (host.react listener event)

/-- Listeners that leave a router alone carry out no operations on it. -/
theorem Host.OffRouter.deals {host : Host H} {id : RouterId} (off : host.OffRouter id) :
    host.Deals id fun _ => False := by
  intro listener event base world
  rintro ⟨told, none, same⟩
  exact ⟨told, none, (off listener event world).trans same⟩

namespace Command

/-- The screen that a message asks for, if it can be a key. -/
def asked? (attributes : Fields) : Option Value :=
  match Keyed.get? attributes "screen_id" with
  | some (.list _) | some (.mapping _) => none
  | asked => asked

/-- The move that a message of a kind asks for. -/
def moveOf? (attributes : Fields) : Value → Option Move
  | .text "navigate" => (asked? attributes).map .navigate
  | .text "navigate_back" => some .goBack
  | .text "reset" => (asked? attributes).map .reset
  | .text "present_modal" => (asked? attributes).map .presentModal
  | .text "dismiss_modal" => some .dismissModal
  | _ => none

/-- The move that a command asks for. A message asks for one by its attributes, and for none if one
of them is missing. -/
def move? : Command → Option Move
  | .navigate screen => some (.navigate (.text screen))
  | .navigateBack => some .goBack
  | .reset screen => some (.reset (.text screen))
  | .presentModal screen => some (.presentModal (.text screen))
  | .dismissModal => some .dismissModal
  | .showAlert .. => none
  | .foreign attributes => (Keyed.get? attributes "kind").bind (moveOf? attributes)

end Command

/-- The operations on a router that a command asks for with its router: one at most. -/
def Envelope.asks (id : RouterId) (envelope : Envelope) : List Router.Operation :=
  if envelope.router = some id then envelope.command.move?.toList.map .move else []

namespace Eff

open World

section

variable {host : Host H} {id : RouterId} {allowed : Router.Operation → Prop} {base : Router}

theorem dealt_rest (id : RouterId) (allowed : Router.Operation → Prop) (world : World H) :
    Dealt id allowed (world.routers id) world :=
  ⟨[], List.forall_mem_nil _, rfl⟩

theorem sustains_dealt_callAll (deals : host.Deals id allowed) (event : World H → Event)
    (names : List String) : Sustains (Dealt id allowed base) (callAll host event names) :=
  sustains_callAll (fun _ _ dealt => dealt) (fun listener event => deals listener event base)
    event names

/-- A move makes of its router what the move is, and then listeners deal with it. -/
theorem dealt_move (deals : host.Deals id allowed) (step : Move) (world : World H) :
    Dealt id allowed ((world.routers id).next (.move step))
      (after (move host id step) world) := by
  have moved : (world.moved id step).routers id = (world.routers id).next (.move step) := by
    rw [routers_moved, if_pos rfl]
    rfl
  have told := dealt_rest id allowed (world.moved id step)
  rw [moved] at told
  unfold after
  rw [move_eq]
  exact (sustains_dealt_callAll deals _ _).bind
    (fun _ => (Sustains.compositional _).pure _) _ told

/-- Changing a router otherwise than by a move calls nobody. -/
private theorem dealt_mapRouter (change : Router → Router) (world : World H) :
    Dealt id allowed (change (world.routers id)) (world.mapRouter id change) :=
  ⟨[], List.forall_mem_nil _, by rw [routers_mapRouter, if_pos rfl]; rfl⟩

theorem dealt_operate (deals : host.Deals id allowed) (operation : Router.Operation)
    (world : World H) :
    Dealt id allowed ((world.routers id).next operation)
      (after (operate host id operation) world) := by
  cases operation with
  | preload screens => exact dealt_mapRouter (·.preload screens) world
  | listen listener => exact dealt_mapRouter (·.next (.listen listener)) world
  | unlisten listener => exact dealt_mapRouter (·.next (.unlisten listener)) world
  | move step =>
    exact Sustains.following (dealt_move deals step world) fun _ =>
      (Sustains.compositional _).pure _

/-- Where listeners leave a router alone, an operation makes of it what it is. -/
theorem routers_operate (off : host.OffRouter id) (operation : Router.Operation)
    (world : World H) :
    (after (operate host id operation) world).routers id =
      (world.routers id).next operation := by
  obtain ⟨told, none, played⟩ := dealt_operate off.deals operation world
  rw [List.eq_nil_iff_forall_not_mem.mpr none] at played
  exact played

theorem dealt_applyMove (deals : host.Deals id allowed) (step : Move) (refused : List Notice)
    (world : World H) :
    Dealt id allowed ((world.routers id).next (.move step))
      (after (applyMove host (some id) step refused) world) := by
  refine Sustains.following (dealt_move deals step world) fun succeeded => ?_
  cases succeeded with
  | true => exact fun _ dealt => dealt
  | false => exact fun _ dealt => dealt

/-- Asking a message for an attribute and making a key of it leave routers alone. -/
private theorem sustains_dealt_demand (attributes : Fields) (name : String) :
    Sustains (Dealt (H := H) id allowed base) (demand attributes name) := by
  intro world dealt
  unfold demand
  split <;> exact dealt

theorem dealt_applyMoveTo (deals : host.Deals id allowed) (attributes : Fields)
    (step : Value → Move) (refused : Value → List Notice) (world : World H) :
    Dealt id allowed
      ((world.routers id).play (((Command.asked? attributes).map step).toList.map .move))
      (after (applyMoveTo host (some id) attributes step refused) world) := by
  have rest := dealt_rest id allowed world
  rw [applyMoveTo, if_neg (by simp), Command.asked?]
  cases found : Keyed.get? attributes "screen_id" with
  | none =>
    simp only [demand, found]
    exact rest
  | some asked =>
    simp only [demand, found, pure_bind]
    cases asked with
    | list items => exact rest
    | mapping fields => exact rest
    | _ => exact dealt_applyMove deals (step _) (refused _) world

private theorem sustains_dealt_present (title message : Value) :
    Sustains (Dealt id allowed base) (present host title message) := by
  intro world dealt
  unfold present
  split
  · exact dealt
  · split <;> exact dealt

theorem dealt_applyForeign (deals : host.Deals id allowed) (attributes : Fields)
    (world : World H) :
    Dealt id allowed
      ((world.routers id).play ((Command.foreign attributes).move?.toList.map .move))
      (after (applyForeign host (some id) attributes) world) := by
  have rest := dealt_rest id allowed world
  rw [applyForeign, Command.move?]
  cases found : Keyed.get? attributes "kind" with
  | none =>
    have missing : demand (H := H) attributes "kind" = throw (.noAttribute "kind") := by
      simp only [demand, found]
    rw [missing]
    exact rest
  | some kind =>
    have there : demand (H := H) attributes "kind" = pure kind := by simp only [demand, found]
    rw [there, pure_bind, Option.bind_some]
    cases kind with
    | text kind =>
      unfold Command.moveOf?
      split
      next same =>
        cases same
        exact dealt_applyMoveTo deals attributes .navigate _ world
      next same =>
        cases same
        exact dealt_applyMove deals .goBack [] world
      next same =>
        cases same
        exact dealt_applyMoveTo deals attributes .reset _ world
      next same =>
        cases same
        exact dealt_applyMoveTo deals attributes .presentModal _ world
      next same =>
        cases same
        exact dealt_applyMove deals .dismissModal [] world
      next =>
        have same : key (H := H) (.text kind) = pure (.text kind) := rfl
        rw [same, pure_bind]
        split
        any_goals contradiction
        · exact (sustains_dealt_demand attributes "title").bind (fun title =>
            (sustains_dealt_demand attributes "message").bind fun message =>
              sustains_dealt_present title message) world rest
        · exact rest
    | _ => exact rest

/-- Handling a command makes of a router what the command asks for, and then listeners deal with
it. -/
theorem dealt_apply (deals : host.Deals id allowed) (envelope : Envelope) (world : World H) :
    Dealt id allowed ((world.routers id).play (envelope.asks id))
      (after (apply host envelope) world) := by
  obtain ⟨command, router⟩ := envelope
  unfold Envelope.asks
  split
  next same =>
    cases same
    cases command with
    | navigate screen => exact dealt_applyMove deals _ _ world
    | navigateBack => exact dealt_applyMove deals _ _ world
    | reset screen => exact dealt_applyMove deals _ _ world
    | presentModal screen => exact dealt_applyMove deals _ _ world
    | dismissModal => exact dealt_applyMove deals _ _ world
    | showAlert title message =>
      exact sustains_dealt_present _ _ world (dealt_rest id allowed world)
    | foreign attributes => exact dealt_applyForeign deals attributes world
  next other =>
    have untouched : Untouched (Dealt (H := H) id allowed (world.routers id)) router := {
      logged := fun _ _ _ dealt => dealt
      shown := fun _ _ dealt => dealt
      called := fun _ _ dealt => dealt
      moved := fun world moved change same dealt => by
        have differ : id ≠ moved := fun equal => other (equal ▸ same)
        obtain ⟨told, all, played⟩ := dealt
        exact ⟨told, all, by rw [routers_mapRouter, if_neg differ, played]⟩ }
    exact sustains_apply untouched (fun listener event => deals listener event _) world
      (dealt_rest id allowed world)

end

end Eff

end ScreenScript
