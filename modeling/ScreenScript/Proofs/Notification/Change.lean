import ScreenScript.Proofs.Outcome

/-! # Changes and those who are told of them

Scopes and routers are listened to in one and the same way. A write or a move changes its source
first and then calls those who listen to it at that moment, one after another, in the order in which
they were subscribed. A write to a path without a key and a move that is refused are told to nobody.
`Change.perform_eq` is the one equation behind this, whatever listeners do when they are called.
-/

namespace ScreenScript

variable {H : Type}

/-- What can be listened to. -/
inductive Source where
  | scope (id : ScopeId)
  | router (id : RouterId)
deriving DecidableEq, Inhabited, Repr

/-- What those who listen are told of, unless it comes to nothing. -/
inductive Change where
  | write (scope : ScopeId) (path : String) (value : Value)
  | move (router : RouterId) (step : Move)
deriving Inhabited, Repr

namespace World

/-- Those who listen to a source, in the order in which they are called. Someone may be there more
than once. -/
def listeners (world : World H) : Source → List String
  | .scope id => (world.scopes.get id).listeners
  | .router id => (world.routers id).listeners

/-- The world with others listening to a source. -/
def relistened (world : World H) (source : Source) (change : List String → List String) : World H :=
  match source with
  | .scope id => world.mapScope id fun old => { old with listeners := change old.listeners }
  | .router id => world.mapRouter id fun old => { old with listeners := change old.listeners }

theorem listeners_relistened (world : World H) (source : Source)
    (change : List String → List String) :
    (world.relistened source change).listeners source = change (world.listeners source) := by
  cases source with
  | scope id => simp only [relistened, listeners, mapScope, Scopes.get_update, ↓reduceIte]
  | router id => simp only [relistened, listeners, routers_mapRouter, ↓reduceIte]

@[simp] theorem calls_relistened (world : World H) (source : Source)
    (change : List String → List String) :
    (world.relistened source change).calls = world.calls := by
  cases source <;> rfl

@[simp] theorem calls_stored (world : World H) (scope : ScopeId) (path : String) (value : Value) :
    (world.stored scope path value).calls = world.calls := by
  unfold stored
  split <;> rfl

@[simp] theorem calls_moved (world : World H) (router : RouterId) (step : Move) :
    (world.moved router step).calls = world.calls := by
  unfold moved
  split <;> rfl

end World

namespace Source

/-- Subscribes a listener to a source, behind those who listen already. -/
def subscribe (listener : String) : Source → Eff H Unit
  | .scope id => Eff.subscribe id listener
  | .router id => Eff.listen id listener

/-- What the unsubscriber of a subscription does: it removes the first place of the listener, if it
has one. -/
def unsubscribe (listener : String) : Source → Eff H Unit
  | .scope id => Eff.unsubscribe id listener
  | .router id => Eff.unlisten id listener

theorem subscribe_eq (source : Source) (listener : String) (world : World H) :
    source.subscribe listener world = .ok () (world.relistened source (· ++ [listener])) := by
  cases source <;> rfl

theorem unsubscribe_eq (source : Source) (listener : String) (world : World H) :
    source.unsubscribe listener world =
      .ok () (world.relistened source (·.erase listener)) := by
  cases source <;> rfl

end Source

namespace Change

open Eff

def source : Change → Source
  | .write scope _ _ => .scope scope
  | .move router _ => .router router

/-- Whether a change comes about: the path of a write needs a key, and a move must not be
refused. -/
def isEffective (world : World H) : Change → Bool
  | .write _ path _ => Path.ofText path ≠ []
  | .move router step => ((world.routers router).move? step).isSome

/-- The world right after a change, before anybody is told of it. -/
def made (world : World H) : Change → World H
  | .write scope path value => world.stored scope path value
  | .move router step => world.moved router step

/-- What a listener is told that is called now. -/
def event (world : World H) : Change → Event
  | .write _ path _ => .wrote path
  | .move router _ => .moved (((world.routers router).current?).map Screen.id)

/-- Those who are told of a change: all who listen right after it, and nobody if it does not come
about. -/
def audience (change : Change) (world : World H) : List String :=
  if change.isEffective world then (change.made world).listeners change.source else []

/-- Carries out a change. What a move answers is left aside. -/
def perform (host : Host H) : Change → Eff H Unit
  | .write scope path value => Eff.write host scope path value
  | .move router step => do
    let _ ← Eff.move host router step

/-- A change is made first, and then its audience is called. -/
theorem perform_eq (host : Host H) (change : Change) (world : World H) :
    change.perform host world =
      callAll host (fun world => change.event world) (change.audience world)
        (change.made world) := by
  cases change with
  | write scope path value =>
    have same : (world.stored scope path value).listeners (.scope scope) =
        (world.scopes.get scope).listeners := World.listeners_stored ..
    rw [perform, write_eq]
    by_cases empty : Path.ofText path = []
    · simp [audience, isEffective, made, empty]
      rfl
    · simp [audience, isEffective, made, source, empty, same]
      rfl
  | move router step =>
    cases accepted : (world.routers router).move? step with
    | none =>
      have refused : Eff.move host router step world = .ok false world := by
        rw [Eff.move, get_bind, accepted]
        rfl
      simp only [perform, bind_of_ok refused, audience, isEffective, accepted, made, World.moved]
      rfl
    | some next =>
      have heard : (world.moved router step).listeners (.router router) = next.listeners := by
        simp only [World.listeners, World.routers_moved, accepted, ↓reduceIte, Option.getD_some]
      have announced : Eff.move host router step world =
          (callAll host (fun world => event world (.move router step)) next.listeners >>= fun _ =>
            return (world.routers router).succeeds step) (world.moved router step) := by
        rw [Eff.move, get_bind, accepted]
        simp only [World.moved, accepted]
        rfl
      simp only [audience, isEffective, accepted, Option.isSome_some, ↓reduceIte, made, source,
        heard]
      -- The answer of the move is dropped, whether its audience fails or not.
      cases told : callAll host (fun world => event world (.move router step)) next.listeners
        (world.moved router step) with
      | ok done last =>
        rw [bind_of_ok told] at announced
        exact bind_of_ok announced
      | error failure last =>
        rw [bind_of_error told] at announced
        exact bind_of_error announced

/-- A move that is refused changes nothing at all, and a write without a key only leaves a
notice. -/
theorem made_of_refused {change : Change} {world : World H}
    (refused : change.isEffective world = false) :
    change.made world = world ∨
      ∃ path, Path.ofText path = [] ∧ change.made world = world.record [.emptyPath path] := by
  cases change with
  | write scope path value =>
    have empty : Path.ofText path = [] := by simpa [isEffective] using refused
    exact .inr ⟨path, empty, by simp only [made, World.stored, empty]⟩
  | move router step =>
    have none : (world.routers router).move? step = none := by
      simpa [isEffective] using refused
    exact .inl (by simp only [made, World.moved, none])

/-- A change leaves all who listen as they are. -/
@[simp]
theorem listeners_made (change : Change) (world : World H) (source : Source) :
    (change.made world).listeners source = world.listeners source := by
  cases change with
  | write scope path value =>
    cases source with
    | scope id => exact World.listeners_stored ..
    | router id =>
      change ((world.stored scope path value).routers id).listeners = _
      rw [World.routers_stored]
      rfl
  | move router step =>
    cases source with
    | scope id =>
      change ((world.moved router step).scopes.get id).listeners = _
      rw [World.scopes_moved]
      rfl
    | router id => exact World.listeners_moved ..

@[simp]
theorem calls_made (change : Change) (world : World H) :
    (change.made world).calls = world.calls := by
  cases change with
  | write scope path value => exact World.calls_stored ..
  | move router step => exact World.calls_moved ..

/-- What is told does not depend on what was told before. -/
@[simp]
theorem event_called (change : Change) (world : World H) (calls : List Call) :
    change.event { world with calls := calls } = change.event world := by
  cases change <;> rfl

end Change

end ScreenScript
