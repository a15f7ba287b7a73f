import ScreenScript.Channel
import ScreenScript.Failure
import ScreenScript.Value.Agreement
import ScreenScript.View

/-! # The world of running screens

A world holds all that changes while screens run: scopes and routers, the command channel, the
views of the session, and the records of what was shown to the user and to the log. It also
carries the state of the host program, about which nothing is assumed.

Operations are actions in `Eff`: they may fail, and a failure keeps all that was changed before
it. What the host does when it is called is a parameter of the operations, the `Host`: it reacts
to changes that it listens to by any action whatever, and it presents alerts.
-/

namespace ScreenScript

/-- A change that listeners are told of: a write to a path, or a move of a router, with the
identifier of the screen that it shows now. -/
inductive Event where
  | wrote (path : String)
  | moved (current : Option String)
deriving DecidableEq, Inhabited, Repr

structure Call where
  listener : String
  event : Event
deriving DecidableEq, Inhabited, Repr

/-- All that changes while screens run. -/
structure World (H : Type) where
  scopes : Scopes
  routers : RouterId → Router
  channel : Channel
  registry : Registry
  alertTitle : String
  views : List (String × View)
  /-- The alerts that were shown, each with its title and its message. -/
  alerts : List (Value × Value)
  notices : List Notice
  calls : List Call
  host : H

/-- An operation on a world. A failure keeps what was changed before it. -/
abbrev Eff (H : Type) := EStateM Failure (World H)

/-- How the host shows alerts: it writes them to the log, or shows them to the user save those that
it refuses. -/
inductive Presenter where
  | logging
  | showing (refuses : (title message : Value) → Bool)

/-- The presenter that shows all alerts but those whose message agrees with one of the given
values. -/
def Presenter.refusing (messages : List Value) : Presenter :=
  .showing fun _ message => messages.any message.agrees

/-- What the host program contributes. -/
structure Host (H : Type) where
  react : (listener : String) → Event → Eff H Unit
  presenter : Presenter

namespace World

variable {H : Type}

def mainRouter : RouterId := 0

/-- The world in which nothing has happened, with the data of its main scope. -/
def initial (data : Fields) (alertTitle : String) (registry : Registry) (host : H) : World H where
  scopes := .ofData data
  routers _ := .empty
  channel := .empty
  registry := registry
  alertTitle := alertTitle
  views := []
  alerts := []
  notices := []
  calls := []
  host := host

def data (world : World H) (scope : ScopeId) : Fields :=
  (world.scopes.get scope).data

/-- Reading by the text of a path in a scope. -/
def reader (world : World H) (scope : ScopeId) : String → Option Value :=
  Expression.reader (world.data scope)

def mapScope (world : World H) (scope : ScopeId) (change : Scope → Scope) : World H :=
  { world with scopes := world.scopes.update scope change }

def mapRouter (world : World H) (router : RouterId) (change : Router → Router) : World H :=
  { world with
    routers := fun id => if id = router then change (world.routers id) else world.routers id }

def mapChannel (world : World H) (change : Channel → Channel) : World H :=
  { world with channel := change world.channel }

def record (world : World H) (notices : List Notice) : World H :=
  { world with notices := world.notices ++ notices }

/-- The current text of a node: that under its binding, or else its own, and empty when there is
none. -/
def text (world : World H) (node : Node) : String :=
  match node.face.bound? with
  | some path => (world.reader node.scope path).elim "" Value.asText
  | none => node.face.props.textOr "value" ""

theorem data_mapScope (world : World H) (scope id : ScopeId) (change : Scope → Scope) :
    (world.mapScope scope change).data id =
      if id = scope then (change (world.scopes.get id)).data else world.data id := by
  by_cases same : id = scope <;> simp [mapScope, data, Scopes.get_update, same]

theorem routers_mapRouter (world : World H) (router id : RouterId) (change : Router → Router) :
    (world.mapRouter router change).routers id =
      if id = router then change (world.routers id) else world.routers id := rfl

end World

namespace Eff

variable {H : Type}

def log (notice : Notice) : Eff H Unit :=
  modify fun world => world.record [notice]

/-- Calls listeners one after another. -/
def callAll (host : Host H) (event : World H → Event) : List String → Eff H Unit
  | [] => pure ()
  | listener :: rest => do
    -- What has become of the world by now, which earlier listeners may have changed.
    let event' := event (← get)
    modify fun world => { world with calls := world.calls ++ [⟨listener, event'⟩] }
    host.react listener event'
    callAll host event rest

end Eff

end ScreenScript
