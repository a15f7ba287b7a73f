import ScreenScript.Command
import ScreenScript.Registry
import ScreenScript.Settings

/-! # Steps of a scenario

A scenario drives a world from outside, step by step, and names what it finds there: scopes,
views, subscriptions. A step is a request in a named scope, with or without the router. Listeners
are scripted by steps of their own.
-/

namespace ScreenScript

/-- A renderer that shows nothing. -/
def Renderer.nothing : Renderer :=
  .host fun _ _ _ => none

/-- A renderer that shows the value of one property, and whether there is a router, detached from
the scope. -/
def Renderer.echo : Renderer :=
  .host fun read router props =>
    some ⟨"echo", [("p", Expression.evaluate read (props.getOrNull "p")),
      ("routed", .bool router.isSome)], none, .null, false⟩

namespace Scenario

/-- Which node of a rendering is meant. -/
inductive Selector where
  /-- The node at the end of a way through a rendering, the last one unless its number is
  given. -/
  | way (rendering : Option Nat) (turns : List Nat)
  /-- The first button with a label in the last rendering. -/
  | label (content : String)
deriving Inhabited, Repr

/-- A message for the channel: a command that is checked first, or any attributes. -/
inductive Message where
  | checked (command : Value)
  | raw (attributes : Fields)
deriving Inhabited, Repr

mutual

/-- What a step asks for. -/
inductive Request where
  -- Data of a scope.
  | lookup (path : String)
  | resolve (path : String) (default : Value)
  | write (path : String) (value : Value)
  | replaceData (data : Fields)
  | snapshot
  | literal
  | fork (fields : Fields) (name : String)
  | subscribe (listener handle : String) (reaction : List Step) (fails : Bool)
  | unsubscribe (handle : String)
  -- Expressions and actions.
  | evaluate (node : Value)
  | evalNode (node : Value)
  | execute (node : Value)
  | executeModel (model : Value)
  -- The router.
  | navigate (asked : Value)
  | goBack
  | reset (asked : Value)
  | presentModal (asked : Value)
  | dismissModal
  | push (screen : Value)
  | preload (screens : List Value)
  | screen (asked : Value)
  | screens
  | listen (listener handle : String) (reaction : List Step) (fails : Bool)
  -- The channel.
  | send (message : Message)
  | sendFromElsewhere (message : Message)
  | bindChannel
  | drain
  | pending
  | serve
  | close
  -- Renderers.
  | register (type : String) (renderer : Renderer)
  | types
  | renderComponent (type : String) (props : Fields)
  -- Views.
  | openView (screen : Value) (name : String)
  | bar (view : String)
  | appear (view : String)
  | render (view : String)
  | isVisible (view : String) (component : Fields)
  -- The session.
  | showCurrent
  | flush
  | trigger (node : Value)
  | tap (selector : Selector)
  | tapTrailing
  | current
  | sessionView (asked : Option Value)
  -- Nodes.
  | node (selector : Selector)
  | enter (selector : Selector) (content : Value)
  | find (selector : Selector) (type : String)
  | nodeScope (selector : Selector) (name : String)

/-- A request in a scope, with or without the router. -/
inductive Step where
  | asking (scope : String) (routed : Bool) (request : Request)

end

instance : Inhabited Request := ⟨.snapshot⟩

instance : Inhabited Step := ⟨.asking "root" true default⟩

def Step.scope : Step → String
  | .asking scope _ _ => scope

mutual

/-- The size of a step: one for itself, and the size of its request. -/
def Step.size : Step → Nat
  | .asking _ _ request => request.size + 1

/-- The size of a request: that of the steps that it scripts, and the number of screens that it
brings in beside the one that any step may bring in. -/
def Request.size : Request → Nat
  | .subscribe _ _ reaction _ => sizes reaction
  | .listen _ _ reaction _ => sizes reaction
  | .preload screens => screens.length
  | _ => 0

def sizes : List Step → Nat
  | [] => 0
  | step :: rest => step.size + sizes rest

end

end Scenario

end ScreenScript
