import ScreenScript.World

/-! # Writing to the data of a scope

A write changes one scope and then calls those that listen to it. A write to a path without a
key changes nothing, calls nobody and leaves a notice.
-/

namespace ScreenScript.Eff

variable {H : Type}

def write (host : Host H) (scope : ScopeId) (path : String) (value : Value) : Eff H Unit := do
  match Path.ofText path with
  | [] => log (.emptyPath path)
  | key :: rest =>
    modify fun world =>
      world.mapScope scope fun old => { old with data := old.data.write (key :: rest) value }
    callAll host (fun _ => .wrote path) ((← get).scopes.get scope).listeners

/-- Replaces the data of a scope. Nobody is told. -/
def replaceData (scope : ScopeId) (data : Fields) : Eff H Unit :=
  modify fun world => world.mapScope scope fun old => { old with data := data }

/-- Makes a listener be called after every write to a scope, behind those that listen already.
A listener may be there more than once. -/
def subscribe (scope : ScopeId) (listener : String) : Eff H Unit :=
  modify fun world =>
    world.mapScope scope fun old => { old with listeners := old.listeners ++ [listener] }

/-- Removes the first place of a listener among those of a scope, if it has one. -/
def unsubscribe (scope : ScopeId) (listener : String) : Eff H Unit :=
  modify fun world =>
    world.mapScope scope fun old => { old with listeners := old.listeners.erase listener }

/-- Enters a content through the binding of a node. It is a text as a rule; anything else is
written all the same. -/
def enter (host : Host H) (node : Node) (content : Value) : Eff H Unit :=
  match node.face.bound? with
  | some path => write host node.scope path content
  | none => throw (.noBinding node.face.type)

end ScreenScript.Eff
