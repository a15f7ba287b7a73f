import ScreenScript.Layout
import ScreenScript.Router
import ScreenScript.Scope

/-! # Views and nodes

A view is one screen being shown in a scope, perhaps with a router; it remembers whether the
action for its first appearance was started. A node is a component of a layout brought to life
in a scope, where its text can be read and written and its action run.
-/

namespace ScreenScript

structure View where
  screen : Screen
  scope : ScopeId
  router : Option RouterId
  appeared : Bool
deriving Inhabited, Repr

namespace View

def fresh (screen : Screen) (scope : ScopeId) (router : Option RouterId) : View :=
  ⟨screen, scope, router, false⟩

/-- The node of the action to run when the view appears, if one is still to be run. -/
def waiting? (view : View) : Option Value :=
  if view.appeared then none
  else
    match view.screen.onAppear with
    | .null => none
    | node => some node

end View

/-- A component in its scope. -/
inductive Node where
  | component (face : Face) (scope : ScopeId) (children : List Node)
deriving Inhabited, Repr

namespace Node

def face : Node → Face
  | .component face _ _ => face

def scope : Node → ScopeId
  | .component _ scope _ => scope

/-- The scope that the node gives access to, if it does. -/
def scope? (node : Node) : Option ScopeId :=
  if node.face.attached then some node.scope else none

/-- The scope in which the action of the node is run. -/
def home (node : Node) : ScopeId :=
  node.scope?.getD Scopes.main

def children : Node → List Node
  | .component _ _ children => children

mutual

/-- The node and all nodes below it, each before those below it. -/
def subtree : Node → List Node
  | .component face scope children => .component face scope children :: subtrees children

def subtrees : List Node → List Node
  | [] => []
  | node :: rest => subtree node ++ subtrees rest

end

/-- The nodes of a type among a node and all those below it. -/
def find (node : Node) (type : String) : List Node :=
  node.subtree.filter fun found => found.face.type = type

/-- The node at the end of a way through nodes, which gives the index to take at each turn. -/
def at? : List Node → List Nat → Option Node
  | _, [] => none
  | nodes, [index] => nodes[index]?
  | nodes, index :: rest => nodes[index]?.bind fun node => at? node.children rest

/-- The first button with a label among nodes and all those below them. -/
def button? (nodes : List Node) (label : String) : Option Node :=
  (subtrees nodes).find? fun node =>
    node.face.type = "button" ∧ Fields.text? node.face.props "label" = some label

end Node

end ScreenScript
