import ScreenScript.Command.Check
import ScreenScript.Scenario.Step
import ScreenScript.Session

/-! # The bench of a scenario

The bench is what a scenario keeps beside the world: the names it has given, the nodes it has
rendered, and the scripts of its listeners. It is the state of the host program in the worlds
that scenarios drive.
-/

namespace ScreenScript.Scenario

/-- What a listener does when it is called: it takes its steps the first time, and then fails if
it is one that fails. -/
structure Script where
  reaction : List Step
  fails : Bool
deriving Inhabited

inductive Subscription where
  | scope (scope : ScopeId) (listener : String)
  | router (router : RouterId) (listener : String)
deriving Inhabited, Repr

structure Bench where
  /-- Whether the scenario has a router. -/
  hasRouter : Bool
  /-- A bound on the steps that listeners can take and on the screens that come in by them. -/
  budget : Nat
  scopes : List (String × ScopeId)
  subscriptions : List (String × Subscription)
  scripts : List (String × Script)
  renderings : List (List Node)
  views : List (String × View)
deriving Inhabited

/-- The bench on which only the main scope has a name. -/
def Bench.empty (hasRouter : Bool) (budget : Nat) : Bench :=
  ⟨hasRouter, budget, [("root", Scopes.main)], [], [], [], []⟩

/-- A node with its text, as it is seen at one moment. -/
inductive Shown where
  | shown (face : Face) (text : String) (children : List Shown)
deriving Inhabited, Repr

mutual

def see {H : Type} (world : World H) : Node → Shown
  | .component face scope children =>
    .shown face (world.text (.component face scope children)) (seeAll world children)

def seeAll {H : Type} (world : World H) : List Node → List Shown
  | [] => []
  | node :: rest => see world node :: seeAll world rest

end

inductive Answer where
  | nothing
  | value (value : Value)
  | missing
  | text (content : String)
  | names (names : List String)
  | flag (truth : Bool)
  | count (number : Nat)
  | screen (screen : Option Screen)
  | screens (screens : List (String × Screen))
  | consumer (serving : Bool)
  | node (node : Shown)
  | nodes (nodes : List Shown)
  | view (view : View)
  | sessionView (view : Option View)
deriving Inhabited, Repr

abbrev Drive := Eff Bench

namespace Drive

def keep (change : Bench → Bench) : Drive Unit :=
  modify fun world => { world with host := change world.host }

/-- The scope with a name; a name that was not given means the main scope. -/
def scope (name : String) : Drive ScopeId :=
  return (Keyed.get? (← get).host.scopes name).getD Scopes.main

def nameScope (name : String) (scope : ScopeId) : Drive Unit :=
  keep fun bench => { bench with scopes := Keyed.put bench.scopes name scope }

/-- The router of a step, if it is to have one. -/
def router (routed : Bool) : Drive (Option RouterId) :=
  return if routed && (← get).host.hasRouter then some World.mainRouter else none

/-- Gives a listener its script, unless it has one. -/
def script (listener : String) (script : Script) : Drive Unit :=
  keep fun bench =>
    if Keyed.contains bench.scripts listener then bench
    else { bench with scripts := Keyed.put bench.scripts listener script }

def nameSubscription (handle : String) (subscription : Subscription) : Drive Unit :=
  keep fun bench =>
    { bench with subscriptions := Keyed.put bench.subscriptions handle subscription }

def nameView (name : String) (view : View) : Drive Unit :=
  keep fun bench => { bench with views := Keyed.put bench.views name view }

def view (name : String) : Drive View := do
  match Keyed.get? (← get).host.views name with
  | some view => return view
  | none => throw .noSuchNode

/-- The node that a selector means. -/
def select (selector : Selector) : Drive Node := do
  let renderings := (← get).host.renderings
  let node :=
    match selector with
    | .way none turns => renderings.getLast?.bind fun nodes => Node.at? nodes turns
    | .way (some number) turns => renderings[number]?.bind fun nodes => Node.at? nodes turns
    | .label content => renderings.getLast?.bind fun nodes => Node.button? nodes content
  match node with
  | some node => return node
  | none => throw .noSuchNode

/-- Keeps a rendering and answers with what is seen of it. -/
def keepRendering (nodes : List Node) : Drive Answer := do
  keep fun bench => { bench with renderings := bench.renderings ++ [nodes] }
  return .nodes (seeAll (← get) nodes)

/-- A value that must meet its schema. -/
def require {α : Type} : Checked α → Drive α
  | .valid value => return value
  | .invalid issues => throw (.invalid issues)

/-- The command that a message stands for. -/
def command : Message → Drive Command
  | .checked command => require (Command.check command)
  | .raw attributes => return .foreign attributes

end Drive

end ScreenScript.Scenario
