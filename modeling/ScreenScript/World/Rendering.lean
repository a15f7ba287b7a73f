import ScreenScript.World

/-! # Rendering

Rendering draws a layout from the data of a scope and brings it to life: every row gets a scope
of its own, forked from the scope around its list.
-/

namespace ScreenScript

namespace Scopes

mutual

/-- Brings a layout to life in a scope. -/
def place (scope : ScopeId) : Layout → Scopes → Node × Scopes
  | .component face rows, scopes =>
    let (children, scopes) := placeRows scope rows scopes
    (.component face scope children, scopes)

def placeAll (scope : ScopeId) : List Layout → Scopes → List Node × Scopes
  | [], scopes => ([], scopes)
  | layout :: rest, scopes =>
    let (node, scopes) := place scope layout scopes
    let (others, scopes) := placeAll scope rest scopes
    (node :: others, scopes)

/-- Brings the rows of a list to life, each in a scope forked from that of the list. -/
def placeRows (scope : ScopeId) : List (Fields × List Layout) → Scopes → List Node × Scopes
  | [], scopes => ([], scopes)
  | (fields, layouts) :: rest, scopes =>
    -- The scope of the row comes before those of the rows inside it.
    let row := scopes.next
    let (children, scopes) := placeAll row layouts (scopes.fork scope fields)
    let (others, scopes) := placeRows scope rest scopes
    (.component (.row fields) row children :: others, scopes)

end

end Scopes

namespace Eff

variable {H : Type}

/-- Draws layouts and brings them to life in a scope. -/
def place (scope : ScopeId) (drawing : Drawing (List Layout)) : Eff H (List Node) := do
  let (layouts, notices) := drawing.run []
  let (nodes, scopes) := (← get).scopes.placeAll scope layouts
  modify fun world => { world.record notices with scopes := scopes }
  return nodes

def render (view : View) : Eff H (List Node) := do
  let world ← get
  place view.scope
    (Layout.drawScreen world.registry (view.router.map world.routers) (world.data view.scope)
      view.screen)

/-- Renders one component of a type in a scope. -/
def renderComponent (scope : ScopeId) (router : Option RouterId) (type : String)
    (props : Fields) : Eff H (List Node) := do
  let world ← get
  place scope
    (Option.toList <$>
      Layout.draw world.registry (router.map world.routers) (world.data scope) type props)

end Eff

end ScreenScript
