import ScreenScript.Registry
import ScreenScript.Screen

/-! # Layouts

A layout is what components show for given data: a tree of faces. A list shows its components
once for each row, and a row is a scope of its own whose data is that of the enclosing scope
with the fields of the row put into it. Drawing a layout reads the data and changes nothing; it
leaves notices of what it had to leave out.
-/

namespace ScreenScript

/-- What a component shows. The rows are those of a list; each has its fields and shows a layout
for every component that the list gives it. -/
inductive Layout where
  | component (face : Face) (rows : List (Fields × List Layout))
deriving Inhabited, Repr

/-- Drawing collects notices. -/
abbrev Drawing := StateM (List Notice)

namespace Layout

def notice (notice : Notice) : Drawing Unit :=
  modify (· ++ [notice])

/-- The rows that the items of a list make: those that are mappings. -/
def rowFields (data : Fields) (props : Fields) : List Fields :=
  match Expression.evaluate (Expression.reader data) (props.getOrNull "items") with
  | .list items => items.filterMap Value.mapping?
  | _ => []

/-- Draws a component, where `rowLayouts` draws what it shows in a row with the given data. -/
def drawWith (registry : Registry) (router : Option Router) (data : Fields) (type : String)
    (props : Fields) (rowLayouts : Fields → Drawing (List Layout)) : Drawing (Option Layout) := do
  match Keyed.get? registry type with
  | none =>
    notice (.noRenderer type)
    return none
  | some renderer =>
    match Face.draw? (Expression.reader data) router props renderer with
    | none => return none
    | some face =>
      match renderer with
      | .list =>
        let rows ← (rowFields data props).mapM fun fields => do
          return (fields, ← rowLayouts (Keyed.merge data fields))
        return some (.component face rows)
      | _ => return some (.component face [])

/-- Draws a component of a row, which is passed over when it does not tell its type. -/
def drawTyped (registry : Registry) (router : Option Router) (data props : Fields)
    (rowLayouts : Fields → Drawing (List Layout)) : Drawing (Option Layout) :=
  match props.text? "type" with
  | some type => drawWith registry router data type props rowLayouts
  | none => return none

mutual

/-- Draws the components of a row. Those that are no mappings are passed over too. -/
def drawAll (registry : Registry) (router : Option Router) (data : Fields) :
    List Value → Drawing (List Layout)
  | [] => return []
  | .mapping props :: rest => do
    let drawn ← drawTyped registry router data props fun rowData =>
      drawRow registry router rowData props
    let others ← drawAll registry router data rest
    return drawn.toList ++ others
  | _ :: rest => drawAll registry router data rest

/-- Draws what a list with the given properties shows in a row with the given data. -/
def drawRow (registry : Registry) (router : Option Router) (data : Fields) :
    List (String × Value) → Drawing (List Layout)
  | [] => return []
  | (key, value) :: rest =>
    if key = "rowComponents" then drawItems registry router data value
    else drawRow registry router data rest

def drawItems (registry : Registry) (router : Option Router) (data : Fields) :
    Value → Drawing (List Layout)
  | .list components => drawAll registry router data components
  | _ => return []

end

/-- A row shows the components of the list under `rowComponents`, and nothing without one. -/
theorem drawRow_eq (registry : Registry) (router : Option Router) (data props : Fields) :
    drawRow registry router data props =
      match (Keyed.get? props "rowComponents").bind Value.list? with
      | some components => drawAll registry router data components
      | none => pure [] := by
  induction props with
  | nil => rfl
  | cons entry rest ih =>
    by_cases found : entry.1 = "rowComponents"
    · rw [drawRow, if_pos found, Keyed.get?, if_pos found]
      cases entry.2 <;> rfl
    · rw [drawRow, if_neg found, Keyed.get?, if_neg found, ih]

def draw (registry : Registry) (router : Option Router) (data : Fields) (type : String)
    (props : Fields) : Drawing (Option Layout) :=
  drawWith registry router data type props fun rowData => drawRow registry router rowData props

/-- Whether a component is shown on a screen: only a condition that is exactly false hides
it. -/
def isVisible (data : Fields) (props : Fields) : Bool :=
  match Keyed.get? props "visibleIf" with
  | none => true
  | some condition =>
    match Expression.evaluate (Expression.reader data) condition with
    | .bool false => false
    | _ => true

/-- Draws the component of a screen at an index. It is passed over with a notice when it does not
tell its type, and without one when it is hidden. -/
def drawOnScreen (registry : Registry) (router : Option Router) (data : Fields) (screen : String)
    (index : Nat) (props : Fields) : Drawing (Option Layout) := do
  match props.text? "type" with
  | none =>
    notice (.noType screen index)
    return none
  | some type =>
    if isVisible data props then draw registry router data type props else return none

def drawComponents (registry : Registry) (router : Option Router) (data : Fields)
    (screen : String) : (index : Nat) → List Fields → Drawing (List Layout)
  | _, [] => return []
  | index, props :: rest => do
    let drawn ← drawOnScreen registry router data screen index props
    let others ← drawComponents registry router data screen (index + 1) rest
    return drawn.toList ++ others

def drawScreen (registry : Registry) (router : Option Router) (data : Fields) (screen : Screen) :
    Drawing (List Layout) :=
  drawComponents registry router data screen.id 0 screen.components

end Layout

end ScreenScript
