import Mathlib.Data.List.Forall2
import ScreenScript.Proofs.Outcome
import ScreenScript.World.Rendering

/-! # What a row of a list shows

A list renders its components for each row in a scope of the row, and a screen renders its own in
the scope of its view. Both pass over components that do not tell their type, and both draw the
others in one and the same way, by whatever renderers the host has. They differ in one thing: a
screen leaves out the components whose condition is exactly false in its scope, and a row does not
look at conditions at all. So the two show the same exactly when no component that is hidden in the
scope of the row would have shown anything. And a row shows what a screen with the same components
would show if none of them had a condition, unless a renderer of the host asks for conditions
itself. Nodes are compared without the scopes that they live in. The notices that are left on the
way differ, and are not compared.
-/

namespace ScreenScript

variable {H : Type} {α β : Type}

namespace Drawing

/-- What a drawing comes to, its notices aside. -/
def result (drawing : Drawing α) : α :=
  (drawing.run []).1

/-- What a drawing comes to does not depend on the notices that were left before. -/
def Oblivious (drawing : Drawing α) : Prop :=
  ∀ notices, (drawing.run notices).1 = drawing.result

theorem Oblivious.pure (value : α) : Oblivious (Pure.pure value) :=
  fun _ => rfl

theorem Oblivious.notice (notice : Notice) : Oblivious (Layout.notice notice) :=
  fun _ => rfl

/-- What follows a drawing goes on from what that came to. -/
theorem result_bind {drawing : Drawing α} {rest : α → Drawing β}
    (second : ∀ value, Oblivious (rest value)) :
    result (drawing >>= rest) = result (rest drawing.result) :=
  second drawing.result (drawing.run []).2

theorem Oblivious.bind {drawing : Drawing α} {rest : α → Drawing β} (first : Oblivious drawing)
    (second : ∀ value, Oblivious (rest value)) : Oblivious (drawing >>= rest) := by
  intro notices
  have reached : ((drawing >>= rest).run notices).1 = (rest (drawing.run notices).1).result :=
    second (drawing.run notices).1 (drawing.run notices).2
  rw [reached, first notices, result_bind second]

theorem Oblivious.mapM {draw : α → Drawing β} (each : ∀ value, Oblivious (draw value))
    (values : List α) : Oblivious (values.mapM draw) := by
  induction values with
  | nil => exact .pure []
  | cons value rest ih =>
    rw [List.mapM_cons]
    exact (each value).bind fun _ => ih.bind fun _ => .pure _

theorem result_mapM {draw : α → Drawing β} (each : ∀ value, Oblivious (draw value))
    (values : List α) :
    result (values.mapM draw) = values.map fun value => (draw value).result := by
  induction values with
  | nil => rfl
  | cons value rest ih =>
    have later := Oblivious.mapM each rest
    rw [List.mapM_cons, result_bind fun _ => later.bind fun _ => .pure _,
      result_bind fun _ => .pure _, ih, List.map_cons]
    rfl

end Drawing

namespace Layout

open Drawing

section

variable {registry : Registry} {router : Option Router}

theorem oblivious_drawWith {rowLayouts : Fields → Drawing (List Layout)}
    (rows : ∀ data, Oblivious (rowLayouts data)) (data : Fields) (type : String) (props : Fields) :
    Oblivious (drawWith registry router data type props rowLayouts) := by
  unfold drawWith
  split
  · exact (Oblivious.notice _).bind fun _ => .pure none
  · split
    · exact .pure none
    · split
      · exact (Oblivious.mapM (fun _ => (rows _).bind fun _ => .pure _) _).bind fun _ => .pure _
      · exact .pure _

theorem oblivious_drawTyped {rowLayouts : Fields → Drawing (List Layout)}
    (rows : ∀ data, Oblivious (rowLayouts data)) (data props : Fields) :
    Oblivious (drawTyped registry router data props rowLayouts) := by
  unfold drawTyped
  split
  · exact oblivious_drawWith rows data _ props
  · exact .pure none

mutual

theorem oblivious_drawAll : (components : List Value) → (data : Fields) →
    Oblivious (drawAll registry router data components)
  | [], _ => .pure []
  | .mapping props :: rest, data =>
    (oblivious_drawTyped (oblivious_drawRow props) data props).bind fun _ =>
      (oblivious_drawAll rest data).bind fun _ => .pure _
  | .null :: rest, data => oblivious_drawAll rest data
  | .bool _ :: rest, data => oblivious_drawAll rest data
  | .int _ :: rest, data => oblivious_drawAll rest data
  | .float _ :: rest, data => oblivious_drawAll rest data
  | .text _ :: rest, data => oblivious_drawAll rest data
  | .list _ :: rest, data => oblivious_drawAll rest data

theorem oblivious_drawRow : (props : List (String × Value)) → (data : Fields) →
    Oblivious (drawRow registry router data props)
  | [], _ => .pure []
  | (key, value) :: rest, data => by
    rw [drawRow]
    split
    · exact oblivious_drawItems value data
    · exact oblivious_drawRow rest data

theorem oblivious_drawItems : (items : Value) → (data : Fields) →
    Oblivious (drawItems registry router data items)
  | .list components, data => oblivious_drawAll components data
  | .null, _ => .pure []
  | .bool _, _ => .pure []
  | .int _, _ => .pure []
  | .float _, _ => .pure []
  | .text _, _ => .pure []
  | .mapping _, _ => .pure []

end

/-- What a component shows in a row, if it tells its type and something is shown for it. -/
def shown? (registry : Registry) (router : Option Router) (data props : Fields) : Option Layout :=
  (drawTyped registry router data props fun rowData => drawRow registry router rowData props).result

theorem shown?_of_typed {data props : Fields} {type : String}
    (typed : props.text? "type" = some type) :
    shown? registry router data props = (draw registry router data type props).result := by
  rw [shown?, drawTyped, typed]
  rfl

theorem shown?_of_untyped {data props : Fields} (untyped : props.text? "type" = none) :
    shown? registry router data props = none := by
  rw [shown?, drawTyped, untyped]
  rfl

/-- A row shows the mappings among its components one after another, whether their conditions hold
or not. -/
theorem result_drawAll (data : Fields) (components : List Value) :
    (drawAll registry router data components).result =
      (components.filterMap Value.mapping?).filterMap (shown? registry router data) := by
  rw [List.filterMap_eq_flatMap_toList (shown? registry router data)]
  induction components with
  | nil => rfl
  | cons component rest ih =>
    have later : Oblivious (drawAll registry router data rest) := oblivious_drawAll rest data
    cases component with
    | mapping props =>
      rw [drawAll, result_bind fun _ => later.bind fun _ => .pure _,
        result_bind fun _ => .pure _, ih]
      rfl
    | _ => exact ih

/-- A list shows its components in a row for each mapping among its items. -/
theorem result_draw_list {type : String} (registered : Keyed.get? registry type = some .list)
    (data props : Fields) :
    (draw registry router data type props).result =
      some (.component (.plain "list" [Face.style props]) ((rowFields data props).map fun fields =>
        (fields, (drawRow registry router (Keyed.merge data fields) props).result))) := by
  have each (fields : Fields) : Oblivious (do
      return (fields, ← drawRow registry router (Keyed.merge data fields) props)) :=
    (oblivious_drawRow props _).bind fun _ => .pure _
  rw [draw, drawWith, registered]
  change (_ >>= fun rows => pure (some (component _ rows)) : Drawing (Option Layout)).result = _
  rw [result_bind fun _ => .pure _, result_mapM each]
  rfl

theorem oblivious_drawOnScreen (data : Fields) (screen : String) (index : Nat) (props : Fields) :
    Oblivious (drawOnScreen registry router data screen index props) := by
  unfold drawOnScreen
  split
  · exact (Oblivious.notice _).bind fun _ => .pure none
  · split
    · exact oblivious_drawWith (oblivious_drawRow props) data _ props
    · exact .pure none

/-- On a screen a component shows what it shows in a row, unless it is hidden. -/
theorem result_drawOnScreen (data : Fields) (screen : String) (index : Nat) (props : Fields) :
    (drawOnScreen registry router data screen index props).result =
      if isVisible data props then shown? registry router data props else none := by
  unfold drawOnScreen
  split
  next untyped =>
    rw [shown?_of_untyped untyped, ite_self]
    rfl
  next type typed =>
    rw [shown?_of_typed typed]
    split <;> rfl

theorem oblivious_drawComponents (data : Fields) (screen : String) (components : List Fields)
    (index : Nat) : Oblivious (drawComponents registry router data screen index components) := by
  induction components generalizing index with
  | nil => exact .pure []
  | cons props rest ih =>
    exact (oblivious_drawOnScreen data screen index props).bind fun _ =>
      (ih (index + 1)).bind fun _ => .pure _

/-- A screen shows those of its components that are visible. -/
theorem result_drawComponents (data : Fields) (screen : String) (components : List Fields)
    (index : Nat) :
    (drawComponents registry router data screen index components).result =
      (components.filter (isVisible data)).filterMap (shown? registry router data) := by
  rw [List.filterMap_filter, List.filterMap_eq_flatMap_toList]
  induction components generalizing index with
  | nil => rfl
  | cons props rest ih =>
    have later : Oblivious (drawComponents registry router data screen (index + 1) rest) :=
      oblivious_drawComponents data screen rest _
    rw [drawComponents, result_bind fun _ => later.bind fun _ => .pure _,
      result_bind fun _ => .pure _, ih, result_drawOnScreen, List.flatMap_cons]
    rfl

end

end Layout

/-- The properties of a component without its condition. -/
def Fields.unconditional (props : Fields) : Fields :=
  props.filter fun entry => entry.1 ≠ "visibleIf"

theorem Fields.get?_unconditional (props : Fields) (key : String) :
    Keyed.get? props.unconditional key =
      if key = "visibleIf" then none else Keyed.get? props key := by
  induction props with
  | nil => simp only [unconditional, List.filter_nil, Keyed.get?, ite_self]
  | cons entry rest ih =>
    unfold unconditional at ih ⊢
    by_cases condition : entry.1 = "visibleIf"
    · rw [List.filter_cons_of_neg (by simpa using condition), ih]
      split
      · rfl
      next other =>
        rw [Keyed.get?, if_neg fun same => other (same.symm.trans condition)]
    · rw [List.filter_cons_of_pos (by simpa using condition), Keyed.get?, Keyed.get?, ih]
      by_cases same : entry.1 = key
      · rw [if_pos same, if_pos same, if_neg (same ▸ condition)]
      · rw [if_neg same, if_neg same]

/-- The renderers of the host draw a component as if it had no condition. -/
def Registry.Heedless (registry : Registry) : Prop :=
  ∀ {type draw}, Keyed.get? registry type = some (.host draw) →
    ∀ read router props, draw read router (Fields.unconditional props) = draw read router props

theorem Registry.heedless_standard : Registry.standard.Heedless := by
  intro type draw registered
  simp only [standard, Keyed.get?] at registered
  split_ifs at registered <;> cases registered

namespace Layout

open Drawing

section

variable {registry : Registry} {router : Option Router}

theorem isVisible_unconditional (data props : Fields) :
    isVisible data props.unconditional = true := by
  rw [isVisible, Fields.get?_unconditional, if_pos rfl]

/-- The renderers of a registry do not look at the condition. -/
theorem draw?_unconditional {type : String} {renderer : Renderer} (heedless : registry.Heedless)
    (registered : Keyed.get? registry type = some renderer) (read : String → Option Value)
    (props : Fields) :
    Face.draw? read router props.unconditional renderer =
      Face.draw? read router props renderer := by
  cases renderer with
  | host draw => exact heedless registered read router props
  | _ =>
    simp [Face.draw?, Face.style, Fields.getOrNull, Fields.textOr, Fields.text?,
      Fields.get?_unconditional]

/-- A component shows in a row what it would show without its condition. -/
theorem shown?_unconditional (heedless : registry.Heedless) (data props : Fields) :
    shown? registry router data props.unconditional = shown? registry router data props := by
  have typed : props.unconditional.text? "type" = props.text? "type" := by
    rw [Fields.text?, Fields.get?_unconditional, if_neg (by decide)]
    rfl
  have rows : rowFields data props.unconditional = rowFields data props := by
    rw [rowFields, Fields.getOrNull, Fields.get?_unconditional, if_neg (by decide)]
    rfl
  have drawn (rowData : Fields) : drawRow registry router rowData props.unconditional =
      drawRow registry router rowData props := by
    rw [drawRow_eq, drawRow_eq, Fields.get?_unconditional, if_neg (by decide)]
  simp only [shown?, drawTyped, typed, drawn]
  cases props.text? "type" with
  | none => rfl
  | some type =>
    cases registered : Keyed.get? registry type with
    | none => simp only [drawWith, registered]
    | some renderer =>
      simp only [drawWith, registered, rows, draw?_unconditional heedless registered]

end

end Layout

namespace Node

mutual

/-- The node without the scopes that it and the nodes below it live in. Nodes that are the same
without them cannot be told apart by what they show, bind and do. -/
def unscoped : Node → Node
  | .component face _ children => .component face Scopes.main (unscopedAll children)

def unscopedAll : List Node → List Node
  | [] => []
  | node :: rest => unscoped node :: unscopedAll rest

end

end Node

namespace Layout

mutual

/-- The node that a layout comes to, without its scope. -/
def unscoped : Layout → Node
  | .component face rows => .component face Scopes.main (unscopedRows rows)

def unscopedAll : List Layout → List Node
  | [] => []
  | layout :: rest => unscoped layout :: unscopedAll rest

/-- The nodes that the rows of a list come to, without their scopes. -/
def unscopedRows : List (Fields × List Layout) → List Node
  | [] => []
  | (fields, layouts) :: rest =>
    .component (.row fields) Scopes.main (unscopedAll layouts) :: unscopedRows rest

end

theorem unscopedAll_eq_map (layouts : List Layout) :
    unscopedAll layouts = layouts.map unscoped := by
  induction layouts with
  | nil => rfl
  | cons layout rest ih => rw [unscopedAll, ih, List.map_cons]

end Layout

namespace Scopes

mutual

/-- Where layouts are brought to life is seen in the scopes of their nodes only. -/
theorem unscoped_place (scope : ScopeId) :
    (layout : Layout) → (scopes : Scopes) → (place scope layout scopes).1.unscoped = layout.unscoped
  | .component face rows, scopes => by
    simp only [place, Node.unscoped, Layout.unscoped, unscoped_placeRows scope rows scopes]

theorem unscoped_placeAll (scope : ScopeId) :
    (layouts : List Layout) → (scopes : Scopes) →
      Node.unscopedAll (placeAll scope layouts scopes).1 = Layout.unscopedAll layouts
  | [], _ => rfl
  | layout :: rest, scopes => by
    simp only [placeAll, Node.unscopedAll, Layout.unscopedAll, unscoped_place scope layout scopes,
      unscoped_placeAll scope rest]

theorem unscoped_placeRows (scope : ScopeId) :
    (rows : List (Fields × List Layout)) → (scopes : Scopes) →
      Node.unscopedAll (placeRows scope rows scopes).1 = Layout.unscopedRows rows
  | [], _ => rfl
  | (fields, layouts) :: rest, scopes => by
    simp only [placeRows, Node.unscopedAll, Node.unscoped, Layout.unscopedRows,
      unscoped_placeAll _ layouts, unscoped_placeRows scope rest]

end

/-- Every row comes to a node of its own, with the fields of the row and what it shows. -/
theorem placeRows_forall₂ (scope : ScopeId) (rows : List (Fields × List Layout))
    (scopes : Scopes) :
    List.Forall₂ (fun row node => node.face = .row row.1 ∧
        Node.unscopedAll node.children = Layout.unscopedAll row.2)
      rows (placeRows scope rows scopes).1 := by
  induction rows generalizing scopes with
  | nil => exact .nil
  | cons row rest ih =>
    obtain ⟨fields, layouts⟩ := row
    exact .cons ⟨rfl, unscoped_placeAll _ layouts _⟩ (ih _)

end Scopes

/-- Leaving some values out beforehand changes nothing exactly when they come to nothing. -/
private theorem filterMap_filter_eq_iff {value? : α → Option β} {keep : α → Bool}
    (values : List α) :
    (values.filter keep).filterMap value? = values.filterMap value? ↔
      ∀ value ∈ values, keep value = false → value? value = none := by
  induction values with
  | nil => simp only [List.filter_nil, List.not_mem_nil, false_implies, implies_true]
  | cons value rest ih =>
    rw [List.forall_mem_cons, ← ih]
    have fewer : ((rest.filter keep).filterMap value?).length ≤ (rest.filterMap value?).length :=
      (List.filter_sublist.filterMap value?).length_le
    cases kept : keep value with
    | true =>
      rw [List.filter_cons_of_pos kept, List.filterMap_cons, List.filterMap_cons]
      cases value? value <;> simp
    | false =>
      rw [List.filter_cons_of_neg (Bool.eq_false_iff.mp kept), List.filterMap_cons]
      cases value? value with
      | none => simp
      | some result =>
        -- The value that is left out would make the list longer.
        constructor
        · intro same
          rw [same, List.length_cons] at fewer
          omega
        · rintro ⟨none, _⟩
          cases none rfl

namespace Eff

open Layout

/-- Renders a screen in a scope of its own, forked with the fields of a row. -/
def renderForked (scope : ScopeId) (router : Option RouterId) (fields : Fields) (screen : Screen) :
    Eff H (List Node) := do
  let world ← get
  set { world with scopes := world.scopes.fork scope fields }
  render (View.fresh screen world.scopes.next router)

/-- What a row shows, beside what a screen shows in a scope that is forked with its fields. -/
structure RowShows (world : World H) (scope : ScopeId) (router : Option RouterId)
    (components : List Fields) (fields : Fields) (row : Node) : Prop where
  face : row.face = .row fields
  /-- The row shows what a screen shows whose components are the same, but without conditions, as
  long as no renderer of the host asks for those. -/
  unconditional : world.registry.Heedless →
    ∀ screen : Screen, screen.components = components.map Fields.unconditional →
      ∃ nodes last, renderForked scope router fields screen world = .ok nodes last ∧
        Node.unscopedAll nodes = Node.unscopedAll row.children
  /-- With conditions a screen shows the same exactly when nothing is shown for those components
  that are hidden. -/
  conditional : ∀ screen : Screen, screen.components = components →
    ∃ nodes last, renderForked scope router fields screen world = .ok nodes last ∧
      (Node.unscopedAll nodes = Node.unscopedAll row.children ↔
        ∀ props ∈ components, isVisible (Keyed.merge (world.data scope) fields) props = false →
          shown? world.registry (router.map world.routers) (Keyed.merge (world.data scope) fields)
            props = none)

variable (world : World H) (scope : ScopeId) (router : Option RouterId)

/-- A screen shows those of its components that are visible in the forked scope. -/
theorem unscoped_renderForked (fields : Fields) (screen : Screen) :
    ∃ nodes last, renderForked scope router fields screen world = .ok nodes last ∧
      Node.unscopedAll nodes = unscopedAll
        ((screen.components.filter (isVisible (Keyed.merge (world.data scope) fields))).filterMap
          (shown? world.registry (router.map world.routers)
            (Keyed.merge (world.data scope) fields))) := by
  have data : ({ world with scopes := world.scopes.fork scope fields } : World H).data
      world.scopes.next = Keyed.merge (world.data scope) fields := by
    rw [World.data, Scopes.get_fork, if_pos rfl]
    rfl
  refine ⟨_, _, rfl, ?_⟩
  rw [← result_drawComponents _ screen.id screen.components 0, ← data]
  exact Scopes.unscoped_placeAll _ _ _

/-- A row that shows all its components, hidden or not. -/
theorem rowShows_of_shown {components : List Fields} {fields : Fields} {row : Node}
    (face : row.face = .row fields)
    (shown : Node.unscopedAll row.children = unscopedAll (components.filterMap
      (shown? world.registry (router.map world.routers) (Keyed.merge (world.data scope) fields)))) :
    RowShows world scope router components fields row where
  face := face
  unconditional heedless screen same := by
    obtain ⟨nodes, last, rendered, drawn⟩ := unscoped_renderForked world scope router fields screen
    refine ⟨nodes, last, rendered, ?_⟩
    have visible : ∀ props ∈ components.map Fields.unconditional,
        isVisible (Keyed.merge (world.data scope) fields) props = true := by
      intro props member
      obtain ⟨props, _, rfl⟩ := List.mem_map.mp member
      exact isVisible_unconditional _ props
    have unchanged (routed : Option Router) (data : Fields) :
        shown? world.registry routed data ∘ Fields.unconditional =
          shown? world.registry routed data :=
      funext (shown?_unconditional heedless _)
    rw [drawn, shown, same, List.filter_eq_self.mpr visible, List.filterMap_map, unchanged]
  conditional screen same := by
    obtain ⟨nodes, last, rendered, drawn⟩ := unscoped_renderForked world scope router fields screen
    refine ⟨nodes, last, rendered, ?_⟩
    rw [drawn, shown, same, unscopedAll_eq_map, unscopedAll_eq_map, List.map_filterMap,
      List.map_filterMap, filterMap_filter_eq_iff]
    simp only [Option.map_eq_none_iff]

/-- A list renders one row for each mapping among its items, and every row shows all components of
the list, in a scope forked with its fields. That is what a screen with these components shows there
exactly when nothing is shown for those that their conditions hide; and it is what the screen shows
if the conditions are taken away. -/
theorem rowShows_of_renderComponent {type : String} {props : Fields} {components : List Fields}
    (registered : Keyed.get? world.registry type = some .list)
    (listed : Keyed.get? props "rowComponents" = some (.list (components.map .mapping))) :
    ∃ list last, renderComponent scope router type props world = .ok [list] last ∧
      List.Forall₂ (RowShows world scope router components)
        (rowFields (world.data scope) props) list.children := by
  let rows := (rowFields (world.data scope) props).map fun fields =>
    (fields, (drawRow world.registry (router.map world.routers)
      (Keyed.merge (world.data scope) fields) props).result)
  let list : Node := .component (.plain "list" [Face.style props]) scope
    (world.scopes.placeRows scope rows).1
  -- What is drawn has a row for each mapping, and each row of it comes to one node.
  have drawn :
      (draw world.registry (router.map world.routers) (world.data scope) type props).result =
        some (.component (.plain "list" [Face.style props]) rows) :=
    result_draw_list registered (world.data scope) props
  have rendered : ∃ last, renderComponent scope router type props world = .ok
      (world.scopes.placeAll scope (draw world.registry (router.map world.routers)
        (world.data scope) type props).result.toList).1 last :=
    ⟨_, rfl⟩
  rw [drawn] at rendered
  obtain ⟨last, rendered⟩ := rendered
  refine ⟨list, last, rendered, ?_⟩
  have placed := List.forall₂_map_left_iff.mp (Scopes.placeRows_forall₂ scope rows world.scopes)
  refine placed.imp fun fields row shows => ?_
  refine rowShows_of_shown world scope router shows.1 (shows.2.trans ?_)
  have all : (Keyed.get? props "rowComponents").bind Value.list? =
      some (components.map .mapping) := by
    rw [listed]
    rfl
  have mappings : (components.map Value.mapping).filterMap Value.mapping? = components := by
    rw [List.filterMap_map]
    exact List.filterMap_some
  simp only [drawRow_eq, all, result_drawAll, mappings]

/-- A text with a condition that is false. -/
private def hidden : Fields :=
  [("type", .text "text"), ("value", .text "hidden"), ("visibleIf", .bool false)]

/-- A list that shows it in its only row. -/
private def revealing : Fields :=
  [("items", .list [.mapping [("n", .text "x")]]), ("rowComponents", .list [.mapping hidden])]

/-- The row shows the text, and a screen in the scope of the row does not, unless the condition is
taken away. -/
theorem rowShows_of_renderComponent_hidden :
    ∃ list last row nodes last' nodes' last'',
      renderComponent Scopes.main none "list" revealing
        (World.initial [] "Alerta" Registry.standard ()) = .ok [list] last ∧
      list.children = [row] ∧
      row.children.map (fun node : Node => Fields.text? node.face.props "value") = [some "hidden"] ∧
      renderForked Scopes.main none [("n", .text "x")] ⟨"s", [hidden], none, .null⟩
        (World.initial [] "Alerta" Registry.standard ()) = .ok nodes last' ∧
      Node.unscopedAll nodes ≠ Node.unscopedAll row.children ∧
      renderForked Scopes.main none [("n", .text "x")] ⟨"s", [hidden.unconditional], none, .null⟩
        (World.initial [] "Alerta" Registry.standard ()) = .ok nodes' last'' ∧
      Node.unscopedAll nodes' = Node.unscopedAll row.children := by
  obtain ⟨list, last, rendered, rows⟩ := rowShows_of_renderComponent
    (World.initial [] "Alerta" Registry.standard ()) Scopes.main none
    (show Keyed.get? Registry.standard "list" = some .list from rfl)
    (show Keyed.get? revealing "rowComponents" = some (.list ([hidden].map .mapping)) from rfl)
  cases rendered
  cases rows with
  | cons shows rest =>
    cases rest
    obtain ⟨nodes, last', rendered', same⟩ :=
      shows.conditional ⟨"s", [hidden], none, .null⟩ rfl
    obtain ⟨nodes', last'', rendered'', same'⟩ :=
      shows.unconditional Registry.heedless_standard ⟨"s", [hidden.unconditional], none, .null⟩ rfl
    refine ⟨_, _, _, nodes, last', nodes', last'', rfl, rfl, rfl, rendered', fun equal => ?_,
      rendered'', same'⟩
    cases same.mp equal hidden (List.mem_singleton_self _) rfl

end Eff

end ScreenScript
