import ScreenScript.Proofs.Expression.Unambiguous
import ScreenScript.Proofs.Rendering.Rows
import ScreenScript.Proofs.Scope.Births

/-! # What is read in nested rows

A list in a row of another list makes rows within that row, to any depth. Each row has the data of
what is around it with its own fields put into them, so in the innermost row a path leads where the
nearest row leads that has its first key, and to the data around the outermost list when none has.
Only first keys are compared: a row that has the first key and not the rest hides whatever the data
farther out have under it, and so does a row with `null` there. The rows that lists yield are told
from data and components alone, and the nodes that are rendered have these rows and no others. What
is read is settled when the rows come into being; what actions write to them later is not followed.
-/

namespace ScreenScript

variable {H : Type} {α β : Type}

namespace Fields

/-- What is found under a path of `key` and `rest` among rows that stand one inside another, the
outermost first, within some data around them. -/
structure Shadows (root : Fields) (rows : List Fields) (key : String) (rest : Path)
    (found : Option Value) : Prop where
  /-- The innermost row that has the first key decides, whether it has the rest or not. -/
  bound : ∀ (outer : List Fields) (row : Fields) (inner : List Fields),
    rows = outer ++ row :: inner → key ∈ Keyed.keys row →
    (∀ other ∈ inner, key ∉ Keyed.keys other) → found = row.at? (key :: rest)
  /-- When no row has the first key, the data around the rows decide. -/
  free : (∀ row ∈ rows, key ∉ Keyed.keys row) → found = root.at? (key :: rest)

theorem Shadows.none (root : Fields) (key : String) (rest : Path) :
    Shadows root [] key rest (root.at? (key :: rest)) where
  bound outer row inner split := by
    have impossible : outer ++ row :: inner = [] := split.symm
    cases (List.append_eq_nil_iff.mp impossible).2
  free _ := rfl

/-- A row around the others is asked before the data around it. -/
theorem Shadows.cons {root fields : Fields} {rows : List Fields} {key : String} {rest : Path}
    {found : Option Value} (unique : (Keyed.keys fields).Nodup)
    (inner : Shadows (Keyed.merge root fields) rows key rest found) :
    Shadows root (fields :: rows) key rest found where
  bound outer row behind split member absent := by
    cases outer with
    | nil =>
      obtain ⟨rfl, rfl⟩ := List.cons.inj split
      rw [inner.free absent, at?_cons, at?_cons, Keyed.get?_merge root unique, if_pos member]
    | cons first outer =>
      obtain ⟨-, later⟩ := List.cons.inj split
      exact inner.bound outer row behind later member absent
  free absent := by
    obtain ⟨here, later⟩ := List.forall_mem_cons.mp absent
    rw [inner.free later, at?_cons, at?_cons, Keyed.get?_merge root unique, if_neg here]

/-- The data of the innermost row: the fields of all rows put into the data around them, from the
outermost on. -/
theorem shadows_foldl_merge (root : Fields) {rows : List Fields}
    (unique : ∀ fields ∈ rows, (Keyed.keys fields).Nodup) (key : String) (rest : Path) :
    Shadows root rows key rest (Fields.at? (rows.foldl Keyed.merge root) (key :: rest)) := by
  induction rows generalizing root with
  | nil => exact .none root key rest
  | cons fields rows ih =>
    obtain ⟨here, later⟩ := List.forall_mem_cons.mp unique
    exact (ih (Keyed.merge root fields) later).cons here

end Fields

namespace Node

/-- Rows that stand one inside another, the outermost first: that is a row of a list among the given
nodes, and each other one is a row of a list that stands in the row before it. -/
inductive Nested : List Node → List Node → Prop
  | none (nodes : List Node) : Nested nodes []
  | row {nodes rows : List Node} {list row : Node} (listed : list ∈ nodes)
      (member : row ∈ list.children) (inner : Nested row.children rows) : Nested nodes (row :: rows)

/-- The fields that rows show. -/
def fieldsOf (rows : List Node) : List Fields :=
  rows.map fun row => row.face.props

/-- The scope of the innermost of rows, and the scope around them when there is none. -/
def innermost (around : ScopeId) : List Node → ScopeId
  | [] => around
  | row :: rows => innermost row.scope rows

end Node

namespace Layout

open Drawing

def rows : Layout → List (Fields × List Layout)
  | .component _ rows => rows

/-- The components that tell their types, with these. -/
def typed (components : List Fields) : List (String × Fields) :=
  components.filterMap fun props => (props.text? "type").map fun type => (type, props)

/-- The components that a list with the given properties shows in each of its rows. -/
def rowComponents (props : Fields) : List (String × Fields) :=
  typed ((((Keyed.get? props "rowComponents").bind Value.list?).getD []).filterMap Value.mapping?)

/-- Lists yield rows, one inside another. The first row is a mapping among the items of a list,
which are evaluated on the data around it; the others come in the same way of the components that
this list shows in its rows, on the data around with the first row put into them. -/
inductive Yields (registry : Registry) : Fields → List (String × Fields) → List Fields → Prop
  | none (data : Fields) (components : List (String × Fields)) : Yields registry data components []
  | row {data : Fields} {components : List (String × Fields)} {component : String × Fields}
      {fields : Fields} {rows : List Fields} (member : component ∈ components)
      (registered : Keyed.get? registry component.1 = some .list)
      (item : fields ∈ rowFields data component.2)
      (inner : Yields registry (Keyed.merge data fields) (rowComponents component.2) rows) :
      Yields registry data components (fields :: rows)

theorem mem_of_mem_typed {components : List Fields} {component : String × Fields}
    (member : component ∈ typed components) : component.2 ∈ components := by
  obtain ⟨props, listed, found⟩ := List.mem_filterMap.mp member
  obtain ⟨type, -, rfl⟩ := Option.map_eq_some_iff.mp found
  exact listed

/-- No key comes twice into the fields of a row. -/
theorem unambiguous_of_mem_rowFields {data props fields : Fields} (known : data.Unambiguous)
    (unambiguous : props.Unambiguous) (member : fields ∈ rowFields data props) :
    fields.Unambiguous := by
  have node : (props.getOrNull "items").Unambiguous := by
    rw [Fields.getOrNull]
    cases found : Keyed.get? props "items" with
    | none => exact .plain rfl rfl
    | some items => exact unambiguous.get? found
  have evaluated := Expression.unambiguous_evaluate known.reader node
  rw [rowFields] at member
  split at member
  next items same =>
    rw [same] at evaluated
    obtain ⟨item, listed, mapping⟩ := List.mem_filterMap.mp member
    cases item <;> cases mapping
    exact evaluated.items _ listed
  next => cases member

theorem unambiguous_of_mem_rowComponents {props : Fields} (unambiguous : props.Unambiguous) :
    ∀ component ∈ rowComponents props, component.2.Unambiguous := by
  intro component member
  obtain ⟨value, listed, mapping⟩ := List.mem_filterMap.mp (mem_of_mem_typed member)
  cases value <;> cases mapping
  cases found : (Keyed.get? props "rowComponents").bind Value.list? with
  | none =>
    rw [found] at listed
    cases listed
  | some items =>
    rw [found] at listed
    obtain ⟨node, known, list⟩ := Option.bind_eq_some_iff.mp found
    cases node <;> cases list
    exact (unambiguous.get? known).items _ listed

/-- No key comes twice into any of the rows, when there is none in what they come of. -/
theorem Yields.unambiguous {registry : Registry} {data : Fields}
    {components : List (String × Fields)} {rows : List Fields}
    (yields : Yields registry data components rows) (known : data.Unambiguous)
    (props : ∀ component ∈ components, component.2.Unambiguous) :
    ∀ fields ∈ rows, fields.Unambiguous := by
  induction yields with
  | none => exact List.forall_mem_nil _
  | row member _ item _ ih =>
    have own := unambiguous_of_mem_rowFields known (props _ member) item
    exact List.forall_mem_cons.mpr ⟨own, ih (known.merge own.inside)
      (unambiguous_of_mem_rowComponents (props _ member))⟩

/-- What a component comes to on some data. -/
def drawn? (registry : Registry) (router : Option Router) (data : Fields)
    (component : String × Fields) : Option Layout :=
  (draw registry router data component.1 component.2).result

section

variable {registry : Registry} {router : Option Router}

theorem filterMap_shown? (data : Fields) (components : List Fields) :
    components.filterMap (shown? registry router data) =
      (typed components).filterMap (drawn? registry router data) := by
  rw [typed, List.filterMap_filterMap]
  refine List.filterMap_congr fun props _ => ?_
  cases type : props.text? "type" with
  | none => exact shown?_of_untyped type
  | some name => exact shown?_of_typed type

theorem result_drawRow (data props : Fields) :
    (drawRow registry router data props).result =
      (rowComponents props).filterMap (drawn? registry router data) := by
  rw [drawRow_eq, rowComponents, ← filterMap_shown?]
  cases (Keyed.get? props "rowComponents").bind Value.list? with
  | none => rfl
  | some components => exact result_drawAll data components

/-- A list has a row for each mapping among its items, in which it shows its components. -/
theorem exists_drawn?_list (router : Option Router) {component : String × Fields}
    (registered : Keyed.get? registry component.1 = some .list) (data : Fields) :
    ∃ layout, drawn? registry router data component = some layout ∧
      layout.rows = (rowFields data component.2).map fun fields =>
        (fields, (rowComponents component.2).filterMap
          (drawn? registry router (Keyed.merge data fields))) := by
  rw [drawn?, result_draw_list registered]
  refine ⟨_, rfl, ?_⟩
  simp only [rows, result_drawRow]

/-- Nothing but a list has rows. -/
theorem registered_of_mem_rows {data : Fields} {component : String × Fields} {layout : Layout}
    (drawn : drawn? registry router data component = some layout) {row : Fields × List Layout}
    (member : row ∈ layout.rows) : Keyed.get? registry component.1 = some .list := by
  rw [drawn?, draw, drawWith] at drawn
  split at drawn
  · cases drawn
  next renderer known =>
    split at drawn
    · cases drawn
    · cases renderer with
      | list => exact known
      | _ =>
        cases drawn
        cases member

/-- Each row comes of a list, from a mapping among its items. -/
theorem exists_of_mem_rows {data : Fields} {component : String × Fields} {layout : Layout}
    (drawn : drawn? registry router data component = some layout) {row : Fields × List Layout}
    (member : row ∈ layout.rows) :
    Keyed.get? registry component.1 = some .list ∧ row.1 ∈ rowFields data component.2 ∧
      row.2 = (rowComponents component.2).filterMap
        (drawn? registry router (Keyed.merge data row.1)) := by
  have registered := registered_of_mem_rows drawn member
  obtain ⟨same, drawn', rows⟩ := exists_drawn?_list router registered data
  cases drawn.symm.trans drawn'
  rw [rows] at member
  obtain ⟨fields, item, rfl⟩ := List.mem_map.mp member
  exact ⟨registered, item, rfl⟩

end

end Layout

namespace Scopes

/-- The scopes that were in use are still there, and no other than they were. -/
structure Kept (scopes last : Scopes) : Prop where
  next : scopes.next ≤ last.next
  get : ∀ id < scopes.next, last.get id = scopes.get id

theorem Kept.trans {first middle last : Scopes} (left : Kept first middle)
    (right : Kept middle last) : Kept first last where
  next := Nat.le_trans left.next right.next
  get id used := by rw [right.get id (Nat.lt_of_lt_of_le used left.next), left.get id used]

theorem Forked.kept {scopes last : Scopes} {births : List Birth}
    (forked : Forked scopes births last) : Kept scopes last :=
  ⟨forked.next_le, fun _ used => forked.get_eq used⟩

theorem kept_fork (scopes : Scopes) (scope : ScopeId) (fields : Fields) :
    Kept scopes (scopes.fork scope fields) :=
  ⟨Nat.le_succ _, fun _ used => get_fork_of_lt scopes scope fields used⟩

/-- A row was brought to life in a scope of its own, which has the data of the scope around with the
fields of the row put into them. -/
structure RowPlaced (final : Scopes) (scope : ScopeId) (row : Fields × List Layout) (node : Node) :
    Prop where
  face : node.face = .row row.1
  data : (final.get node.scope).data = Keyed.merge (final.get scope).data row.1
  shows : ∃ before, node.scope < before.next ∧
    node.children = (placeAll node.scope row.2 before).1 ∧
      Kept (placeAll node.scope row.2 before).2 final

section

variable {scope : ScopeId} {scopes final : Scopes}

/-- Each row of a layout comes to one node. -/
theorem rowPlaced_placeRows {rows : List (Fields × List Layout)} (used : scope < scopes.next)
    (kept : Kept (placeRows scope rows scopes).2 final) :
    List.Forall₂ (RowPlaced final scope) rows (placeRows scope rows scopes).1 := by
  induction rows generalizing scopes with
  | nil => exact .nil
  | cons row rest ih =>
    obtain ⟨fields, layouts⟩ := row
    have new : scopes.next < (scopes.fork scope fields).next := Nat.lt_succ_self _
    have inside := forked_placeAll scopes.next layouts new
    have there := Nat.lt_of_lt_of_le (Nat.lt_succ_of_lt used) inside.next_le
    have placed := (forked_placeRows scope rest there).kept.trans kept
    -- Neither what is in the row nor the rows behind it touch its scope or the one around.
    have born := inside.kept.trans placed
    have around : final.get scope = scopes.get scope :=
      ((kept_fork scopes scope fields).trans born).get scope used
    have forked : final.get scopes.next = (scopes.get scope).fork fields :=
      (born.get scopes.next new).trans (if_pos rfl)
    refine .cons ⟨rfl, ?_, scopes.fork scope fields, new, rfl, placed⟩ (ih there kept)
    rw [around]
    exact congrArg Scope.data forked

/-- Each layout comes to one node, and the nodes below it are its rows. -/
theorem rowPlaced_placeAll {layouts : List Layout} (used : scope < scopes.next)
    (kept : Kept (placeAll scope layouts scopes).2 final) :
    List.Forall₂ (fun layout node => List.Forall₂ (RowPlaced final scope) layout.rows node.children)
      layouts (placeAll scope layouts scopes).1 := by
  induction layouts generalizing scopes with
  | nil => exact .nil
  | cons layout rest ih =>
    obtain ⟨face, rows⟩ := layout
    have there := Nat.lt_of_lt_of_le used (forked_placeRows scope rows used).next_le
    have others := (forked_placeAll scope rest there).kept.trans kept
    exact .cons (rowPlaced_placeRows used others) (ih there kept)

end

end Scopes

private theorem exists_of_mem_right {relation : α → β → Prop} {left : List α} {right : List β}
    (related : List.Forall₂ relation left right) {value : β} (member : value ∈ right) :
    ∃ other ∈ left, relation other value := by
  induction related with
  | nil => cases member
  | cons here _ ih =>
    rcases List.mem_cons.mp member with rfl | later
    · exact ⟨_, List.mem_cons_self .., here⟩
    · obtain ⟨other, listed, found⟩ := ih later
      exact ⟨other, List.mem_cons_of_mem _ listed, found⟩

private theorem exists_of_mem_left {relation : α → β → Prop} {left : List α} {right : List β}
    (related : List.Forall₂ relation left right) {value : α} (member : value ∈ left) :
    ∃ other ∈ right, relation value other :=
  exists_of_mem_right related.flip member

section

open Layout Scopes

variable (registry : Registry) (router : Option Router) (final : Scopes)

/-- Rows that stand one inside another are yielded by lists, and the innermost one has the data
around with the fields of all of them put into them. The induction is on the rows, from the
outermost: what is in a row was drawn and placed as the nodes around it were, in the scope of the
row. -/
theorem yields_of_nested {nodes rows : List Node} (nested : Node.Nested nodes rows)
    {scope : ScopeId} {components : List (String × Fields)} {scopes : Scopes}
    (used : scope < scopes.next)
    (placed : nodes = (placeAll scope
      (components.filterMap (drawn? registry router (final.get scope).data)) scopes).1)
    (kept : Kept (placeAll scope
      (components.filterMap (drawn? registry router (final.get scope).data)) scopes).2 final) :
    Yields registry (final.get scope).data components (Node.fieldsOf rows) ∧
      (final.get (Node.innermost scope rows)).data =
        (Node.fieldsOf rows).foldl Keyed.merge (final.get scope).data := by
  induction nested generalizing scope components scopes with
  | none nodes => exact ⟨.none _ components, rfl⟩
  | @row nodes rows list row listed member inner ih =>
    subst placed
    obtain ⟨layout, shown, rowsPlaced⟩ := exists_of_mem_right (rowPlaced_placeAll used kept) listed
    obtain ⟨component, known, drawn⟩ := List.mem_filterMap.mp shown
    obtain ⟨⟨fields, layouts⟩, made, placedRow⟩ := exists_of_mem_right rowsPlaced member
    obtain ⟨registered, item, shows⟩ := exists_of_mem_rows drawn made
    obtain ⟨before, new, children, keptRow⟩ := placedRow.shows
    -- What the row shows was drawn on the data that its scope has now.
    rw [shows, ← placedRow.data] at children keptRow
    obtain ⟨yields, data⟩ := ih new children keptRow
    rw [placedRow.data] at yields data
    rw [Node.fieldsOf, List.map_cons, placedRow.face]
    exact ⟨.row known registered item yields, data⟩

/-- All rows that lists yield stand among the nodes, one inside another. -/
theorem nested_of_yields {data : Fields} {components : List (String × Fields)}
    {rows : List Fields} (yields : Yields registry data components rows) {scope : ScopeId}
    {scopes : Scopes} (used : scope < scopes.next) (same : (final.get scope).data = data)
    (kept : Kept (placeAll scope
      (components.filterMap (drawn? registry router data)) scopes).2 final) :
    ∃ nodes, Node.Nested (placeAll scope
      (components.filterMap (drawn? registry router data)) scopes).1 nodes ∧
        Node.fieldsOf nodes = rows := by
  induction yields generalizing scope scopes with
  | none => exact ⟨[], .none _, rfl⟩
  | @row data components component fields rows member registered item _ ih =>
    obtain ⟨layout, drawn, layoutRows⟩ := exists_drawn?_list router registered data
    have shown := List.mem_filterMap.mpr ⟨component, member, drawn⟩
    obtain ⟨list, listed, rowsPlaced⟩ := exists_of_mem_left (rowPlaced_placeAll used kept) shown
    rw [layoutRows] at rowsPlaced
    obtain ⟨row, below, placedRow⟩ :=
      exists_of_mem_left rowsPlaced (List.mem_map.mpr ⟨fields, item, rfl⟩)
    obtain ⟨before, new, children, keptRow⟩ := placedRow.shows
    obtain ⟨inner, nested, shows⟩ := ih new (placedRow.data.trans (same ▸ rfl)) keptRow
    refine ⟨row :: inner, .row listed below (children ▸ nested), ?_⟩
    rw [Node.fieldsOf, List.map_cons, placedRow.face]
    exact congrArg (fields :: ·) shows

end

namespace Eff

open Layout

/-- What stands in nodes that were rendered in a scope of the first world, and what the scopes of
their rows read in the second one. -/
structure Lexical (world last : World H) (scope : ScopeId) (components : List (String × Fields))
    (nodes : List Node) : Prop where
  /-- The rows that stand one inside another are those that lists yield. -/
  rows : ∀ fields, Yields world.registry (world.data scope) components fields ↔
    ∃ rows, Node.Nested nodes rows ∧ Node.fieldsOf rows = fields
  /-- Every row has the data around with the fields put into them of all rows up to itself, and
  these are the data on which the lists in it are evaluated. -/
  data : ∀ rows, Node.Nested nodes rows → last.data (Node.innermost scope rows) =
    (Node.fieldsOf rows).foldl Keyed.merge (world.data scope)
  /-- The nearest row that has the first key of a path tells what is at the path. -/
  reads : ∀ rows, Node.Nested nodes rows → ∀ path key rest, Path.ofText path = key :: rest →
    Fields.Shadows (world.data scope) (Node.fieldsOf rows) key rest
      (last.reader (Node.innermost scope rows) path)

private theorem lexical_of_place {world : World H} {scope : ScopeId} (router : Option Router)
    {drawing : Drawing (List Layout)} {components : List (String × Fields)}
    (used : scope < world.scopes.next) (known : (world.data scope).Unambiguous)
    (props : ∀ component ∈ components, component.2.Unambiguous)
    (drawn : drawing.result =
      components.filterMap (drawn? world.registry router (world.data scope))) :
    ∃ nodes last, place scope drawing world = .ok nodes last ∧
      Lexical world last scope components nodes := by
  let layouts := components.filterMap (drawn? world.registry router (world.data scope))
  let final := (world.scopes.placeAll scope layouts).2
  have kept : Scopes.Kept final final := ⟨Nat.le_refl _, fun _ _ => rfl⟩
  have same : (final.get scope).data = world.data scope :=
    congrArg Scope.data ((Scopes.forked_placeAll scope layouts used).get_eq used)
  have nested {rows : List Node}
      (inside : Node.Nested (world.scopes.placeAll scope layouts).1 rows) :
      Yields world.registry (world.data scope) components (Node.fieldsOf rows) ∧
        (final.get (Node.innermost scope rows)).data =
          (Node.fieldsOf rows).foldl Keyed.merge (world.data scope) := by
    rw [← same]
    refine yields_of_nested world.registry router final inside used ?_ ?_
    · rw [same]
    · rw [same]
      exact kept
  have rendered : ∃ last : World H, place scope drawing world =
      .ok (world.scopes.placeAll scope drawing.result).1 last ∧
        last.scopes = (world.scopes.placeAll scope drawing.result).2 := ⟨_, rfl, rfl⟩
  obtain ⟨last, placed, scopes⟩ := rendered
  rw [drawn] at placed scopes
  have data (id : ScopeId) : last.data id = (final.get id).data := by
    rw [World.data, scopes]
  refine ⟨_, last, placed, fun fields => ⟨fun yields => ?_, ?_⟩, fun rows inside => ?_,
    fun rows inside path key rest cut => ?_⟩
  · exact nested_of_yields world.registry router final yields used same kept
  · rintro ⟨rows, inside, rfl⟩
    exact (nested inside).1
  · rw [data, (nested inside).2]
  · have unique : ∀ fields ∈ Node.fieldsOf rows, (Keyed.keys fields).Nodup :=
      fun fields member => ((nested inside).1.unambiguous known props fields member).nodup
    rw [World.reader, Expression.reader, cut, data, (nested inside).2]
    exact Fields.shadows_foldl_merge (world.data scope) unique key rest

/-- Rendering a view or a single component answers nodes. The rows that stand in them one inside
another, to whatever depth, are those that lists yield, each on the data of the row around it; and
under a path with a key the scope of the innermost row reads what is at this path in the nearest row
that has its first key, be that nothing, or in the data that were rendered when no row has it. -/
theorem render_of_nested (world : World H) (scope : ScopeId) (used : scope < world.scopes.next)
    (known : (world.data scope).Unambiguous) :
    (∀ view : View, view.scope = scope →
      (∀ props ∈ view.screen.components, props.Unambiguous) →
      ∃ nodes last, render view world = .ok nodes last ∧ Lexical world last scope
        (typed (view.screen.components.filter (isVisible (world.data scope)))) nodes) ∧
    ∀ (router : Option RouterId) (type : String) (props : Fields), props.Unambiguous →
      ∃ nodes last, renderComponent scope router type props world = .ok nodes last ∧
        Lexical world last scope [(type, props)] nodes := by
  constructor
  · rintro view rfl components
    rw [render, get_bind]
    refine lexical_of_place (view.router.map world.routers) used known
      (fun component member => ?_) ?_
    · exact components _ (List.mem_of_mem_filter (mem_of_mem_typed member))
    · exact (result_drawComponents _ view.screen.id _ 0).trans (filterMap_shown? _ _)
  · intro router type props unambiguous
    rw [renderComponent, get_bind]
    refine lexical_of_place (router.map world.routers) used known (fun component member => ?_) ?_
    · exact List.mem_singleton.mp member ▸ unambiguous
    · change (drawn? world.registry (router.map world.routers) (world.data scope)
        (type, props)).toList = _
      rw [List.filterMap_cons]
      cases drawn? world.registry (router.map world.routers) (world.data scope) (type, props)
        <;> rfl

/-- A bed whose owner is kept to be nobody. -/
private def bed : Fields := [("owner", .null)]

/-- A room with that bed and another one, of which nothing is kept. -/
private def room : Fields :=
  [("size", .mapping [("x", .int 3)]), ("beds", .list [.mapping bed, .mapping []])]

private def house : Fields :=
  [("size", .mapping [("x", .int 1), ("y", .int 2)]), ("owner", .int 5),
    ("rooms", .list [.mapping room])]

/-- A list of beds in each row of a list of rooms. -/
private def plan : Fields :=
  [("items", .mapping [("var", .text "rooms")]),
    ("rowComponents", .list [.mapping [("type", .text "list"),
      ("items", .mapping [("var", .text "beds")])]])]

private theorem house_unambiguous : house.Unambiguous := by
  have number (value : Int) : (Value.int value).Unambiguous := .plain rfl rfl
  have one {key : String} {value : Value} (here : value.Unambiguous) :
      Fields.Unambiguous [(key, value)] := .cons List.not_mem_nil here .nil
  have none : Fields.Unambiguous [] := .nil
  have bed : bed.Unambiguous := one (.plain rfl rfl)
  have beds : (Value.list [.mapping Eff.bed, .mapping []]).Unambiguous :=
    .list (List.forall_mem_cons.mpr ⟨bed, List.forall_mem_singleton.mpr none⟩)
  have measure : Fields.Unambiguous [("x", .int 3)] := one (number 3)
  have room : room.Unambiguous := .cons (by decide) measure (one beds)
  have rooms : (Value.list [.mapping Eff.room]).Unambiguous :=
    .list (List.forall_mem_singleton.mpr room)
  have size : Fields.Unambiguous [("x", .int 1), ("y", .int 2)] :=
    .cons (by decide) (number 1) (one (number 2))
  exact .cons (by decide) size (.cons (by decide) (number 5) (one rooms))

private theorem plan_unambiguous : plan.Unambiguous := by
  have one {key : String} {value : Value} (here : value.Unambiguous) :
      Fields.Unambiguous [(key, value)] := .cons List.not_mem_nil here .nil
  have path (content : String) : Fields.Unambiguous [("var", .text content)] :=
    one (.plain rfl rfl)
  have beds : Fields.Unambiguous
      [("type", .text "list"), ("items", .mapping [("var", .text "beds")])] :=
    .cons (by decide) (.plain rfl rfl) (one (path "beds"))
  exact .cons (by decide) (path "rooms") (one (.list (List.forall_mem_singleton.mpr beds)))

/-- The house has a row for its room, and that has one for each of its beds. The room hides the size
of the house, also the part of it that the room does not have, and the first bed hides the owner.
The second bed hides nothing. -/
theorem render_of_nested_house :
    ∃ nodes last first second,
      renderComponent Scopes.main none "list" plan
        (.initial house "Alerta" Registry.standard ()) = .ok nodes last ∧
      Node.Nested nodes first ∧ Node.fieldsOf first = [room, bed] ∧
      Node.Nested nodes second ∧ Node.fieldsOf second = [room, []] ∧
      last.reader (Node.innermost Scopes.main first) "size.x" = some (.int 3) ∧
      last.reader (Node.innermost Scopes.main first) "size.y" = none ∧
      last.reader (Node.innermost Scopes.main first) "owner" = some .null ∧
      last.reader (Node.innermost Scopes.main second) "owner" = some (.int 5) := by
  obtain ⟨nodes, last, rendered, lexical⟩ := (render_of_nested
    (.initial house "Alerta" Registry.standard ()) Scopes.main Nat.one_pos house_unambiguous).2
      none "list" plan plan_unambiguous
  have yields {fields : Fields} (listed : fields ∈ [bed, []]) :
      Yields Registry.standard house [("list", plan)] [room, fields] :=
    .row (List.mem_singleton_self _) rfl (List.mem_singleton_self _)
      (.row (List.mem_singleton_self _) rfl listed (.none _ _))
  obtain ⟨first, inFirst, rows⟩ := (lexical.rows _).mp (yields (List.mem_cons_self ..))
  obtain ⟨second, inSecond, others⟩ :=
    (lexical.rows _).mp (yields (List.mem_cons_of_mem _ (List.mem_singleton_self _)))
  have reads := lexical.reads first inFirst
  have readsSecond := lexical.reads second inSecond
  rw [rows] at reads
  rw [others] at readsSecond
  refine ⟨nodes, last, first, second, rendered, inFirst, rows, inSecond, others, ?_, ?_, ?_, ?_⟩
  · exact (reads "size.x" "size" ["x"] rfl).bound [] room [bed] rfl (by decide) (by decide)
  · exact (reads "size.y" "size" ["y"] rfl).bound [] room [bed] rfl (by decide) (by decide)
  · exact (reads "owner" "owner" [] rfl).bound [room] bed [] rfl (by decide)
      (List.forall_mem_nil _)
  · exact (readsSecond "owner" "owner" [] rfl).free (by decide)

end Eff

end ScreenScript
