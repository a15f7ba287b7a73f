import ScreenScript.Proofs.Handling
import ScreenScript.Proofs.Path.Composition
import ScreenScript.Proofs.Rendering.Nesting

/-! # What is entered into inputs

Of all that is rendered, only inputs are bound, and every input is: one whose component does not
give a text for its path is bound to the empty one. Nodes that a renderer of the host draws are
bound as the host pleases. A text that is entered is written to the path in the scope of the node,
and shown from then on by every node of that scope whose path has the same keys. Where there is no
key, nothing is written and nothing is refused either, so the text is lost. This is said of the
moment before listeners are called, and of the end if those who listen leave the data of the scope
alone.
-/

namespace ScreenScript

variable {H : Type}

namespace Face

/-- The faces of rendered nodes: those of rows, and those that renderers give to components. -/
inductive Rendered (registry : Registry) : Face → Prop
  | row (fields : Fields) : Rendered registry (.row fields)
  | drawn {type : String} {read : String → Option Value} {router : Option Router} {props : Fields}
      {renderer : Renderer} {face : Face} (registered : Keyed.get? registry type = some renderer)
      (shown : draw? read router props renderer = some face) : Rendered registry face

/-- A renderer of the host gives this face to some component. -/
def Hosted (registry : Registry) (face : Face) : Prop :=
  ∃ type draw read router props,
    Keyed.get? registry type = some (.host draw) ∧ draw read router props = some face

/-- Of the faces that do not come of the host only inputs are bound. -/
structure Standard (face : Face) : Prop where
  unbound : face.type ≠ "input" → face.bound? = none
  /-- An input comes of the renderer of inputs, which reads nothing but properties of its component.
  It is bound to the text that those give for its path, or to the empty one. -/
  bound : face.type = "input" → ∃ props : Fields,
    (∀ read router, draw? read router props .input = some face) ∧
      face.bound? = some (props.textOr "bind" "")

theorem standard_row (fields : Fields) : (row fields).Standard where
  unbound _ := rfl
  bound input := by simp [row, plain] at input

theorem Rendered.hosted_or_standard {registry : Registry} {face : Face}
    (rendered : face.Rendered registry) : face.Hosted registry ∨ face.Standard := by
  cases rendered with
  | row fields => exact .inr (standard_row fields)
  | @drawn type read router props renderer face registered shown =>
    cases renderer with
    | host draw => exact .inl ⟨type, draw, read, router, props, registered, shown⟩
    | input =>
      cases shown
      exact .inr ⟨fun other => absurd rfl other, fun _ => ⟨props, fun _ _ => rfl, rfl⟩⟩
    | _ =>
      cases shown
      exact .inr ⟨fun _ => rfl, fun input => by simp [plain] at input⟩

end Face

namespace Layout

variable {registry : Registry} {router : Option Router}

/-- A component that comes to something got its face from the renderer of its type. -/
theorem rendered_of_drawn? {data : Fields} {component : String × Fields} {face : Face}
    {rows : List (Fields × List Layout)}
    (drawn : drawn? registry router data component = some (.component face rows)) :
    face.Rendered registry := by
  cases registered : Keyed.get? registry component.1 with
  | none =>
    rw [drawn?, draw, drawWith, registered] at drawn
    cases drawn
  | some renderer =>
    have shown : Face.draw? (Expression.reader data) router component.2 renderer = some face := by
      cases renderer with
      | list =>
        rw [drawn?, result_draw_list registered] at drawn
        cases drawn
        rfl
      | _ =>
        rw [drawn?, draw, drawWith, registered] at drawn
        simp only at drawn
        split at drawn
        · cases drawn
        next shown =>
          cases drawn
          exact shown
    exact .drawn registered shown

/-- A layout is what a component comes to on some data. -/
def Drawn (registry : Registry) (router : Option Router) (layout : Layout) : Prop :=
  ∃ data component, drawn? registry router data component = some layout

theorem Drawn.face {face : Face} {rows : List (Fields × List Layout)}
    (drawn : Drawn registry router (.component face rows)) : face.Rendered registry := by
  obtain ⟨data, component, drawn⟩ := drawn
  exact rendered_of_drawn? drawn

theorem Drawn.of_mem_rows {face : Face} {rows : List (Fields × List Layout)}
    (drawn : Drawn registry router (.component face rows)) :
    ∀ row ∈ rows, ∀ layout ∈ row.2, Drawn registry router layout := by
  intro row member layout inside
  obtain ⟨data, component, drawn⟩ := drawn
  obtain ⟨-, -, shows⟩ := exists_of_mem_rows drawn member
  rw [shows] at inside
  obtain ⟨inner, -, drawnInner⟩ := List.mem_filterMap.mp inside
  exact ⟨_, inner, drawnInner⟩

end Layout

namespace Scopes

open Layout (Drawn)

variable {registry : Registry} {router : Option Router}

mutual

/-- All nodes that layouts come to have faces of rows or of components. The recursion is that of
`place`. -/
theorem rendered_place (scope : ScopeId) : (layout : Layout) → (scopes : Scopes) →
    Drawn registry router layout →
    ∀ node ∈ (place scope layout scopes).1.subtree, node.face.Rendered registry
  | .component face rows, scopes, drawn => by
    rw [place, Node.subtree]
    intro node member
    rcases List.mem_cons.mp member with rfl | below
    · exact drawn.face
    · exact rendered_placeRows scope rows scopes drawn.of_mem_rows node below

theorem rendered_placeAll (scope : ScopeId) : (layouts : List Layout) → (scopes : Scopes) →
    (∀ layout ∈ layouts, Drawn registry router layout) →
    ∀ node ∈ Node.subtrees (placeAll scope layouts scopes).1, node.face.Rendered registry
  | [], _, _ => List.forall_mem_nil _
  | layout :: rest, scopes, drawn => by
    obtain ⟨first, others⟩ := List.forall_mem_cons.mp drawn
    rw [placeAll, Node.subtrees]
    intro node member
    rcases List.mem_append.mp member with here | later
    · exact rendered_place scope layout scopes first node here
    · exact rendered_placeAll scope rest _ others node later

theorem rendered_placeRows (scope : ScopeId) : (rows : List (Fields × List Layout)) →
    (scopes : Scopes) → (∀ row ∈ rows, ∀ layout ∈ row.2, Drawn registry router layout) →
    ∀ node ∈ Node.subtrees (placeRows scope rows scopes).1, node.face.Rendered registry
  | [], _, _ => List.forall_mem_nil _
  | (fields, layouts) :: rest, scopes, drawn => by
    obtain ⟨first, others⟩ := List.forall_mem_cons.mp drawn
    rw [placeRows, Node.subtrees, Node.subtree]
    intro node member
    rcases List.mem_append.mp member with here | later
    · rcases List.mem_cons.mp here with rfl | below
      · exact .row fields
      · exact rendered_placeAll scopes.next layouts _ first node below
    · exact rendered_placeRows scope rest _ others node later

end

end Scopes

namespace Node

/-- The scope and the keys that the text of a node is bound to. -/
def binding? (node : Node) : Option (ScopeId × Path) :=
  node.face.bound?.map fun path => (node.scope, Path.ofText path)

end Node

namespace World

/-- Nodes with one binding show one text. -/
theorem text_of_binding {node : Node} {scope : ScopeId} {keys : Path}
    (bound : node.binding? = some (scope, keys)) (world : World H) :
    world.text node = ((world.data scope).at? keys).elim "" Value.asText := by
  obtain ⟨path, bind, same⟩ := Option.map_eq_some_iff.mp bound
  cases same
  rw [text, bind]
  rfl

end World

namespace Eff

open Layout

/-- Nodes that a view or a single component is rendered to. -/
inductive Rendered (world : World H) : List Node → Prop
  | view {view : View} {nodes : List Node} {last : World H}
      (ran : render view world = .ok nodes last) : Rendered world nodes
  | component {scope : ScopeId} {router : Option RouterId} {type : String} {props : Fields}
      {nodes : List Node} {last : World H}
      (ran : renderComponent scope router type props world = .ok nodes last) : Rendered world nodes

theorem Rendered.face {world : World H} {nodes : List Node} (rendered : Rendered world nodes) :
    ∀ node ∈ Node.subtrees nodes, node.face.Rendered world.registry := by
  cases rendered with
  | @view view nodes last ran =>
    cases ran
    apply Scopes.rendered_placeAll view.scope
    intro layout shown
    have drawn : layout ∈ (drawScreen world.registry (view.router.map world.routers)
      (world.data view.scope) view.screen).result := shown
    rw [drawScreen, result_drawComponents, filterMap_shown?] at drawn
    obtain ⟨component, -, drawn⟩ := List.mem_filterMap.mp drawn
    exact ⟨_, component, drawn⟩
  | @component scope router type props nodes last ran =>
    cases ran
    apply Scopes.rendered_placeAll scope
    intro layout shown
    exact ⟨world.data scope, (type, props), Option.mem_toList.mp shown⟩

/-- What is entered into a node is not lost: it is refused and the data of the scope stay as they
are, or in the end all nodes with the binding of this one show it. -/
def Retained (host : Host H) (node : Node) (content : String) (world : World H) : Prop :=
  (∃ type last, enter host node (.text content) world = .error (.noBinding type) last ∧
    last.data node.scope = world.data node.scope) ∨
  ∀ other, other.binding? = node.binding? →
    (after (enter host node (.text content)) world).text other = content

/-- What comes of entering a text into a node that is bound to the path of another text. -/
structure Entered (host : Host H) (node : Node) (path content : String) (world : World H) :
    Prop where
  /-- At a path with a key all nodes with the binding show the text before listeners are called. -/
  stored : Path.ofText path ≠ [] → ∃ written : World H,
    enter host node (.text content) world =
      callAll host (fun _ => .wrote path) (world.scopes.get node.scope).listeners written ∧
    ∀ other, other.binding? = node.binding? → written.text other = content
  /-- Without a key nothing happens but a notice, and the node never shows anything. -/
  ignored : Path.ofText path = [] →
    enter host node (.text content) world = .ok () (world.record [.emptyPath path]) ∧
    ∀ last : World H, last.text node = ""
  /-- As long as those who listen do not write to the scope themselves, a text is retained exactly
  where the path has something besides dots, save for the empty text. -/
  retained : (∀ listener ∈ (world.scopes.get node.scope).listeners,
      Spares (fun world => world.data node.scope) (host.react listener (.wrote path))) →
    (Retained host node content world ↔ (∃ char ∈ path.toList, char ≠ '.') ∨ content = "")

section

variable {host : Host H} {node : Node} {path : String}

/-- Entering a text writes it to the path of the node. -/
theorem enter_eq (bound : node.face.bound? = some path) (content : String) (world : World H) :
    enter host node (.text content) world =
      callAll host (fun _ => .wrote path)
        (if Path.ofText path = [] then [] else (world.scopes.get node.scope).listeners)
        (world.stored node.scope path (.text content)) := by
  rw [enter, bound]
  exact write_eq host node.scope path _ world

theorem binding?_of_bound (bound : node.face.bound? = some path) :
    node.binding? = some (node.scope, Path.ofText path) := by
  rw [Node.binding?, bound, Option.map_some]

/-- What was just written is shown by all nodes that are bound to it. -/
theorem text_stored (bound : node.face.bound? = some path) (keyed : Path.ofText path ≠ [])
    (content : String) (world : World H) {other : Node} (same : other.binding? = node.binding?) :
    (world.stored node.scope path (.text content)).text other = content := by
  obtain ⟨key, rest, cut⟩ := List.exists_cons_of_ne_nil keyed
  rw [World.text_of_binding (same.trans (binding?_of_bound bound)), World.data_stored, if_pos rfl,
    cut, Fields.at?_write]
  rfl

/-- It is still shown in the end, unless those who listen write to the scope themselves. -/
theorem text_after_enter (bound : node.face.bound? = some path) (keyed : Path.ofText path ≠ [])
    {world : World H}
    (spared : ∀ listener ∈ (world.scopes.get node.scope).listeners,
      Spares (fun world => world.data node.scope) (host.react listener (.wrote path)))
    (content : String) {other : Node} (same : other.binding? = node.binding?) :
    (after (enter host node (.text content)) world).text other = content := by
  let written := world.stored node.scope path (.text content)
  let called := callAll host (fun _ => .wrote path) (world.scopes.get node.scope).listeners
  have ended : after (enter host node (.text content)) world = after called written := by
    simp only [after, enter_eq bound, if_neg keyed, called, written]
  have kept : Sustains (fun last => last.data node.scope = written.data node.scope) called :=
    sustains_callAll_of_mem (fun _ _ same => same)
      fun listener member _ => spares_iff.mp (spared listener member) _
  have data : (after called written).data node.scope = written.data node.scope :=
    kept written rfl
  have binding := same.trans (binding?_of_bound bound)
  rw [ended, World.text_of_binding binding, data, ← World.text_of_binding binding]
  exact text_stored bound keyed content world same

/-- Nodes that are bound to the root mapping show nothing, since that is no text. -/
theorem text_of_unkeyed (bound : node.face.bound? = some path) (unkeyed : Path.ofText path = [])
    {other : Node} (same : other.binding? = node.binding?) (world : World H) :
    world.text other = "" := by
  rw [World.text_of_binding (same.trans (binding?_of_bound bound)), unkeyed, Fields.at?_nil]
  rfl

theorem enter_of_unkeyed (bound : node.face.bound? = some path) (unkeyed : Path.ofText path = [])
    (content : String) (world : World H) :
    enter host node (.text content) world = .ok () (world.record [.emptyPath path]) := by
  rw [enter_eq bound, if_pos unkeyed, World.stored, unkeyed]
  rfl

/-- Nothing is refused without a key and nothing is shown, so nothing can be retained but the empty
text. -/
theorem retained_iff_of_unkeyed (bound : node.face.bound? = some path)
    (unkeyed : Path.ofText path = []) (content : String) (world : World H) :
    Retained host node content world ↔ content = "" := by
  constructor
  · rintro (⟨type, last, refused, -⟩ | shown)
    · rw [enter_of_unkeyed bound unkeyed] at refused
      cases refused
    · exact (shown node rfl).symm.trans (text_of_unkeyed bound unkeyed rfl _)
  · rintro rfl
    exact .inr fun other same => text_of_unkeyed bound unkeyed same _

theorem entered_of_bound (host : Host H) (bound : node.face.bound? = some path) (content : String)
    (world : World H) : Entered host node path content world := by
  constructor
  · intro keyed
    refine ⟨world.stored node.scope path (.text content), ?_, ?_⟩
    · rw [enter_eq bound, if_neg keyed]
    · intro other same
      exact text_stored bound keyed content world same
  · intro unkeyed
    exact ⟨enter_of_unkeyed bound unkeyed content world, text_of_unkeyed bound unkeyed rfl⟩
  · intro spared
    have keyed_iff : (∃ char ∈ path.toList, char ≠ '.') ↔ Path.ofText path ≠ [] := by
      simp [Path.ofText_eq_nil_iff]
    rw [keyed_iff]
    by_cases unkeyed : Path.ofText path = []
    · simp [retained_iff_of_unkeyed bound unkeyed, unkeyed]
    · have retained : Retained host node content world :=
        .inr fun other same => text_after_enter bound unkeyed spared content same
      simp [retained, unkeyed]

end

/-- Of all nodes that are rendered, in the scope of a screen or in those of rows at any depth, those
that are not bound refuse what is entered and leave the world as it is; the others do not refuse.
Save for what the host draws itself, the inputs are the nodes that are bound, each to the text that
its component gives for its path, or to the empty one. A text that is entered into a bound node, in
whatever world, is shown by all nodes with its binding if the path has a key, and is lost without a
failure if it has none. -/
theorem retained_of_enter (host : Host H) {world : World H} {nodes : List Node}
    (rendered : Rendered world nodes) :
    ∀ node ∈ Node.subtrees nodes,
      (node.face.Hosted world.registry ∨ node.face.Standard) ∧
      (node.face.bound? = none → ∀ content now,
        enter host node content now = .error (.noBinding node.face.type) now) ∧
      ∀ path, node.face.bound? = some path → ∀ content now,
        Entered host node path content now := by
  intro node member
  refine ⟨(rendered.face node member).hosted_or_standard, fun unbound content now => ?_,
    fun path bound content now => entered_of_bound host bound content now⟩
  rw [enter, unbound]
  rfl

/-- A list of beds in the one row of a list of rooms. Each bed has two inputs for the name of who
sleeps there, of which one writes its path with dots around it, and one that is not bound. -/
private def dormitory : Fields :=
  [("items", .list [.mapping [("beds", .list [.mapping [("name", .text "Ana")]])]]),
    ("rowComponents", .list [.mapping [("type", .text "list"),
      ("items", .mapping [("var", .text "beds")]),
      ("rowComponents", .list [
        .mapping [("type", .text "input"), ("bind", .text "name")],
        .mapping [("type", .text "input"), ("bind", .text ".name.")],
        .mapping [("type", .text "input"), ("placeholder", .text "Notes")]])]])]

/-- An input in the scope of the bed. -/
private def bedside (placeholder path : String) : Node :=
  .component ⟨"input", [("placeholder", .text placeholder), ("style", .null)], some path, .null,
    true⟩ 2 []

/-- What is entered into the first input of the bed is shown by the second one too. What is entered
into the third one is lost. -/
theorem retained_of_enter_dormitory :
    ∃ (nodes : List Node) (last : World Unit),
      renderComponent Scopes.main none "list" dormitory
        (.initial [] "Alerta" Registry.standard ()) = .ok nodes last ∧
      (∀ node ∈ [bedside "" "name", bedside "" ".name.", bedside "Notes" ""],
        node ∈ Node.subtrees nodes ∧ node.face.type = "input") ∧
      last.text (bedside "" ".name.") = "Ana" ∧
      Retained Host.calm (bedside "" "name") "Bia" last ∧
      (after (enter Host.calm (bedside "" "name") (.text "Bia")) last).text
        (bedside "" ".name.") = "Bia" ∧
      ¬Retained Host.calm (bedside "Notes" "") "Bia" last := by
  have run : ∃ (nodes : List Node) (last : World Unit),
      renderComponent Scopes.main none "list" dormitory
        (.initial [] "Alerta" Registry.standard ()) = .ok nodes last ∧
      (∀ node ∈ [bedside "" "name", bedside "" ".name.", bedside "Notes" ""],
        node ∈ Node.subtrees nodes) ∧
      last.text (bedside "" ".name.") = "Ana" ∧ (last.scopes.get 2).listeners = [] := by
    refine ⟨_, _, rfl, ?_, rfl, rfl⟩
    intro node member
    exact .tail _ (.tail _ (.tail _ (.tail _ member)))
  obtain ⟨nodes, last, ran, members, shown, unheard⟩ := run
  have entered {placeholder path : String} (listed : bedside placeholder path ∈
      [bedside "" "name", bedside "" ".name.", bedside "Notes" ""]) :
      Entered Host.calm (bedside placeholder path) path "Bia" last :=
    (retained_of_enter Host.calm (.component ran) _ (members _ listed)).2.2 path rfl "Bia" last
  have first := entered (List.mem_cons_self ..)
  have third := entered (List.mem_cons_of_mem _ (List.mem_cons_of_mem _ List.mem_cons_self))
  have spared (path : String) : ∀ listener ∈ (last.scopes.get 2).listeners,
      Spares (fun now : World Unit => now.data 2) (Host.calm.react listener (.wrote path)) := by
    rw [unheard]
    exact List.forall_mem_nil _
  obtain ⟨written, wrote, shows⟩ := first.stored (by decide)
  have ended : enter Host.calm (bedside "" "name") (.text "Bia") last = .ok () written := by
    rw [wrote]
    change callAll _ _ (last.scopes.get 2).listeners _ = _
    rw [unheard]
    rfl
  refine ⟨nodes, last, ran, ?_, shown, ?_, ?_, ?_⟩
  · intro node member
    refine ⟨members node member, ?_⟩
    simp only [List.mem_cons, List.not_mem_nil, or_false] at member
    rcases member with rfl | rfl | rfl <;> rfl
  · exact (first.retained (spared "name")).mpr (.inl ⟨'n', by decide, by decide⟩)
  · rw [after_of_ok ended]
    exact shows _ (by decide)
  · intro kept
    rcases (third.retained (spared "")).mp kept with ⟨char, inside, -⟩ | empty
    · cases inside
    · exact absurd empty (by decide)

end Eff

end ScreenScript
