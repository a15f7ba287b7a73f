import ScreenScript.Proofs.Rendering.Nesting
import ScreenScript.Scenario.Bench

/-! # What can be seen of rendered nodes

Nodes are rendered into scopes that were not in use, so no two renderings answer the same nodes.
What is seen of nodes does not tell these scopes: it is their faces, which hold types, properties,
bindings and actions, and their texts in the data as they are at that moment. For the nodes that
rendering answers it is determined by the layouts and the data of the scope around them, and
rendering changes neither these data nor anything else that it reads. So rendering once more shows
the same, and only takes further scopes into use and repeats its notices.
-/

namespace ScreenScript

open Scenario (Shown see seeAll)

variable {H : Type}

/-- The text of a face on some data. -/
def Face.text (data : Fields) (face : Face) : String :=
  match face.bound? with
  | some path => (Expression.reader data path).elim "" Value.asText
  | none => face.props.textOr "value" ""

namespace World

/-- Nothing has changed but that scopes were taken into use and the log went on. -/
structure Still (before after : World H) : Prop where
  scopes : Scopes.Kept before.scopes after.scopes
  routers : after.routers = before.routers
  channel : after.channel = before.channel
  registry : after.registry = before.registry
  alertTitle : after.alertTitle = before.alertTitle
  views : after.views = before.views
  alerts : after.alerts = before.alerts
  calls : after.calls = before.calls
  host : after.host = before.host

theorem Still.refl (world : World H) : world.Still world :=
  ⟨⟨Nat.le_refl _, fun _ _ => rfl⟩, rfl, rfl, rfl, rfl, rfl, rfl, rfl, rfl⟩

theorem Still.data {before after : World H} (still : before.Still after) {scope : ScopeId}
    (used : scope < before.scopes.next) : after.data scope = before.data scope :=
  congrArg Scope.data (still.scopes.get scope used)

end World

namespace Layout

mutual

/-- What can be seen of a layout on the data of the scope it is brought to life in. -/
def seen (data : Fields) : Layout → Shown
  | .component face rows => .shown face (face.text data) (seenRows data rows)

def seenAll (data : Fields) : List Layout → List Shown
  | [] => []
  | layout :: rest => seen data layout :: seenAll data rest

/-- What can be seen of the rows of a list on the data of the scope around them. -/
def seenRows (data : Fields) : List (Fields × List Layout) → List Shown
  | [] => []
  | (fields, layouts) :: rest =>
    .shown (.row fields) ((Face.row fields).text (Keyed.merge data fields))
      (seenAll (Keyed.merge data fields) layouts) :: seenRows data rest

end

end Layout

namespace Scopes

variable (world : World H)

mutual

/-- Layouts that were brought to life show what they show on the data of their scope, as long as
the scopes are there. The recursion is that of `place`. -/
theorem see_place (scope : ScopeId) : (layout : Layout) → {scopes : Scopes} →
    scope < scopes.next → Kept (place scope layout scopes).2 world.scopes →
    see world (place scope layout scopes).1 = layout.seen (world.data scope)
  | .component face rows, scopes, used, kept => by
    have below := seeAll_of_rowPlaced scope rows (rowPlaced_placeRows used kept)
    simp only [place, see, Layout.seen, below]
    rfl

theorem seeAll_placeAll (scope : ScopeId) : (layouts : List Layout) → {scopes : Scopes} →
    scope < scopes.next → Kept (placeAll scope layouts scopes).2 world.scopes →
    seeAll world (placeAll scope layouts scopes).1 = Layout.seenAll (world.data scope) layouts
  | [], _, _, _ => rfl
  | layout :: rest, scopes, used, kept => by
    have there := Nat.lt_of_lt_of_le used (forked_place scope layout used).next_le
    have first := see_place scope layout used ((forked_placeAll scope rest there).kept.trans kept)
    have others := seeAll_placeAll scope rest there kept
    simp only [placeAll, seeAll, Layout.seenAll, first, others]

theorem seeAll_of_rowPlaced (scope : ScopeId) : (rows : List (Fields × List Layout)) →
    {nodes : List Node} → List.Forall₂ (RowPlaced world.scopes scope) rows nodes →
    seeAll world nodes = Layout.seenRows (world.data scope) rows
  | [], _, .nil => rfl
  | (fields, layouts) :: rest, .component face row children :: others, .cons placed later => by
    obtain ⟨rfl, data, before, used, below, kept⟩ := placed
    have same : world.data row = Keyed.merge (world.data scope) fields := data
    have shown : seeAll world children = Layout.seenAll (world.data row) layouts :=
      (congrArg (seeAll world) below).trans (seeAll_placeAll row layouts used kept)
    have text : world.text (.component (.row fields) row children) =
        (Face.row fields).text (world.data row) := rfl
    have others := seeAll_of_rowPlaced scope rest later
    simp only [seeAll, see, Layout.seenRows, shown, text, others, same]

end

end Scopes

namespace Eff

open World

variable {view : View} {world : World H}

/-- Rendering answers nodes that show what is drawn on the data of the scope, as long as the scopes
that are in use by then are there. -/
theorem seeAll_of_render {nodes : List Node} {last final : World H}
    (used : view.scope < world.scopes.next) (rendered : render view world = .ok nodes last)
    (kept : Scopes.Kept last.scopes final.scopes) :
    seeAll final nodes = Layout.seenAll (world.data view.scope)
      (Layout.drawScreen world.registry (view.router.map world.routers) (world.data view.scope)
        view.screen).result := by
  cases rendered
  have placed := Scopes.forked_placeAll view.scope (Layout.drawScreen world.registry
    (view.router.map world.routers) (world.data view.scope) view.screen).result used
  have same : final.data view.scope = world.data view.scope :=
    congrArg Scope.data ((placed.kept.trans kept).get view.scope used)
  rw [← same]
  refine Scopes.seeAll_placeAll final view.scope _ used ?_
  rw [same]
  exact kept

theorem render_succeeds (view : View) (world : World H) :
    ∃ nodes last, render view world = .ok nodes last :=
  ⟨_, _, rfl⟩

/-- Rendering takes scopes into use and leaves notices, and nothing else. -/
theorem still_of_render {nodes : List Node} {last : World H}
    (used : view.scope < world.scopes.next) (rendered : render view world = .ok nodes last) :
    world.Still last := by
  cases rendered
  exact ⟨(Scopes.forked_placeAll view.scope _ used).kept, rfl, rfl, rfl, rfl, rfl, rfl, rfl, rfl⟩

/-- What was rendered looks the same when it is rendered once more. -/
theorem seeAll_of_render_render {nodes nodes' : List Node} {next last : World H}
    (used : view.scope < world.scopes.next) (first : render view world = .ok nodes next)
    (second : render view next = .ok nodes' last) :
    seeAll last nodes' = seeAll next nodes ∧ seeAll last nodes = seeAll next nodes := by
  have still := still_of_render used first
  have there := Nat.lt_of_lt_of_le used still.scopes.next
  have again := still_of_render there second
  rw [seeAll_of_render there second (Still.refl last).scopes,
    seeAll_of_render used first again.scopes,
    seeAll_of_render used first (Still.refl next).scopes, still.registry, still.routers,
    still.data used]
  exact ⟨rfl, rfl⟩

end Eff

end ScreenScript
