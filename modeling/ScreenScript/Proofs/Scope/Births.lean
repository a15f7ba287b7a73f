import ScreenScript.World.Rendering

/-! # The scopes that come into being

A scope is born when a scope is forked or when a list is rendered, and its data are then those of
its parent with some fields put into them. The nodes that rendering answers tell which scopes were
born and of which parents: a row is the only node that does not live in the scope of the node above
it. So both ways of making scopes are sequences of forks, and what `Forked` says of them holds of
rows of nested lists as well.
-/

namespace ScreenScript

/-- A scope that came into being, with the fields that were put into the data of its parent. -/
structure Birth where
  scope : ScopeId
  parent : ScopeId
  fields : Fields
deriving Inhabited, Repr

namespace Node

mutual

/-- The scopes of the rows in a node that stands in a scope, in the order of the rows. -/
def births (around : ScopeId) : Node → List Birth
  | .component face scope children =>
    (if scope = around then [] else [⟨scope, around, face.props⟩]) ++ birthsOf scope children

/-- The scopes of the rows in nodes that stand in a scope. -/
def birthsOf (around : ScopeId) : List Node → List Birth
  | [] => []
  | node :: rest => births around node ++ birthsOf around rest

end

end Node

namespace Scopes

/-- Scopes are forked one after another, each from one that is in use by then. -/
inductive Forked : Scopes → List Birth → Scopes → Prop
  | done (scopes : Scopes) : Forked scopes [] scopes
  | fork {scopes last : Scopes} {birth : Birth} {births : List Birth}
      (fresh : birth.scope = scopes.next) (used : birth.parent < scopes.next)
      (rest : Forked (scopes.fork birth.parent birth.fields) births last) :
      Forked scopes (birth :: births) last

namespace Forked

variable {scopes middle last : Scopes} {births later : List Birth}

theorem append (first : Forked scopes births middle) (second : Forked middle later last) :
    Forked scopes (births ++ later) last := by
  induction first with
  | done => exact second
  | fork fresh used _ ih => exact .fork fresh used (ih second)

theorem next_eq (forked : Forked scopes births last) :
    last.next = scopes.next + births.length := by
  induction forked with
  | done => rfl
  | fork _ _ _ ih =>
    rw [ih, List.length_cons]
    exact Nat.add_right_comm _ 1 _

theorem next_le (forked : Forked scopes births last) : scopes.next ≤ last.next := by
  rw [forked.next_eq]
  exact Nat.le_add_right _ _

/-- No scope that is in use changes. -/
theorem get_eq (forked : Forked scopes births last) {id : ScopeId} (used : id < scopes.next) :
    last.get id = scopes.get id := by
  induction forked with
  | done => rfl
  | fork _ _ _ ih => rw [ih (Nat.lt_succ_of_lt used), get_fork_of_lt _ _ _ used]

theorem scopes_eq (forked : Forked scopes births last) :
    births.map Birth.scope = List.range' scopes.next births.length := by
  induction forked with
  | done => rfl
  | fork fresh _ _ ih =>
    rw [List.map_cons, List.length_cons, List.range'_succ, fresh, ih]
    rfl

/-- Each scope has the data of its parent with its fields put into them, and its parent was there
before it. -/
theorem born (forked : Forked scopes births last) {birth : Birth} (member : birth ∈ births) :
    birth.parent < birth.scope ∧
      last.get birth.scope = (last.get birth.parent).fork birth.fields := by
  induction forked with
  | done => cases member
  | @fork scopes last first _ fresh used rest ih =>
    rcases List.mem_cons.mp member with rfl | below
    · refine ⟨fresh ▸ used, ?_⟩
      have there : birth.scope < (scopes.fork birth.parent birth.fields).next := by
        rw [fresh]
        exact Nat.lt_succ_self _
      rw [rest.get_eq there, rest.get_eq (Nat.lt_succ_of_lt used), get_fork, if_pos fresh,
        get_fork_of_lt _ _ _ used]
    · exact ih below

/-- Nobody listens to a scope that was just born. -/
theorem listeners_eq (forked : Forked scopes births last)
    (unheard : ∀ id, (scopes.get id).listeners = []) (id : ScopeId) :
    (last.get id).listeners = [] := by
  induction forked with
  | done => exact unheard id
  | fork _ _ _ ih =>
    refine ih fun other => ?_
    rw [get_fork]
    split
    · rfl
    · exact unheard other

end Forked

mutual

/-- Bringing a layout to life in a scope forks the scopes of its rows. -/
theorem forked_place (scope : ScopeId) : (layout : Layout) → {scopes : Scopes} →
    scope < scopes.next →
    Forked scopes ((place scope layout scopes).1.births scope) (place scope layout scopes).2
  | .component face rows, scopes, used => by
    rw [place, Node.births, if_pos rfl, List.nil_append]
    exact forked_placeRows scope rows used

theorem forked_placeAll (scope : ScopeId) : (layouts : List Layout) → {scopes : Scopes} →
    scope < scopes.next →
    Forked scopes (Node.birthsOf scope (placeAll scope layouts scopes).1)
      (placeAll scope layouts scopes).2
  | [], scopes, _ => .done scopes
  | layout :: rest, scopes, used => by
    have first := forked_place scope layout used
    have there := Nat.lt_of_lt_of_le used first.next_le
    rw [placeAll, Node.birthsOf]
    exact first.append (forked_placeAll scope rest there)

theorem forked_placeRows (scope : ScopeId) : (rows : List (Fields × List Layout)) →
    {scopes : Scopes} → scope < scopes.next →
    Forked scopes (Node.birthsOf scope (placeRows scope rows scopes).1)
      (placeRows scope rows scopes).2
  | [], scopes, _ => .done scopes
  | (fields, layouts) :: rest, scopes, used => by
    have apart : scopes.next ≠ scope := Nat.ne_of_gt used
    have inside : Forked (scopes.fork scope fields) _ _ :=
      forked_placeAll scopes.next layouts (Nat.lt_succ_self _)
    have there := Nat.lt_of_lt_of_le (Nat.lt_succ_of_lt used) inside.next_le
    rw [placeRows, Node.birthsOf, Node.births, if_neg apart]
    exact .fork rfl used (inside.append (forked_placeRows scope rest there))

end

mutual

/-- No scope goes out of use when a layout is brought to life, whether its own is in use or not. -/
theorem next_le_place (scope : ScopeId) :
    (layout : Layout) → (scopes : Scopes) → scopes.next ≤ (place scope layout scopes).2.next
  | .component _ rows, scopes => next_le_placeRows scope rows scopes

theorem next_le_placeAll (scope : ScopeId) : (layouts : List Layout) → (scopes : Scopes) →
    scopes.next ≤ (placeAll scope layouts scopes).2.next
  | [], scopes => Nat.le_refl scopes.next
  | layout :: rest, scopes => by
    have first := next_le_place scope layout scopes
    have others := next_le_placeAll scope rest (place scope layout scopes).2
    exact Nat.le_trans first others

theorem next_le_placeRows (scope : ScopeId) : (rows : List (Fields × List Layout)) →
    (scopes : Scopes) → scopes.next ≤ (placeRows scope rows scopes).2.next
  | [], scopes => Nat.le_refl scopes.next
  | (fields, layouts) :: rest, scopes => by
    have inside := next_le_placeAll scopes.next layouts (scopes.fork scope fields)
    have behind := next_le_placeRows scope rest
      (placeAll scopes.next layouts (scopes.fork scope fields)).2
    exact Nat.le_trans (Nat.le_of_succ_le inside) behind

end

end Scopes

end ScreenScript
