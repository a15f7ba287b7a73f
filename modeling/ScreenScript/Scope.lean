import ScreenScript.Path

/-! # Scopes

A scope owns a root mapping of data. The screens of a session share one; every row of a list has
its own, forked from the scope around the list, so that what a row writes stays in the row.
-/

namespace ScreenScript

abbrev ScopeId := Nat

/-- The data of a scope, with the names of those that listen to its writes. -/
structure Scope where
  data : Fields
  listeners : List String
deriving Inhabited, Repr

namespace Scope

def ofData (data : Fields) : Scope := ⟨data, []⟩

/-- A scope with the data of this one and some fields put into it. Nobody listens to it yet. -/
def fork (scope : Scope) (fields : Fields) : Scope :=
  ofData (Keyed.merge scope.data fields)

end Scope

/-- The scopes that are in use, by their identifiers. -/
structure Scopes where
  /-- The scope behind each identifier. Those that are not in use yet are empty. -/
  get : ScopeId → Scope
  /-- The first identifier that is not in use. -/
  next : ScopeId

namespace Scopes

/-- The scope that is there from the start. -/
def main : ScopeId := 0

def ofData (data : Fields) : Scopes where
  get id := if id = main then .ofData data else .ofData []
  next := main + 1

def update (scopes : Scopes) (scope : ScopeId) (change : Scope → Scope) : Scopes :=
  { scopes with get := fun id => if id = scope then change (scopes.get id) else scopes.get id }

/-- The scopes with a further one, forked from the given one. Its identifier is the one that was
not in use. -/
def fork (scopes : Scopes) (scope : ScopeId) (fields : Fields) : Scopes where
  get id := if id = scopes.next then (scopes.get scope).fork fields else scopes.get id
  next := scopes.next + 1

theorem get_update (scopes : Scopes) (scope id : ScopeId) (change : Scope → Scope) :
    (scopes.update scope change).get id =
      if id = scope then change (scopes.get id) else scopes.get id := rfl

theorem get_fork (scopes : Scopes) (scope id : ScopeId) (fields : Fields) :
    (scopes.fork scope fields).get id =
      if id = scopes.next then (scopes.get scope).fork fields else scopes.get id := rfl

/-- A fork leaves the scopes alone that are in use. -/
theorem get_fork_of_lt (scopes : Scopes) (scope : ScopeId) {id : ScopeId} (fields : Fields)
    (used : id < scopes.next) : (scopes.fork scope fields).get id = scopes.get id := by
  simp [get_fork, Nat.ne_of_lt used]

end Scopes

end ScreenScript
