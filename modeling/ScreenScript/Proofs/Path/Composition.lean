import ScreenScript.Proofs.Path.Algebra

/-! # Paths joined by dots

A dot between two texts joins their paths, wherever else the texts have dots: at their ends,
doubled, or nothing but dots. So reading by a joined text is reading by its first part and going on
in the mapping found there. Writing by it is writing by its second part in the mapping that the
first one leads to, or in the empty one, and putting the outcome back. The equations are of whole
root mappings and of whole worlds. Those who listen are told the text itself, so they can tell the
two apart.
-/

namespace ScreenScript

namespace Path

/-- Between no dots there is one stretch. -/
theorem stretches_of_notMem {chars : List Char} (plain : '.' ∉ chars) :
    stretches chars = [chars] := by
  induction chars with
  | nil => rfl
  | cons char rest ih =>
    obtain ⟨differ, later⟩ : char ≠ '.' ∧ '.' ∉ rest := by
      simpa [eq_comm] using plain
    simp [stretches, differ, ih later]

/-- All stretches are empty when there is nothing but dots. -/
theorem stretches_empty_iff (chars : List Char) :
    (∀ stretch ∈ stretches chars, stretch = []) ↔ ∀ char ∈ chars, char = '.' := by
  induction chars with
  | nil => simp [stretches]
  | cons char rest ih =>
    by_cases dot : char = '.'
    · simp [stretches, dot, ih]
    · obtain ⟨first, others, cut⟩ := List.exists_cons_of_ne_nil (stretches_ne_nil rest)
      simp [stretches, dot, cut]

/-- A text that can be the key of a mapping on a path. -/
def IsKey (text : String) : Prop :=
  text ≠ "" ∧ '.' ∉ text.toList

/-- The paths of texts with a dot between them follow one another. -/
theorem ofText_append_dot (before after : String) :
    ofText (before ++ "." ++ after) = ofText before ++ ofText after := by
  have chars : (before ++ "." ++ after).toList = before.toList ++ '.' :: after.toList := by
    simp [String.toList_append]
  simp only [ofText, chars, stretches_append_dot, List.filter_append, List.map_append]

theorem ofText_of_isKey {key : String} (isKey : IsKey key) : ofText key = [key] := by
  obtain ⟨filled, plain⟩ := isKey
  have some : key.toList ≠ [] := by simpa using filled
  simp [ofText, stretches_of_notMem plain, some]

/-- Keys with dots between them are the path that they write. -/
theorem ofText_intercalate {keys : List String} (each : ∀ key ∈ keys, IsKey key) :
    ofText (".".intercalate keys) = keys := by
  induction keys with
  | nil => rfl
  | cons key rest ih =>
    obtain ⟨here, later⟩ := List.forall_mem_cons.mp each
    cases rest with
    | nil => rw [String.intercalate_singleton, ofText_of_isKey here]
    | cons next rest =>
      rw [String.intercalate_cons_cons, ofText_append_dot, ofText_of_isKey here, ih later]
      rfl

/-- The texts without a key are those of nothing but dots. -/
theorem ofText_eq_nil_iff (text : String) :
    ofText text = [] ↔ ∀ char ∈ text.toList, char = '.' := by
  rw [← stretches_empty_iff, ofText, List.map_eq_nil_iff, List.filter_eq_nil_iff]
  simp

end Path

namespace Fields

/-- A write may stop on its way: writing the rest in the mapping there, or in the empty one, and
putting the outcome in its place comes to the same. -/
theorem write_append (fields : Fields) {way rest : Path} (keyed : way ≠ []) (onward : rest ≠ [])
    (value : Value) :
    fields.write (way ++ rest) value =
      fields.write way (.mapping (write (Value.entriesOf (fields.at? way)) rest value)) := by
  obtain ⟨key, behind, rfl⟩ := List.exists_cons_of_ne_nil onward
  -- What the whole write leaves in that place may as well be written there once more.
  have left := fields.at?_write_above way key behind value
  rw [← write_write_of_prefix fields keyed (List.prefix_append way (key :: behind)) value,
    write_of_at? left]

/-- The laws of reading and writing by texts with a dot between them, for the root mapping that they
start from. -/
structure JoinLaws (root : Fields) : Prop where
  stays : ∀ before after, Path.ofText after = [] →
    Expression.reader root (before ++ "." ++ after) = Expression.reader root before
  /-- From a mapping the second text leads on. -/
  enters : ∀ before after inner, Expression.reader root before = some (.mapping inner) →
    Expression.reader root (before ++ "." ++ after) = Expression.reader inner after
  /-- From anything else, and from nothing, no key leads on. -/
  ends : ∀ before after, Path.ofText after ≠ [] →
    (∀ inner, Expression.reader root before ≠ some (.mapping inner)) →
    Expression.reader root (before ++ "." ++ after) = none
  /-- Writing by both texts is writing by the second one in the mapping that the first one leads to,
  or in the empty one, and putting the outcome there. -/
  writes : ∀ before after value, Path.ofText before ≠ [] → Path.ofText after ≠ [] →
    root.write (Path.ofText (before ++ "." ++ after)) value =
      root.write (Path.ofText before) (.mapping
        ((Value.entriesOf (Expression.reader root before)).write (Path.ofText after) value))

theorem joinLaws (root : Fields) : JoinLaws root where
  stays before after unkeyed := by
    simp only [Expression.reader, Path.ofText_append_dot, unkeyed, List.append_nil]
  enters before after inner found := by
    rw [Expression.reader] at found
    rw [Expression.reader, Path.ofText_append_dot, at?_append, found]
    rfl
  ends before after keyed nowhere := by
    obtain ⟨key, rest, cut⟩ := List.exists_cons_of_ne_nil keyed
    rw [Expression.reader, Path.ofText_append_dot, at?_append, cut]
    cases found : root.at? (Path.ofText before) with
    | none => rfl
    | some value =>
      cases value with
      | mapping inner => exact absurd found (nowhere inner)
      | _ => rfl
  writes before after value keyed onward := by
    rw [Path.ofText_append_dot]
    exact root.write_append keyed onward value

end Fields

namespace World

variable {H : Type}

/-- Changes that come to the same for a scope leave the same world. -/
theorem mapScope_congr (world : World H) {scope : ScopeId} {change change' : Scope → Scope}
    (same : change (world.scopes.get scope) = change' (world.scopes.get scope)) :
    world.mapScope scope change = world.mapScope scope change' := by
  have get : (world.scopes.update scope change).get = (world.scopes.update scope change').get := by
    funext id
    by_cases here : id = scope
    · subst here
      simp [Scopes.get_update, same]
    · simp [Scopes.get_update, here]
  simp only [mapScope, Scopes.update] at get ⊢
  rw [get]

theorem stored_of_keyed (world : World H) (scope : ScopeId) {path : String}
    (keyed : Path.ofText path ≠ []) (value : Value) :
    world.stored scope path value =
      world.mapScope scope fun old =>
        { old with data := old.data.write (Path.ofText path) value } := by
  obtain ⟨key, rest, cut⟩ := List.exists_cons_of_ne_nil keyed
  simp only [stored, cut]

/-- A write by texts with a dot between them leaves the same world as the write by the first one of
what the second one makes of the mapping there. -/
theorem stored_append_dot (world : World H) (scope : ScopeId) {before after : String}
    (keyed : Path.ofText before ≠ []) (onward : Path.ofText after ≠ []) (value : Value) :
    world.stored scope (before ++ "." ++ after) value =
      world.stored scope before (.mapping
        ((Value.entriesOf (world.reader scope before)).write (Path.ofText after) value)) := by
  have joined : Path.ofText (before ++ "." ++ after) ≠ [] := by
    simp [Path.ofText_append_dot, keyed]
  rw [world.stored_of_keyed scope joined, world.stored_of_keyed scope keyed]
  apply world.mapScope_congr
  have data := ((world.data scope).joinLaws).writes before after value keyed onward
  exact congrArg (fun data => { world.scopes.get scope with data := data }) data

end World

namespace Eff

variable {H : Type}

/-- A dot joins the paths of two texts, and keys with dots between them are the path that they
write. So every root mapping is read and written by a joined text as by its parts one after the
other. A write to a scope by a joined text leaves the very world that a write by the first part
leaves, if that is a write of the mapping there with the value written into it by the second part.
The same listeners are called, and told of different texts. -/
theorem joined_of_write (host : Host H) (scope : ScopeId) (world : World H) :
    (∀ before after,
      Path.ofText (before ++ "." ++ after) = Path.ofText before ++ Path.ofText after) ∧
    (∀ keys, (∀ key ∈ keys, Path.IsKey key) → Path.ofText (".".intercalate keys) = keys) ∧
    (∀ root : Fields, root.JoinLaws) ∧
    ∀ before after value, Path.ofText before ≠ [] → Path.ofText after ≠ [] →
      ∃ written : World H,
        write host scope (before ++ "." ++ after) value world =
          callAll host (fun _ => .wrote (before ++ "." ++ after))
            (world.scopes.get scope).listeners written ∧
        write host scope before (.mapping
            ((Value.entriesOf (world.reader scope before)).write (Path.ofText after) value)) world =
          callAll host (fun _ => .wrote before) (world.scopes.get scope).listeners written ∧
        written.data scope =
          (world.data scope).write (Path.ofText before ++ Path.ofText after) value := by
  refine ⟨Path.ofText_append_dot, fun keys each => Path.ofText_intercalate each,
    Fields.joinLaws, ?_⟩
  intro before after value keyed onward
  have joined : Path.ofText (before ++ "." ++ after) ≠ [] := by
    simp [Path.ofText_append_dot, keyed]
  refine ⟨world.stored scope (before ++ "." ++ after) value, ?_, ?_, ?_⟩
  · rw [write_eq, if_neg joined]
  · rw [write_eq, if_neg keyed, world.stored_append_dot scope keyed onward]
  · rw [World.data_stored, if_pos rfl, Path.ofText_append_dot]

private def profile : Fields :=
  [("user", .mapping [("name", .text "Ana")]), ("visits", .int 5)]

/-- Dots at the ends and doubled ones count for nothing. Behind the number no key leads on, and a
write behind it puts a mapping in its place. -/
theorem joined_of_write_profile :
    (∀ key ∈ ["user", "first name"], Path.IsKey key) ∧
    Path.ofText "user.first name" = ["user", "first name"] ∧
    Path.ofText (".user." ++ "." ++ "name..") = ["user", "name"] ∧
    Expression.reader profile ".user." = some (.mapping [("name", .text "Ana")]) ∧
    Expression.reader profile (".user." ++ "." ++ "name..") = some (.text "Ana") ∧
    Path.ofText ".." = [] ∧
    Expression.reader profile ("visits" ++ "." ++ "..") = some (.int 5) ∧
    Path.ofText "visits" ≠ [] ∧ Path.ofText ".x.y" ≠ [] ∧
    Expression.reader profile ("visits" ++ "." ++ ".x.y") = none ∧
    ∃ written : World Unit,
      write Host.calm Scopes.main ("visits" ++ "." ++ ".x.y") .null
          (.initial profile "Alerta" [] ()) = .ok () written ∧
      write Host.calm Scopes.main "visits" (.mapping [("x", .mapping [("y", .null)])])
          (.initial profile "Alerta" [] ()) = .ok () written ∧
      written.data Scopes.main = [("user", .mapping [("name", .text "Ana")]),
        ("visits", .mapping [("x", .mapping [("y", .null)])])] := by
  have keys : ∀ key ∈ ["user", "first name"], Path.IsKey key := by
    simp [Path.IsKey]
  have user : Expression.reader profile ".user." = some (.mapping [("name", .text "Ana")]) := rfl
  have number : ∀ inner, Expression.reader profile "visits" ≠ some (.mapping inner) := by
    intro inner same
    cases same
  have none : Path.ofText ".." = [] := rfl
  have keyed : Path.ofText "visits" ≠ [] := by decide
  have onward : Path.ofText ".x.y" ≠ [] := by decide
  obtain ⟨joined, split, laws, writes⟩ :=
    joined_of_write Host.calm Scopes.main (.initial profile "Alerta" [] ())
  obtain ⟨written, whole, inner, data⟩ := writes "visits" ".x.y" .null keyed onward
  exact ⟨keys, split _ keys, joined ".user." "name..", user,
    (laws profile).enters ".user." "name.." _ user, none,
    (laws profile).stays "visits" ".." none, keyed, onward,
    (laws profile).ends "visits" ".x.y" onward number, written, whole, inner, data⟩

end Eff

end ScreenScript
