import ScreenScript.Proofs.Outcome
import ScreenScript.Proofs.Path.Commutation

/-! # The algebra of writes

A root mapping is the same after two writes as after the second one alone when the second path is
the first one or a part of the way to it, and it does not change at all when what is written is what
a path leads to already. Writes to paths apart from each other may be made in either order: only the
order of new keys can tell which was first, and not even that where one of the paths led somewhere
before. These are equalities of whole mappings, with the order of keys at every depth; what is read
at single paths follows from them and is not the subject here.
-/

namespace ScreenScript

namespace Keyed

variable {α : Type}

/-- Putting what is there already changes nothing. -/
theorem put_of_get? {entries : List (String × α)} {key : String} {value : α}
    (found : get? entries key = some value) : put entries key value = entries := by
  induction entries with
  | nil => cases found
  | cons entry rest ih =>
    obtain ⟨other, was⟩ := entry
    rw [get?] at found
    rw [put]
    split at found
    next same =>
      cases found
      rw [if_pos same, same]
    next differ => rw [if_neg differ, ih found]

/-- Two keys of which one is there already may be put in either order. -/
theorem put_comm {entries : List (String × α)} {key : String} (other : String) {was : α}
    (found : get? entries key = some was) (differ : key ≠ other) (value value' : α) :
    put (put entries key value) other value' = put (put entries other value') key value := by
  induction entries with
  | nil => cases found
  | cons entry rest ih =>
    by_cases here : entry.1 = key
    · simp [put, here, differ]
    · rw [get?, if_neg here] at found
      by_cases there : entry.1 = other
      · simp [put, there, Ne.symm differ]
      · simp [put, here, there, ih found]

end Keyed

namespace Fields

/-- A write is lost behind a later one to its path, or to a part of the way to it. -/
theorem write_write_of_prefix (fields : Fields) {path other : Path} (keyed : other ≠ [])
    (above : other <+: path) (value later : Value) :
    (fields.write path value).write other later = fields.write other later := by
  induction other generalizing fields path with
  | nil => exact absurd rfl keyed
  | cons key rest ih =>
    obtain ⟨behind, rfl⟩ := above
    cases rest with
    | nil =>
      rw [List.singleton_append, write_cons fields key behind, write, write]
      exact Keyed.put_put fields key _ later
    | cons next rest =>
      have deeper := ih (fields.mappingAt key) (List.cons_ne_nil next rest)
        (List.prefix_append (next :: rest) behind)
      simp only [List.cons_append, write, mappingAt_put, Keyed.put_put] at deeper ⊢
      rw [deeper]

/-- Writing what a path leads to already changes nothing. -/
theorem write_of_at? {fields : Fields} {path : Path} {value : Value}
    (found : fields.at? path = some value) : fields.write path value = fields := by
  induction path generalizing fields with
  | nil => rfl
  | cons key rest ih =>
    rw [at?_cons] at found
    obtain ⟨led, entry, found⟩ := Option.bind_eq_some_iff.mp found
    cases rest with
    | nil =>
      cases found
      exact Keyed.put_of_get? entry
    | cons next rest =>
      -- The path goes on, so what stands under its first key is a mapping.
      cases led with
      | mapping inner =>
        have there : fields.mappingAt key = inner := by
          rw [mappingAt, entry]
          rfl
        have kept : write inner (next :: rest) value = inner := ih found
        rw [write, there, kept]
        exact Keyed.put_of_get? entry
      | _ => cases found

/-- Writes to paths apart from each other give the same mapping in either order, with the same order
of keys, where one of the paths led somewhere before. -/
theorem write_comm {fields : Fields} {path other : Path} {was : Value} (apart : path.Apart other)
    (present : fields.at? path = some was) (value value' : Value) :
    (fields.write path value).write other value' =
      (fields.write other value').write path value := by
  induction path generalizing fields other with
  | nil => exact absurd List.nil_prefix apart.ahead
  | cons key rest ih =>
    cases other with
    | nil => exact absurd List.nil_prefix apart.behind
    | cons key' rest' =>
      rw [at?_cons] at present
      obtain ⟨led, entry, present⟩ := Option.bind_eq_some_iff.mp present
      by_cases same : key = key'
      · subst same
        have deeper := apart.of_cons
        obtain ⟨next, rest, rfl⟩ := List.exists_cons_of_ne_nil
          (fun ended => deeper.ahead (ended ▸ List.nil_prefix) : rest ≠ [])
        obtain ⟨next', rest', rfl⟩ := List.exists_cons_of_ne_nil
          (fun ended => deeper.behind (ended ▸ List.nil_prefix) : rest' ≠ [])
        have inside : (fields.mappingAt key).at? (next :: rest) = some was := by
          rw [at?_mappingAt, at?_cons, entry]
          exact present
        simp only [write, mappingAt_put, Keyed.put_put]
        rw [ih deeper inside]
      · have there : Keyed.get? (Keyed.put fields key (fields.branch key rest value)) key' =
            Keyed.get? fields key' := by rw [Keyed.get?_put, if_neg same]
        have here : Keyed.get? (Keyed.put fields key' (fields.branch key' rest' value')) key =
            Keyed.get? fields key := by rw [Keyed.get?_put, if_neg (Ne.symm same)]
        simp only [write_cons]
        rw [branch_congr there, branch_congr here]
        exact Keyed.put_comm key' entry same _ _

/-- The laws of writing by the texts of paths, for the root mapping that they start from. -/
structure WriteLaws (root : Fields) : Prop where
  /-- Of two writes the second one alone counts where it is to the same path or further up. -/
  overwrites : ∀ path other value later, Path.ofText other ≠ [] →
    Path.ofText other <+: Path.ofText path →
    (root.write (Path.ofText path) value).write (Path.ofText other) later =
      root.write (Path.ofText other) later
  /-- What is read may be written back. -/
  restores : ∀ path value, Expression.reader root path = some value →
    root.write (Path.ofText path) value = root
  /-- Writes apart from each other commute but for the order of keys that are new. -/
  commutes : ∀ path other value later, (Path.ofText path).Apart (Path.ofText other) →
    Reordered ((root.write (Path.ofText path) value).write (Path.ofText other) later)
      ((root.write (Path.ofText other) later).write (Path.ofText path) value)
  /-- Where one of the paths is there already, no key is new but behind the other one. -/
  commutesExactly : ∀ path other value later, (Path.ofText path).Apart (Path.ofText other) →
    (Expression.reader root path).isSome ∨ (Expression.reader root other).isSome →
    (root.write (Path.ofText path) value).write (Path.ofText other) later =
      (root.write (Path.ofText other) later).write (Path.ofText path) value

theorem writeLaws (root : Fields) : WriteLaws root where
  overwrites _ _ value later keyed above := root.write_write_of_prefix keyed above value later
  restores _ _ found := write_of_at? found
  commutes _ _ value later apart := root.reordered_write_write apart value later
  commutesExactly path other value later apart present := by
    rcases present with here | there
    · obtain ⟨was, here⟩ := Option.isSome_iff_exists.mp here
      exact write_comm apart here value later
    · obtain ⟨was, there⟩ := Option.isSome_iff_exists.mp there
      exact (write_comm apart.symm there later value).symm

/-- Keys that are both new stand in the order of the writes. -/
example :
    Keyed.keys ((write [] ["a"] .null).write ["b"] .null) = ["a", "b"] ∧
      Keyed.keys ((write [] ["b"] .null).write ["a"] .null) = ["b", "a"] := ⟨rfl, rfl⟩

end Fields

namespace Eff

variable {H : Type}

/-- A write stores a root mapping that the one before it determines, and then calls those that
listen; and whatever the root mapping before it was, writing obeys the laws. -/
theorem lawful_of_write (host : Host H) (scope : ScopeId) (path : String) (value : Value)
    (world : World H) :
    (∃ written,
      write host scope path value world =
        callAll host (fun _ => .wrote path)
          (if Path.ofText path = [] then [] else (world.scopes.get scope).listeners) written ∧
      written.data scope = (world.data scope).write (Path.ofText path) value) ∧
    Fields.WriteLaws (world.data scope) := by
  refine ⟨⟨world.stored scope path value, write_eq host scope path value world, ?_⟩,
    Fields.writeLaws _⟩
  rw [World.data_stored, if_pos rfl]

end Eff

end ScreenScript
