import Mathlib.Data.List.Nodup
import ScreenScript.Proofs.Path.Commutation

/-! # Each key once

Mappings are lists of entries, so a list could hold two entries of one key. Reading takes the first
of them, and putting all entries of one mapping into another leaves the last, so the two would not
agree on what stands under the key. Values that were read from a document have no such mapping at
any depth, and nothing here brings one about: not reading, not putting entries into a mapping, and
not the evaluation of an expression, which leaves entries out but never adds one.
-/

namespace ScreenScript

namespace Keyed

variable {α : Type}

/-- Putting in an entry keeps the keys distinct. -/
theorem nodup_keys_put {entries : List (String × α)} (unique : (keys entries).Nodup) (key : String)
    (value : α) : (keys (put entries key value)).Nodup := by
  rw [keys_put]
  split
  · exact unique
  next absent =>
    refine List.nodup_append.mpr ⟨unique, List.nodup_singleton key, fun other member new one => ?_⟩
    rw [List.mem_singleton] at one
    intro same
    exact absent (one ▸ same ▸ member)

/-- After all entries of a mapping were put into another one, its own keys lead to its own values,
and all other keys to what they led to before. -/
theorem get?_merge (base : List (String × α)) {added : List (String × α)}
    (unique : (keys added).Nodup) (key : String) :
    get? (merge base added) key = if key ∈ keys added then get? added key else get? base key := by
  induction added generalizing base with
  | nil => rfl
  | cons entry rest ih =>
    obtain ⟨first, value⟩ := entry
    obtain ⟨fresh, later⟩ := List.nodup_cons.mp unique
    have merged : merge base ((first, value) :: rest) = merge (put base first value) rest := rfl
    rw [merged, ih _ later, get?_put, get?]
    by_cases same : first = key
    · have absent : key ∉ keys rest := same ▸ fresh
      simp [mem_keys_cons, same, absent]
    · simp [mem_keys_cons, same, Ne.symm same]

end Keyed

/-- Each mapping in the value, at any depth, has each of its keys once. -/
inductive Value.Unambiguous : Value → Prop
  | plain {value : Value} (noList : value.list? = none) (noMapping : value.mapping? = none) :
      Unambiguous value
  | list {items : List Value} (inside : ∀ item ∈ items, Unambiguous item) :
      Unambiguous (.list items)
  | mapping {fields : Fields} (unique : (Keyed.keys fields).Nodup)
      (inside : ∀ entry ∈ fields, Unambiguous entry.2) : Unambiguous (.mapping fields)

/-- The fields have each key once, and so has each mapping inside of them. -/
def Fields.Unambiguous (fields : Fields) : Prop :=
  (Value.mapping fields).Unambiguous

namespace Value.Unambiguous

theorem items {items : List Value} (unambiguous : (Value.list items).Unambiguous) :
    ∀ item ∈ items, item.Unambiguous := by
  cases unambiguous with
  | plain noList _ => cases noList
  | list inside => exact inside

end Value.Unambiguous

namespace Fields.Unambiguous

variable {fields : Fields}

theorem nodup (unambiguous : fields.Unambiguous) : (Keyed.keys fields).Nodup := by
  cases unambiguous with
  | plain _ noMapping => cases noMapping
  | mapping unique _ => exact unique

theorem inside (unambiguous : fields.Unambiguous) : ∀ entry ∈ fields, entry.2.Unambiguous := by
  cases unambiguous with
  | plain _ noMapping => cases noMapping
  | mapping _ inside => exact inside

theorem nil : Fields.Unambiguous [] :=
  .mapping List.nodup_nil (List.forall_mem_nil _)

theorem cons {key : String} {value : Value} (fresh : key ∉ Keyed.keys fields)
    (here : value.Unambiguous) (later : fields.Unambiguous) :
    Fields.Unambiguous ((key, value) :: fields) :=
  .mapping (List.nodup_cons.mpr ⟨fresh, later.nodup⟩)
    (List.forall_mem_cons.mpr ⟨here, later.inside⟩)

theorem get? (unambiguous : fields.Unambiguous) {key : String} {value : Value}
    (found : Keyed.get? fields key = some value) : value.Unambiguous :=
  unambiguous.inside _ (Keyed.mem_of_get? found)

theorem put (unambiguous : fields.Unambiguous) (key : String) {value : Value}
    (entry : value.Unambiguous) : Fields.Unambiguous (Keyed.put fields key value) := by
  refine .mapping (Keyed.nodup_keys_put unambiguous.nodup key value) fun other member => ?_
  rcases Keyed.mem_put member with before | rfl
  · exact unambiguous.inside other before
  · exact entry

theorem merge (unambiguous : fields.Unambiguous) {added : Fields}
    (entries : ∀ entry ∈ added, entry.2.Unambiguous) :
    Fields.Unambiguous (Keyed.merge fields added) := by
  induction added generalizing fields with
  | nil => exact unambiguous
  | cons entry rest ih =>
    obtain ⟨first, later⟩ := List.forall_mem_cons.mp entries
    exact ih (unambiguous.put entry.1 first) later

end Fields.Unambiguous

/-- What is read at a path stands inside of what it is read from. -/
theorem Value.Unambiguous.at? {value found : Value} (unambiguous : value.Unambiguous) {path : Path}
    (read : value.at? path = some found) : found.Unambiguous := by
  induction path generalizing value with
  | nil =>
    cases value <;> (cases read; exact unambiguous)
  | cons key rest ih =>
    cases value with
    | mapping fields =>
      obtain ⟨next, led, read⟩ := Option.bind_eq_some_iff.mp read
      exact ih (Fields.Unambiguous.get? unambiguous led) read
    | _ => cases read

theorem Fields.Unambiguous.reader {data : Fields} (unambiguous : data.Unambiguous) (path : String)
    (value : Value) (read : Expression.reader data path = some value) : value.Unambiguous :=
  Value.Unambiguous.at? unambiguous read

namespace Expression

variable {read : String → Option Value}

/-- Evaluation leaves out entries of a mapping, and keeps the others under their keys. -/
theorem keys_evalFields_sublist (read : String → Option Value) (fields : Fields) :
    (Keyed.keys (evalFields read fields)).Sublist (Keyed.keys fields) := by
  induction fields with
  | nil => exact .slnil
  | cons entry rest ih =>
    rw [evalFields]
    cases eval? read entry.2 with
    | none => exact ih.cons _
    | some value => exact ih.cons_cons _

/-- An expression without a key twice has a value without a key twice, when there is none in what it
reads. -/
theorem unambiguous_eval? (reads : ∀ path value, read path = some value → value.Unambiguous)
    {node : Value} (unambiguous : node.Unambiguous) {value : Value}
    (evaluated : eval? read node = some value) : value.Unambiguous := by
  induction unambiguous generalizing value with
  | @plain node noList noMapping =>
    cases node with
    | list _ => cases noList
    | mapping _ => cases noMapping
    | _ =>
      cases evaluated
      exact .plain rfl rfl
  | list inside ih =>
    cases evaluated
    refine .list fun item member => ?_
    rw [evalItems_eq_filterMap] at member
    obtain ⟨part, listed, yielded⟩ := List.mem_filterMap.mp member
    exact ih part listed yielded
  | @mapping fields unique inside ih =>
    rw [eval?] at evaluated
    split at evaluated
    next path named => exact reads path value evaluated
    next =>
      split at evaluated
      · cases evaluated
        exact .plain rfl rfl
      · cases evaluated
        refine .mapping ((keys_evalFields_sublist read fields).nodup unique) fun entry member => ?_
        rw [evalFields_eq_filterMap] at member
        obtain ⟨source, listed, yielded⟩ := List.mem_filterMap.mp member
        obtain ⟨part, found, same⟩ := Option.map_eq_some_iff.mp yielded
        subst same
        exact ih source listed found

theorem unambiguous_evaluate (reads : ∀ path value, read path = some value → value.Unambiguous)
    {node : Value} (unambiguous : node.Unambiguous) : (evaluate read node).Unambiguous := by
  rw [evaluate]
  cases evaluated : eval? read node with
  | none => exact .plain rfl rfl
  | some value => exact unambiguous_eval? reads unambiguous evaluated

end Expression

end ScreenScript
