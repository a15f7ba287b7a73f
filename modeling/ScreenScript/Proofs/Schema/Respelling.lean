import Mathlib.Data.List.Nodup
import Mathlib.Data.List.Pairwise
import Mathlib.Logic.Relation
import ScreenScript.Proofs.Path.Commutation
import ScreenScript.Screen

/-! # The ways to write one model

A check of a model sees of a mapping only what stands under the first key that is there for each of
its fields. `Respelled` lists the changes to a mapping that leave this alone: an entry moves to the
key that a document uses, entries come or go that belong to no field, or the value of a field
changes in a way that its own check does not tell. So what was accepted for a field before such a
change is accepted after it, with the same result, as long as no two fields share a key.
-/

namespace ScreenScript

namespace Checked

variable {α β : Type}

theorem map_eq_valid_iff {f : α → β} {checked : Checked α} {result : β} :
    f <$> checked = .valid result ↔ ∃ value, checked = .valid value ∧ f value = result := by
  cases checked with
  | valid value => exact ⟨fun same => ⟨value, rfl, valid.inj same⟩, by rintro ⟨_, ⟨⟩, rfl⟩; rfl⟩
  | invalid issues => exact ⟨fun same => (by cases same), by rintro ⟨_, ⟨⟩, _⟩⟩

theorem seq_eq_valid_iff {f : Checked (α → β)} {checked : Checked α} {result : β} :
    f <*> checked = .valid result ↔
      ∃ g value, f = .valid g ∧ checked = .valid value ∧ g value = result := by
  cases f with
  | valid g =>
    refine Iff.trans (map_eq_valid_iff (f := g)) ⟨?_, ?_⟩
    · rintro ⟨value, accepted, same⟩
      exact ⟨g, value, rfl, accepted, same⟩
    · rintro ⟨_, value, ⟨⟩, accepted, same⟩
      exact ⟨value, accepted, same⟩
  | invalid issues => exact ⟨fun same => (by cases same), by rintro ⟨_, _, ⟨⟩, _⟩⟩

theorem under_eq_valid_iff {step : Place} {checked : Checked α} {result : α} :
    checked.under step = .valid result ↔ checked = .valid result := by
  cases checked with
  | valid value => exact Iff.rfl
  | invalid issues => exact ⟨fun same => (by cases same), fun same => (by cases same)⟩

end Checked

namespace Keyed

variable {α : Type} {entries entries' : List (String × α)}

/-- The value under the first of the keys that is there. -/
def first? (entries : List (String × α)) : List String → Option α
  | [] => none
  | key :: others => (get? entries key).or (first? entries others)

theorem mem_keys_append {front back : List (String × α)} {key : String} :
    key ∈ keys (front ++ back) ↔ key ∈ keys front ∨ key ∈ keys back := by
  rw [keys, List.map_append, List.mem_append, keys, keys]

theorem get?_eq_none_iff {key : String} : get? entries key = none ↔ key ∉ keys entries := by
  induction entries with
  | nil => simp [get?, keys]
  | cons entry rest ih =>
    rw [mem_keys_cons, get?]
    by_cases same : entry.1 = key
    · simp [same]
    · simp [same, Ne.symm same, ih]

theorem first?_congr {keys : List String}
    (same : ∀ key ∈ keys, get? entries' key = get? entries key) :
    first? entries' keys = first? entries keys := by
  induction keys with
  | nil => rfl
  | cons key others ih =>
    obtain ⟨here, later⟩ := List.forall_mem_cons.mp same
    rw [first?, first?, here, ih later]

/-- Another value under a key is not seen where an earlier key is there. -/
theorem first?_of_replaced {keys : List String} {key : String} {value value' : α}
    (found : get? entries key = some value)
    (replaced : ∀ other,
      get? entries' other = if other = key then some value' else get? entries other) :
    first? entries' keys = first? entries keys ∨
      first? entries keys = some value ∧ first? entries' keys = some value' := by
  induction keys with
  | nil => exact .inl rfl
  | cons other others ih =>
    rw [first?, first?, replaced]
    by_cases same : other = key
    · rw [if_pos same, same, found]
      exact .inr ⟨rfl, rfl⟩
    · rw [if_neg same]
      cases get? entries other with
      | none => exact ih
      | some earlier => exact .inl rfl

end Keyed

namespace Check

variable {α : Type} {entries : Fields} {result : α} {check : Value → Checked α}

/-- A field that must be there is accepted by the value under its key. -/
theorem required_eq_valid_iff {key : String} :
    required entries key check = .valid result ↔
      ∃ value, Keyed.first? entries [key] = some value ∧ check value = .valid result := by
  rw [required, Keyed.first?, Keyed.first?, Option.or_none]
  cases Keyed.get? entries key with
  | none => simp
  | some value => simp [Checked.under_eq_valid_iff]

/-- A field is accepted by the value under the first of its keys that is there, and otherwise it has
its default. -/
theorem optional_eq_valid_iff {default : α} {keys : List String} :
    optional entries default check keys = .valid result ↔
      (Keyed.first? entries keys).elim (.valid default) check = .valid result := by
  induction keys with
  | nil => exact Iff.rfl
  | cons key others ih =>
    rw [optional, Keyed.first?]
    cases Keyed.get? entries key with
    | none => exact ih
    | some value => exact Checked.under_eq_valid_iff

end Check

/-- One change to how a model is written. The fields of the model are given by the keys under which
each of them may stand, that of a document first, and `within` says how the value of a field may
change. -/
inductive Respelled (fields : List (List String)) (within : List String → Value → Value → Prop) :
    Value → Value → Prop
  /-- An entry moves from the second key of a field to the first one, where there was none. -/
  | renamed {entries entries' : Fields} {document name : String}
      (field : [document, name] ∈ fields) (free : Keyed.get? entries document = none)
      (moved : ∀ key, Keyed.get? entries' key =
        if key = document then Keyed.get? entries name
        else if key = name then none else Keyed.get? entries key) :
      Respelled fields within (.mapping entries) (.mapping entries')
  /-- Entries come, go or change that belong to no field. -/
  | ignored {entries entries' : Fields}
      (same : ∀ keys ∈ fields, ∀ key ∈ keys, Keyed.get? entries' key = Keyed.get? entries key) :
      Respelled fields within (.mapping entries) (.mapping entries')
  /-- The value under a key of a field changes. -/
  | inside {entries entries' : Fields} {keys : List String} {key : String} {value value' : Value}
      (field : keys ∈ fields) (member : key ∈ keys) (found : Keyed.get? entries key = some value)
      (changed : within keys value value')
      (replaced : ∀ other, Keyed.get? entries' other =
        if other = key then some value' else Keyed.get? entries other) :
      Respelled fields within (.mapping entries) (.mapping entries')

namespace Respelled

variable {fields : List (List String)} {within : List String → Value → Value → Prop}

/-- An entry is renamed where it stands. -/
theorem rename {document name : String} (field : [document, name] ∈ fields)
    (before : Fields) (value : Value) (after : Fields)
    (free : document ∉ Keyed.keys (before ++ (name, value) :: after))
    (unique : name ∉ Keyed.keys (before ++ after)) :
    Respelled fields within (.mapping (before ++ (name, value) :: after))
      (.mapping (before ++ (document, value) :: after)) := by
  refine .renamed field (Keyed.get?_eq_none_iff.mpr free) fun key => ?_
  simp only [Keyed.mem_keys_append, Keyed.mem_keys_cons, not_or] at free unique
  obtain ⟨freeBefore, differ, freeAfter⟩ := free
  obtain ⟨uniqueBefore, uniqueAfter⟩ := unique
  by_cases isDocument : key = document
  · subst isDocument
    rw [if_pos rfl, Keyed.get?_append, if_neg freeBefore, Keyed.get?_append, if_neg uniqueBefore]
    simp [Keyed.get?]
  · rw [if_neg isDocument]
    by_cases isName : key = name
    · subst isName
      rw [if_pos rfl, Keyed.get?_append, if_neg uniqueBefore]
      simpa [Keyed.get?, differ] using Keyed.get?_eq_none_iff.mpr uniqueAfter
    · rw [if_neg isName, Keyed.get?_append, Keyed.get?_append]
      simp [Keyed.get?, Ne.symm isDocument, Ne.symm isName]

/-- An entry comes that belongs to no field. -/
theorem add (entries : Fields) (key : String) (unknown : ∀ keys ∈ fields, key ∉ keys)
    (value : Value) :
    Respelled fields within (.mapping entries) (.mapping (Keyed.put entries key value)) := by
  refine .ignored fun keys field other member => ?_
  have differ : key ≠ other := fun same => unknown keys field (same ▸ member)
  rw [Keyed.get?_put, if_neg differ]

/-- The value of a field changes where it stands. -/
theorem put (keys : List String) (key : String) (field : keys ∈ fields) (member : key ∈ keys)
    {entries : Fields} {value value' : Value} (found : Keyed.get? entries key = some value)
    (changed : within keys value value') :
    Respelled fields within (.mapping entries) (.mapping (Keyed.put entries key value')) := by
  refine .inside field member found changed fun other => ?_
  rw [Keyed.get?_put]
  exact if_congr eq_comm rfl rfl

/-- Only mappings are respelled. -/
theorem mappings {value value' : Value} (respelled : Respelled fields within value value') :
    ∃ entries entries', value = .mapping entries ∧ value' = .mapping entries' := by
  cases respelled <;> exact ⟨_, _, rfl, rfl⟩

/-- A model that may be absent is accepted again where it is there. -/
theorem nullable {value value' : Value} (respelled : Respelled fields within value value')
    {α : Type} {check : Value → Checked α}
    (keeps : ∀ {result}, check value = .valid result → check value' = .valid result)
    {result : Option α} (accepted : Check.nullable check value = .valid result) :
    Check.nullable check value' = .valid result := by
  obtain ⟨entries, entries', rfl, rfl⟩ := respelled.mappings
  obtain ⟨model, read, rfl⟩ := Checked.map_eq_valid_iff.mp accepted
  exact Checked.map_eq_valid_iff.mpr ⟨model, keeps read, rfl⟩

section

variable {entries entries' : Fields}
  (respelled : Respelled fields within (.mapping entries) (.mapping entries'))
  (apart : fields.flatten.Nodup)
include respelled apart

/-- A check finds the value of a field again, or one into which it may change. -/
theorem first?_cases {keys : List String} (field : keys ∈ fields) :
    Keyed.first? entries' keys = Keyed.first? entries keys ∨
      ∃ value value', Keyed.first? entries keys = some value ∧
        Keyed.first? entries' keys = some value' ∧ within keys value value' := by
  obtain ⟨each, disjoint⟩ := List.nodup_flatten.mp apart
  have symmetric : Std.Symm (@List.Disjoint String) :=
    ⟨fun _ _ apart _ second first => apart first second⟩
  have elsewhere {other : List String} (otherField : other ∈ fields) (differ : other ≠ keys)
      {key : String} (member : key ∈ other) : key ∉ keys :=
    fun present => disjoint.forall otherField field differ member present
  cases respelled with
  | @renamed _ _ document name renamedField free moved =>
    left
    by_cases same : [document, name] = keys
    · subst same
      have differ : name ≠ document := by
        have unique := each _ field
        simp at unique
        exact Ne.symm unique
      simp [Keyed.first?, moved, free, differ]
    · refine Keyed.first?_congr fun key member => ?_
      have notDocument : key ≠ document := by
        rintro rfl
        exact elsewhere renamedField same (List.mem_cons_self ..) member
      have notName : key ≠ name := by
        rintro rfl
        exact elsewhere renamedField same (by simp) member
      rw [moved, if_neg notDocument, if_neg notName]
  | ignored same => exact .inl (Keyed.first?_congr (same keys field))
  | @inside _ _ changedKeys key value value' changedField member found changed replaced =>
    by_cases same : changedKeys = keys
    · subst same
      refine (Keyed.first?_of_replaced found replaced).imp id ?_
      rintro ⟨before, after⟩
      exact ⟨value, value', before, after, changed⟩
    · refine .inl (Keyed.first?_congr fun other present => ?_)
      have notKey : other ≠ key := by
        rintro rfl
        exact elsewhere changedField same member present
      rw [replaced, if_neg notKey]

variable {α : Type} {check : Value → Checked α} {result : α}

/-- What is accepted for a field that must be there is accepted again. -/
theorem required {key : String} (field : [key] ∈ fields)
    (keeps : ∀ value value', within [key] value value' → check value = .valid result →
      check value' = .valid result)
    (accepted : Check.required entries key check = .valid result) :
    Check.required entries' key check = .valid result := by
  rw [Check.required_eq_valid_iff] at accepted ⊢
  obtain ⟨value, found, accepted⟩ := accepted
  rcases respelled.first?_cases apart field with same | ⟨old, value', before, after, changed⟩
  · exact ⟨value, same.trans found, accepted⟩
  · rw [before] at found
    cases found
    exact ⟨value', after, keeps _ value' changed accepted⟩

/-- What is accepted for a field that may be left out is accepted again. -/
theorem optional {keys : List String} (field : keys ∈ fields) {default : α}
    (keeps : ∀ value value', within keys value value' → check value = .valid result →
      check value' = .valid result)
    (accepted : Check.optional entries default check keys = .valid result) :
    Check.optional entries' default check keys = .valid result := by
  rw [Check.optional_eq_valid_iff] at accepted ⊢
  rcases respelled.first?_cases apart field with same | ⟨value, value', before, after, changed⟩
  · rw [same]
    exact accepted
  · rw [before] at accepted
    rw [after]
    exact keeps value value' changed accepted

end

end Respelled

end ScreenScript
