import ScreenScript.Proofs.Outcome

/-! # What is read after a write

A write is seen from three sides. Behind its path the written value is read; on the way to it
every mapping has one entry rewritten, which keeps its place when it was there; beside it
nothing changes. Writing and reading are separate recursions down a path, and the laws hold for
them at any depth, whatever stands on the way. Two writes one after another are not compared.
-/

namespace ScreenScript

namespace Keyed

variable {α : Type}

/-- One entry is rewritten: that of a key which is there, in its place, or a new one at the
end. -/
inductive Rewritten (key : String) (value : α) : List (String × α) → List (String × α) → Prop
  | inPlace {front back : List (String × α)} {was : α} (first : key ∉ keys front) :
      Rewritten key value (front ++ (key, was) :: back) (front ++ (key, value) :: back)
  | atEnd {entries : List (String × α)} (absent : key ∉ keys entries) :
      Rewritten key value entries (entries ++ [(key, value)])

/-- An entry before the rewritten one, under another key, stays. -/
theorem Rewritten.cons {key other : String} {value was : α} {before after : List (String × α)}
    (rewritten : Rewritten key value before after) (differ : other ≠ key) :
    Rewritten key value ((other, was) :: before) ((other, was) :: after) := by
  have absent {entries : List (String × α)} (rest : key ∉ keys entries) :
      key ∉ keys ((other, was) :: entries) := by
    intro member
    rcases List.mem_cons.mp member with same | later
    · exact differ same.symm
    · exact rest later
  cases rewritten with
  | inPlace first => exact .inPlace (absent first)
  | atEnd missing => exact .atEnd (absent missing)

/-- Putting rewrites one entry. -/
theorem rewritten_put (entries : List (String × α)) (key : String) (value : α) :
    Rewritten key value entries (put entries key value) := by
  induction entries with
  | nil => exact .atEnd List.not_mem_nil
  | cons entry rest ih =>
    obtain ⟨other, was⟩ := entry
    rw [put]
    split
    next same =>
      subst same
      have first : other ∉ keys ([] : List (String × α)) := List.not_mem_nil
      exact .inPlace first
    next differ => exact ih.cons differ

end Keyed

namespace Value

/-- The entries of what was read, none when it is no mapping. -/
def entriesOf (found : Option Value) : Fields :=
  (found.bind mapping?).getD []

/-- Reading a path is reading its parts one after another. -/
theorem at?_append (value : Value) (way rest : Path) :
    value.at? (way ++ rest) = (value.at? way).bind fun found => found.at? rest := by
  induction way generalizing value with
  | nil => simp [at?]
  | cons key way ih =>
    cases value with
    | mapping fields =>
      simp only [List.cons_append, at?, Option.bind_assoc]
      exact congrArg _ (funext fun found => ih found)
    | _ => rfl

end Value

namespace Fields

/-- What a write puts under the first key of its path. -/
def branch (fields : Fields) (key : String) : Path → Value → Value
  | [], value => value
  | next :: rest, value => .mapping ((fields.mappingAt key).write (next :: rest) value)

theorem write_cons (fields : Fields) (key : String) (rest : Path) (value : Value) :
    fields.write (key :: rest) value = Keyed.put fields key (fields.branch key rest value) := by
  cases rest <;> rfl

theorem branch_append (fields : Fields) (key next : String) (way rest : Path) (value : Value) :
    fields.branch key (way ++ next :: rest) value =
      .mapping ((fields.mappingAt key).write (way ++ next :: rest) value) := by
  cases way <;> rfl

theorem at?_append (fields : Fields) (way rest : Path) :
    fields.at? (way ++ rest) = (fields.at? way).bind fun found => found.at? rest :=
  Value.at?_append (.mapping fields) way rest

/-- After a write, its first key leads to what was put there, and other keys to what they led to
before. -/
theorem at?_write_cons (fields : Fields) (key other : String) (rest asked : Path)
    (value : Value) :
    (fields.write (key :: rest) value).at? (other :: asked) =
      if key = other then (fields.branch key rest value).at? asked
      else fields.at? (other :: asked) := by
  rw [write_cons, at?_cons, at?_cons, Keyed.get?_put]
  split <;> rfl

/-- Something that is no mapping reads like the empty mapping at every path with a key. -/
theorem at?_mappingAt (fields : Fields) (key next : String) (rest : Path) :
    (fields.mappingAt key).at? (next :: rest) = fields.at? (key :: next :: rest) := by
  rw [at?_cons fields, mappingAt]
  cases Keyed.get? fields key with
  | none => rfl
  | some found => cases found <;> rfl

theorem entriesOf_mappingAt (fields : Fields) (key : String) (way : Path) :
    Value.entriesOf ((fields.mappingAt key).at? way) =
      Value.entriesOf (fields.at? (key :: way)) := by
  cases way with
  | cons next rest => rw [at?_mappingAt]
  | nil =>
    rw [at?_nil, at?_cons, mappingAt]
    cases Keyed.get? fields key with
    | none => rfl
    | some found => cases found <;> rfl

/-- Behind the path of a write stands what the written value holds. -/
theorem at?_write_append (fields : Fields) (key : String) (rest behind : Path) (value : Value) :
    (fields.write (key :: rest) value).at? (key :: rest ++ behind) = value.at? behind := by
  rw [at?_append, at?_write, Option.bind_some]

/-- On the way to a write every mapping has the entry rewritten that leads on. -/
theorem at?_write_way (fields : Fields) (way : Path) (key : String) (rest : Path)
    (value : Value) :
    ∃ led after, (fields.write (way ++ key :: rest) value).at? way = some (.mapping after) ∧
      Keyed.Rewritten key led (Value.entriesOf (fields.at? way)) after := by
  induction way generalizing fields with
  | nil =>
    refine ⟨fields.branch key rest value, fields.write (key :: rest) value, at?_nil _, ?_⟩
    rw [at?_nil, write_cons]
    exact Keyed.rewritten_put fields key _
  | cons first way ih =>
    obtain ⟨led, after, read, rewritten⟩ := ih (fields.mappingAt first)
    rw [entriesOf_mappingAt] at rewritten
    refine ⟨led, after, ?_, rewritten⟩
    rw [List.cons_append, at?_write_cons, if_pos rfl, branch_append]
    exact read

/-- Beside the path of a write everything is as it was. -/
theorem at?_write_beside (fields : Fields) (path asked : Path) (value : Value)
    (ahead : ¬path <+: asked) (behind : ¬asked <+: path) :
    (fields.write path value).at? asked = fields.at? asked := by
  induction path generalizing fields asked with
  | nil => exact absurd List.nil_prefix ahead
  | cons key rest ih =>
    cases asked with
    | nil => exact absurd List.nil_prefix behind
    | cons other asked =>
      rw [at?_write_cons]
      split
      next same =>
        subst same
        have ahead : ¬rest <+: asked := fun before =>
          ahead (List.cons_prefix_cons.mpr ⟨rfl, before⟩)
        have behind : ¬asked <+: rest := fun before =>
          behind (List.cons_prefix_cons.mpr ⟨rfl, before⟩)
        match rest, asked, ahead, behind with
        | [], _, ahead, _ => exact absurd List.nil_prefix ahead
        | _ :: _, [], _, behind => exact absurd List.nil_prefix behind
        | next :: rest, other :: asked, ahead, behind =>
          rw [← at?_mappingAt]
          exact ih (fields.mappingAt key) (other :: asked) ahead behind
      · rfl

end Fields

/-- What reading by text answers after a write, next to what it answered before. -/
structure ReadsBack (before after : String → Option Value) (path : String) (value : Value) :
    Prop where
  behind : ∀ asked rest, Path.ofText asked = Path.ofText path ++ rest →
    after asked = value.at? rest
  above : ∀ asked key rest, Path.ofText path = Path.ofText asked ++ key :: rest →
    ∃ led fields, after asked = some (.mapping fields) ∧
      Keyed.Rewritten key led (Value.entriesOf (before asked)) fields
  beside : ∀ asked, ¬Path.ofText path <+: Path.ofText asked →
    ¬Path.ofText asked <+: Path.ofText path → after asked = before asked

/-- A write to a path with a key is read back. -/
theorem Fields.readsBack_write (fields : Fields) {path : String} (keyed : Path.ofText path ≠ [])
    (value : Value) :
    ReadsBack (Expression.reader fields)
      (Expression.reader (fields.write (Path.ofText path) value)) path value where
  behind asked rest below := by
    obtain ⟨key, way, cut⟩ := List.exists_cons_of_ne_nil keyed
    rw [Expression.reader, below, cut]
    exact at?_write_append fields key way rest value
  above asked key rest below := by
    rw [Expression.reader, below]
    exact at?_write_way fields (Path.ofText asked) key rest value
  beside asked ahead behind :=
    at?_write_beside fields (Path.ofText path) (Path.ofText asked) value ahead behind

namespace Eff

variable {H : Type}

/-- A write stores its value and then calls those that listen. In between, all that is read in its
scope is as the write and the data before it determine, and all other scopes are as they were. A
path without a key calls nobody and only leaves a notice. -/
theorem readsBack_of_write (host : Host H) (scope : ScopeId) (path : String) (value : Value)
    (world : World H) :
    ∃ written,
      write host scope path value world =
        callAll host (fun _ => .wrote path)
          (if Path.ofText path = [] then [] else (world.scopes.get scope).listeners) written ∧
      (Path.ofText path = [] → written = world.record [.emptyPath path]) ∧
      (Path.ofText path ≠ [] → ReadsBack (world.reader scope) (written.reader scope) path value) ∧
      ∀ other, other ≠ scope → written.data other = world.data other := by
  refine ⟨world.stored scope path value, write_eq host scope path value world, fun empty => ?_,
    fun keyed => ?_, fun other differ => ?_⟩
  · rw [World.stored, empty]
  · have data := world.data_stored scope scope path value
    rw [if_pos rfl] at data
    rw [World.reader, World.reader, data]
    exact Fields.readsBack_write (world.data scope) keyed value
  · rw [World.data_stored, if_neg differ]

end Eff

end ScreenScript
