import Mathlib.Data.List.Sort
import ScreenScript.Proofs.Path.Commutation

/-! # Values up to the order of keys

Two values are the same up to the order of keys when one turns into the other by entries under
different keys that change places, in mappings at any depth and inside lists too. Reading answers
alike on both, and writing keeps them alike: a key that is there keeps its place in its own order,
and a new key goes last in both.
-/

namespace ScreenScript

namespace Value

/-- The same value but for the order of keys in its mappings. -/
inductive Reordered : Value → Value → Prop
  | refl (value : Value) : Reordered value value
  | swap (front back : Fields) {first second : String × Value} (differ : first.1 ≠ second.1) :
      Reordered (.mapping (front ++ first :: second :: back))
        (.mapping (front ++ second :: first :: back))
  | entry (front back : Fields) (key : String) {inner inner' : Value}
      (inside : Reordered inner inner') :
      Reordered (.mapping (front ++ (key, inner) :: back))
        (.mapping (front ++ (key, inner') :: back))
  | item (front back : List Value) {inner inner' : Value} (inside : Reordered inner inner') :
      Reordered (.list (front ++ inner :: back)) (.list (front ++ inner' :: back))
  | trans {first middle last : Value} (left : Reordered first middle)
      (right : Reordered middle last) : Reordered first last

end Value

/-- Two root mappings that are the same but for the order of keys. -/
def Fields.Alike (fields fields' : Fields) : Prop :=
  (Value.mapping fields).Reordered (.mapping fields')

/-- Both absent, or both there and the same but for the order of keys. -/
abbrev Value.BothReordered : Option Value → Option Value → Prop :=
  Option.Rel Value.Reordered

private theorem rel_trans {α : Type} {relation : α → α → Prop}
    (trans : ∀ first middle last, relation first middle → relation middle last →
      relation first last)
    {first middle last : Option α} (left : Option.Rel relation first middle)
    (right : Option.Rel relation middle last) : Option.Rel relation first last := by
  cases left with
  | none => exact right
  | some left =>
    cases right with
    | some right => exact .some (trans _ _ _ left right)

theorem rel_refl {α : Type} {relation : α → α → Prop} (refl : ∀ one, relation one one)
    (one : Option α) : Option.Rel relation one one := by
  cases one with
  | none => exact .none
  | some one => exact .some (refl one)

theorem rel_bind {α β : Type} {relation : α → α → Prop} {relation' : β → β → Prop}
    {one other : Option α} {step step' : α → Option β} (start : Option.Rel relation one other)
    (steps : ∀ one other, relation one other → Option.Rel relation' (step one) (step' other)) :
    Option.Rel relation' (one.bind step) (other.bind step') := by
  cases start with
  | none => exact .none
  | some start => exact steps _ _ start

theorem forall₂_trans {α : Type} {relation : α → α → Prop} {first middle last : List α}
    (left : List.Forall₂ relation first middle) (right : List.Forall₂ relation middle last)
    (trans : ∀ one ∈ first, ∀ middle last, relation one middle → relation middle last →
      relation one last) : List.Forall₂ relation first last := by
  induction left generalizing last with
  | nil => exact right
  | cons here _ ih =>
    cases right with
    | cons there right =>
      rw [List.forall_mem_cons] at trans
      exact .cons (trans.1 _ _ here there) (ih right trans.2)

namespace Value.Reordered

variable {value value' : Value}

theorem both_trans {first middle last : Option Value} (left : BothReordered first middle)
    (right : BothReordered middle last) : BothReordered first last :=
  rel_trans (fun _ _ _ => .trans) left right

theorem text?_eq (reordered : value.Reordered value') : value.text? = value'.text? := by
  induction reordered with
  | refl | swap | entry | item => rfl
  | trans _ _ left right => exact left.trans right

theorem typeName_eq (reordered : value.Reordered value') : value.typeName = value'.typeName := by
  induction reordered with
  | refl | swap | entry | item => rfl
  | trans _ _ left right => exact left.trans right

theorem asText_eq {found found' : Option Value} (both : BothReordered found found') :
    found.elim "" asText = found'.elim "" asText := by
  cases both with
  | none => rfl
  | some reordered => simp only [Option.elim_some, asText, reordered.text?_eq]

theorem mapping?_rel (reordered : value.Reordered value') :
    Option.Rel Fields.Alike value.mapping? value'.mapping? := by
  induction reordered with
  | refl value => exact rel_refl (fun fields => .refl (.mapping fields)) _
  | swap front back differ => exact .some (.swap front back differ)
  | entry front back key inside => exact .some (.entry front back key inside)
  | item => exact .none
  | trans _ _ left right => exact rel_trans (fun _ _ _ => .trans) left right

theorem list?_rel (reordered : value.Reordered value') :
    Option.Rel (List.Forall₂ Reordered) value.list? value'.list? := by
  have same (items : List Value) : List.Forall₂ Reordered items items :=
    List.forall₂_same.mpr fun item _ => .refl item
  induction reordered with
  | refl value => exact rel_refl same _
  | swap | entry => exact .none
  | item front back inside => exact .some (List.rel_append (same front) (.cons inside (same back)))
  | trans _ _ left right =>
    have join (first middle last : List Value) (left : List.Forall₂ Reordered first middle)
        (right : List.Forall₂ Reordered middle last) : List.Forall₂ Reordered first last :=
      forall₂_trans left right fun _ _ _ _ => .trans
    exact rel_trans join left right

end Value.Reordered

namespace Fields.Alike

variable {fields fields' : Fields}

theorem get? (alike : fields.Alike fields') (key : String) :
    Value.BothReordered (Keyed.get? fields key) (Keyed.get? fields' key) := by
  have general {value value' : Value} (reordered : value.Reordered value') :
      Value.BothReordered (Keyed.get? (Value.entriesOf (some value)) key)
        (Keyed.get? (Value.entriesOf (some value')) key) := by
    induction reordered with
    | refl value => exact rel_refl .refl _
    | @swap front back first second differ =>
      change Value.BothReordered (Keyed.get? (front ++ first :: second :: back) key) _
      rw [Keyed.get?_swap front back differ]
      exact rel_refl .refl _
    | @entry front back other inner inner' inside =>
      change Value.BothReordered (Keyed.get? (front ++ (other, inner) :: back) key)
        (Keyed.get? (front ++ (other, inner') :: back) key)
      rw [Keyed.get?_append, Keyed.get?_append, Keyed.get?, Keyed.get?]
      split
      · exact rel_refl .refl _
      · split
        · exact .some inside
        · exact rel_refl .refl _
    | item => exact .none
    | trans _ _ left right => exact rel_trans (fun _ _ _ => .trans) left right
  exact general alike

theorem keys_perm (alike : fields.Alike fields') :
    (Keyed.keys fields).Perm (Keyed.keys fields') := by
  have general {value value' : Value} (reordered : value.Reordered value') :
      (Keyed.keys (Value.entriesOf (some value))).Perm
        (Keyed.keys (Value.entriesOf (some value'))) := by
    induction reordered with
    | refl | item => exact .refl _
    | @swap front back first second differ =>
      change (Keyed.keys (front ++ first :: second :: back)).Perm
        (Keyed.keys (front ++ second :: first :: back))
      simp only [Keyed.keys, List.map_append, List.map_cons]
      exact (List.Perm.swap second.1 first.1 _).append_left _
    | @entry front back other inner inner' inside =>
      change (Keyed.keys (front ++ (other, inner) :: back)).Perm
        (Keyed.keys (front ++ (other, inner') :: back))
      simp only [Keyed.keys, List.map_append, List.map_cons, List.Perm.refl]
    | trans _ _ left right => exact left.trans right
  exact general alike

theorem contains_eq (alike : fields.Alike fields') (key : String) :
    Keyed.contains fields key = Keyed.contains fields' key := by
  have both := alike.get? key
  rw [Keyed.contains, Keyed.contains]
  generalize Keyed.get? fields key = found, Keyed.get? fields' key = found' at both
  cases both <;> rfl

theorem text?_eq (alike : fields.Alike fields') (key : String) :
    fields.text? key = fields'.text? key := by
  have both := alike.get? key
  rw [Fields.text?, Fields.text?]
  generalize Keyed.get? fields key = found, Keyed.get? fields' key = found' at both
  cases both with
  | none => rfl
  | some reordered => exact reordered.text?_eq

/-- What stands under a key as a mapping. -/
theorem mappingAt (alike : fields.Alike fields') (key : String) :
    (fields.mappingAt key).Alike (fields'.mappingAt key) := by
  have both := rel_bind (alike.get? key) fun _ _ reordered => reordered.mapping?_rel
  rw [Fields.mappingAt, Fields.mappingAt]
  generalize (Keyed.get? fields key).bind Value.mapping? = found,
    (Keyed.get? fields' key).bind Value.mapping? = found' at both
  cases both with
  | none => exact .refl _
  | some alike => exact alike

end Fields.Alike

/-- What is only reordered where keys lead is the same but for the order of keys. -/
theorem Fields.Reordered.alike {fields fields' : Fields} (reordered : fields.Reordered fields') :
    fields.Alike fields' := by
  induction reordered with
  | refl fields => exact .refl _
  | swap front back differ => exact .swap front back differ
  | within front back key _ inside => exact .entry front back key inside
  | trans _ _ left right => exact left.trans right

namespace Fields.Alike

variable {fields fields' : Fields}

theorem cons (entry : String × Value) (alike : fields.Alike fields') :
    Alike (entry :: fields) (entry :: fields') := by
  have general {value value' : Value} (reordered : value.Reordered value') :
      Alike (entry :: Value.entriesOf (some value)) (entry :: Value.entriesOf (some value')) := by
    induction reordered with
    | refl | item => exact .refl _
    | swap front back differ => exact .swap (entry :: front) back differ
    | entry front back key inside => exact .entry (entry :: front) back key inside
    | trans _ _ left right => exact left.trans right
  exact general alike

/-- Entries under the same keys in the same order. -/
theorem of_forall₂ (each : List.Forall₂
    (fun entry entry' => entry.1 = entry'.1 ∧ entry.2.Reordered entry'.2) fields fields') :
    fields.Alike fields' := by
  induction each with
  | nil => exact .refl _
  | @cons entry entry' rest rest' here _ ih =>
    obtain ⟨key, value⟩ := entry
    obtain ⟨_, value'⟩ := entry'
    obtain ⟨rfl, inside⟩ := here
    exact .trans (.entry [] rest key inside) (ih.cons (key, value'))

/-- In a mapping without a key that comes twice, the entries may stand in any order. -/
theorem of_perm (perm : fields.Perm fields') (unique : (Keyed.keys fields).Nodup) :
    fields.Alike fields' := by
  induction perm with
  | nil => exact .refl _
  | cons entry _ ih => exact (ih (List.nodup_cons.mp unique).2).cons entry
  | swap first second rest =>
    refine .swap [] rest fun same => ?_
    exact (List.nodup_cons.mp unique).1 (same ▸ List.mem_cons_self)
  | trans first _ left right =>
    exact .trans (left unique) (right ((first.map Prod.fst).nodup_iff.mp unique))

/-- Values put under one key. -/
theorem put_value (fields : Fields) (key : String) {value value' : Value}
    (reordered : value.Reordered value') :
    Alike (Keyed.put fields key value) (Keyed.put fields key value') := by
  induction fields with
  | nil => exact .entry [] [] key reordered
  | cons entry rest ih =>
    rw [Keyed.put, Keyed.put]
    split
    · exact .entry [] rest key reordered
    · exact ih.cons entry

theorem put (alike : fields.Alike fields') (key : String) {value value' : Value}
    (reordered : value.Reordered value') :
    Alike (Keyed.put fields key value) (Keyed.put fields' key value') := by
  have general {root root' : Value} (roots : root.Reordered root') :
      Alike (Keyed.put (Value.entriesOf (some root)) key value)
        (Keyed.put (Value.entriesOf (some root')) key value) := by
    induction roots with
    | refl | item => exact .refl _
    | swap front back differ =>
      exact ((Fields.Reordered.swap front back differ).write [key] value).alike
    | @entry front back other inner inner' inside =>
      change Alike (Keyed.put (front ++ (other, inner) :: back) key value)
        (Keyed.put (front ++ (other, inner') :: back) key value)
      rw [Keyed.put_append, Keyed.put_append, Keyed.put, Keyed.put]
      split
      · exact .entry _ back other inside
      · split
        · exact .refl _
        · exact .entry front _ other inside
    | trans _ _ left right => exact left.trans right
  exact (general alike).trans (put_value fields' key reordered)

/-- A write keeps data alike. -/
theorem write (alike : fields.Alike fields') (path : Path) {value value' : Value}
    (reordered : value.Reordered value') :
    (fields.write path value).Alike (fields'.write path value') := by
  induction path generalizing fields fields' with
  | nil => exact alike
  | cons key rest ih =>
    cases rest with
    | nil => exact alike.put key reordered
    | cons next rest => exact alike.put key (ih (alike.mappingAt key))

theorem writeAll {writes writes' : List (Path × Value)} (alike : fields.Alike fields')
    (each : List.Forall₂ (fun entry entry' => entry.1 = entry'.1 ∧ entry.2.Reordered entry'.2)
      writes writes') : (fields.writeAll writes).Alike (fields'.writeAll writes') := by
  refine List.rel_foldl ?_ alike each
  rintro data data' alike ⟨path, value⟩ ⟨_, value'⟩ ⟨rfl, reordered⟩
  exact alike.write path reordered

end Fields.Alike

/-- Items in the same order. -/
theorem Value.Reordered.list {items items' : List Value}
    (each : List.Forall₂ Reordered items items') : Reordered (.list items) (.list items') := by
  have behind (front : List Value) :
      Reordered (.list (front ++ items)) (.list (front ++ items')) := by
    induction each generalizing front with
    | nil => exact .refl _
    | @cons item item' rest rest' here _ ih =>
      have others := ih (front ++ [item'])
      rw [List.append_assoc, List.append_assoc] at others
      exact .trans (.item front rest here) others
  exact behind []

/-- Reading answers alike. -/
theorem Value.Reordered.at? {value value' : Value} (reordered : value.Reordered value')
    (path : Path) : BothReordered (value.at? path) (value'.at? path) := by
  have step (value : Value) (key : String) (rest : Path) :
      value.at? (key :: rest) =
        (value.mapping?.bind fun fields => Keyed.get? fields key).bind fun found =>
          found.at? rest := by
    cases value <;> rfl
  induction path generalizing value value' with
  | nil =>
    rw [Value.at?, Value.at?]
    exact .some reordered
  | cons key rest ih =>
    rw [step, step]
    refine rel_bind (rel_bind reordered.mapping?_rel ?_) fun _ _ found => ih found
    intro fields fields' alike
    exact alike.get? key

end ScreenScript
