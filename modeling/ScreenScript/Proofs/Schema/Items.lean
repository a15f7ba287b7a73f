import Mathlib.Data.List.Forall2
import ScreenScript.Schema.Checked

/-! # Checking the items of a list

A list is accepted exactly when each of its items is, and then it has one result for each of them,
in order. Otherwise every item reports its own issues under its own index, so the issues of one
item can be picked out of those of the list. That some items fail does not hide others; which of
them is the first to fail is a matter of the list alone.
-/

namespace ScreenScript

namespace Issue

/-- The issue of a part, where `step` leads to the part and the issue is one of the whole. -/
def within? (step : Place) (issue : Issue) : Option Issue :=
  match issue.place with
  | [] => none
  | first :: rest => if first = step then some { issue with place := rest } else none

theorem within?_under (step other : Place) (issue : Issue) :
    (issue.under other).within? step = if other = step then some issue else none := rfl

/-- The issues of a part, out of those of the whole. -/
def allWithin (step : Place) (issues : List Issue) : List Issue :=
  issues.filterMap (within? step)

theorem allWithin_append (step : Place) (first second : List Issue) :
    allWithin step (first ++ second) = allWithin step first ++ allWithin step second :=
  List.filterMap_append

theorem allWithin_under (step other : Place) (issues : List Issue) :
    allWithin step (issues.map (under other)) = if other = step then issues else [] := by
  rw [allWithin, List.filterMap_map]
  by_cases same : other = step
  · have each : within? step ∘ under other = some := by
      funext issue
      rw [Function.comp_apply, within?_under, if_pos same]
    rw [each, List.filterMap_some, if_pos same]
  · have each : within? step ∘ under other = fun _ => none := by
      funext issue
      rw [Function.comp_apply, within?_under, if_neg same]
    rw [each, List.filterMap_none, if_neg same]

end Issue

namespace Check

variable {α : Type} (item : Value → Checked α)

/-- The items that are checked first come first among the results and among the issues. -/
theorem items_cons (position : Nat) (value : Value) (rest : List Value) :
    items item position (value :: rest) =
      match item value, items item (position + 1) rest with
      | .valid result, .valid results => .valid (result :: results)
      | .valid _, .invalid issues => .invalid issues
      | .invalid found, checked =>
        .invalid (found.map (Issue.under (.index position)) ++ checked.issues) := by
  rw [items]
  cases item value with
  | invalid found => rfl
  | valid result => cases items item (position + 1) rest <;> rfl

theorem issues_items_cons (position : Nat) (value : Value) (rest : List Value) :
    (items item position (value :: rest)).issues =
      (item value).issues.map (Issue.under (.index position)) ++
        (items item (position + 1) rest).issues := by
  rw [items, Checked.issues_ap]
  cases item value <;> rfl

/-- The issues under an index are those of the item there. -/
theorem allWithin_items (position index : Nat) (values : List Value) :
    Issue.allWithin (.index index) (items item position values).issues =
      if position ≤ index then
        values[index - position]?.elim [] fun value => (item value).issues
      else [] := by
  induction values generalizing position with
  | nil => rw [List.getElem?_nil, Option.elim_none, ite_self]; rfl
  | cons value rest ih =>
    rw [issues_items_cons, Issue.allWithin_append, Issue.allWithin_under, ih]
    rcases Nat.lt_trichotomy index position with before | rfl | behind
    · have other : Place.index position ≠ .index index := by simp; omega
      rw [if_neg other, if_neg (by omega), if_neg (by omega), List.append_nil]
    · rw [if_pos rfl, if_neg (by omega), if_pos (Nat.le_refl index), Nat.sub_self,
        List.getElem?_cons_zero, Option.elim_some, List.append_nil]
    · have other : Place.index position ≠ .index index := by simp; omega
      have next : index - position = index - (position + 1) + 1 := by omega
      rw [if_neg other, if_pos (by omega), if_pos (by omega), next, List.getElem?_cons_succ,
        List.nil_append]

/-- Either all values are accepted, with one result for each, or one of them is the first that is
not. -/
theorem items_cases (position : Nat) (values : List Value) :
    (∃ results, items item position values = .valid results ∧
      List.Forall₂ (fun value result => item value = .valid result) values results) ∨
    ∃ issues before value after found, items item position values = .invalid issues ∧
      values = before ++ value :: after ∧
      (∀ earlier ∈ before, ∃ result, item earlier = .valid result) ∧
      item value = .invalid found := by
  induction values generalizing position with
  | nil => exact .inl ⟨[], rfl, .nil⟩
  | cons value rest ih =>
    rw [items_cons]
    cases here : item value with
    | invalid found => exact .inr ⟨_, [], value, rest, found, rfl, rfl, by simp, here⟩
    | valid result =>
      rcases ih (position + 1) with
        ⟨results, checked, each⟩ |
          ⟨issues, before, first, after, found, checked, rfl, accepted, failed⟩
      · exact .inl ⟨result :: results, by rw [checked], .cons here each⟩
      · refine .inr ⟨issues, value :: before, first, after, found, by rw [checked], rfl, ?_, failed⟩
        exact List.forall_mem_cons.mpr ⟨⟨result, here⟩, accepted⟩

end Check

end ScreenScript
