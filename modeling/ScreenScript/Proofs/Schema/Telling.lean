import ScreenScript.Schema.Checked
import ScreenScript.Screen
import ScreenScript.Settings

/-! # Checks that fail tell why

A check answers a list of issues when it fails, and nothing in the type of the answer keeps this
list from being empty. No check of the library ever answers an empty one: what does not meet its
schema has at least one issue, so a report of issues is never a report of none. The property
passes through all combinations of checks, and which issues there are is not told here.
-/

namespace ScreenScript

variable {α β : Type}

namespace Checked

/-- The check succeeds or has found an issue. -/
def Telling (checked : Checked α) : Prop :=
  checked ≠ .invalid []

theorem telling_valid (value : α) : (valid value).Telling := by
  intro same
  cases same

theorem telling_fail (cause : Cause) : (fail cause : Checked α).Telling := by
  intro same
  cases same

theorem Telling.map {checked : Checked α} (telling : checked.Telling) (f : α → β) :
    (f <$> checked).Telling := by
  cases checked with
  | valid value => exact telling_valid (f value)
  | invalid issues =>
    intro same
    cases same
    exact telling rfl

/-- Of two checks that are joined, it is enough that each tells its own issues. -/
theorem Telling.seq {f : Checked (α → β)} {checked : Checked α} (first : f.Telling)
    (second : checked.Telling) : (f <*> checked).Telling := by
  cases f with
  | valid f => exact second.map f
  | invalid issues =>
    intro same
    have none : issues ++ checked.issues = [] := Checked.invalid.inj same
    apply first
    rw [(List.append_eq_nil_iff.mp none).1]

theorem Telling.under {checked : Checked α} (telling : checked.Telling) (step : Place) :
    (checked.under step).Telling := by
  cases checked with
  | valid value => exact telling_valid value
  | invalid issues =>
    intro same
    have none : issues.map (Issue.under step) = [] := Checked.invalid.inj same
    apply telling
    rw [List.map_eq_nil_iff.mp none]

end Checked

namespace Check

open Checked

theorem telling_text (value : Value) : (text value).Telling := by
  cases value with
  | text content => exact telling_valid content
  | _ => exact telling_fail .notText

theorem telling_mapping (value : Value) : (mapping value).Telling := by
  cases value with
  | mapping fields => exact telling_valid fields
  | _ => exact telling_fail .notMapping

section

variable {check : Value → Checked α} (telling : ∀ value, (check value).Telling)
include telling

theorem telling_items (position : Nat) (values : List Value) :
    (items check position values).Telling := by
  induction values generalizing position with
  | nil => exact telling_valid []
  | cons value rest ih =>
    have first := ((telling value).under (.index position)).map List.cons
    exact first.seq (ih (position + 1))

theorem telling_listOf (value : Value) : (listOf check value).Telling := by
  cases value with
  | list values => exact telling_items telling 0 values
  | _ => exact telling_fail .notList

theorem telling_nullable (value : Value) : (nullable check value).Telling := by
  cases value with
  | null => exact telling_valid none
  | _ => exact (telling _).map some

theorem telling_required (fields : Fields) (key : String) :
    (required fields key check).Telling := by
  unfold required
  split
  · exact (telling _).under _
  · intro same
    cases same

theorem telling_optional (fields : Fields) (default : α) (keys : List String) :
    (optional fields default check keys).Telling := by
  induction keys with
  | nil => exact telling_valid default
  | cons key others ih =>
    unfold optional
    split
    · exact (telling _).under _
    · exact ih

end

theorem telling_model {entries : Fields → Checked α}
    (telling : ∀ fields, (entries fields).Telling) (value : Value) :
    (model entries value).Telling := by
  cases value with
  | mapping fields => exact telling fields
  | _ => exact telling_fail .notModel

theorem telling_only (known : List String) (fields : Fields) :
    (only known fields).Telling := by
  unfold only
  split
  · exact telling_valid ()
  next some =>
    intro same
    have none := Checked.invalid.inj same
    exact some (List.map_eq_nil_iff.mp none)

end Check

open Checked Check

theorem TrailingButton.telling_check (value : Value) : (TrailingButton.check value).Telling := by
  refine telling_model (fun fields => ?_) value
  have label := telling_required telling_text fields "label"
  have action := telling_optional telling_valid fields .null ["action"]
  exact (label.map _).seq action

theorem NavigationBar.telling_check (value : Value) : (NavigationBar.check value).Telling := by
  refine telling_model (fun fields => ?_) value
  have title := telling_optional telling_text fields "" ["title"]
  have mode := telling_optional (fun value => telling_valid (DisplayMode.ofValue value)) fields
    .inline ["displayMode", "display_mode"]
  have button := telling_optional (telling_nullable TrailingButton.telling_check) fields none
    ["trailingButton", "trailing_button"]
  exact ((title.map _).seq mode).seq button

namespace Screen

theorem telling_check (value : Value) : (check value).Telling := by
  refine telling_model (fun fields => ?_) value
  have id := telling_required telling_text fields "id"
  have components := telling_optional (telling_listOf telling_mapping) fields [] ["components"]
  have bar := telling_optional (telling_nullable NavigationBar.telling_check) fields none
    ["navigationBar", "navigation_bar"]
  have onAppear := telling_optional telling_valid fields .null ["onAppearLogic", "on_appear_logic"]
  exact (((id.map _).seq components).seq bar).seq onAppear

/-- A document that is refused has an issue. -/
theorem telling_checkDocument (value : Value) : (checkDocument value).Telling :=
  telling_listOf telling_check value

end Screen

/-- Settings that are refused have an issue. -/
theorem Settings.telling_check (value : Value) : (Settings.check value).Telling := by
  refine telling_model (fun fields => ?_) value
  have screen := telling_optional (telling_nullable telling_text) fields none ["initial_screen"]
  have title := telling_optional telling_text fields (default : Settings).alertTitle ["alert_title"]
  have data := telling_optional telling_mapping fields [] ["initial_data"]
  have known := telling_only ["initial_screen", "alert_title", "initial_data"] fields
  exact (((screen.map _).seq title).seq data).seq known

end ScreenScript
