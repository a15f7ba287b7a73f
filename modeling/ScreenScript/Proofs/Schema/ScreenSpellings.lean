import ScreenScript.Proofs.Schema.Items
import ScreenScript.Proofs.Schema.Respelling
import ScreenScript.Screen

/-! # The ways to write one screen

The same screen can be written in many ways: with some of its entries under the second of two keys,
with entries that no screen has, with any value at all for a display mode that has no name, and in
the same ways with the bar and the button inside of it. No number of such changes makes a difference
to the screen. One of the ways is that of a document, which has one key for each field and names the
display mode, and what is written in this way is read as the screen that was written.
-/

namespace ScreenScript

open Checked Check

namespace TrailingButton

/-- The keys of the fields of a trailing button. -/
def keys : List (List String) := [["label"], ["action"]]

/-- A change to how a trailing button is written. Its label and its action stay as they are. -/
abbrev Respelled : Value → Value → Prop :=
  ScreenScript.Respelled keys fun _ _ _ => False

theorem check_eq_valid_iff {entries : Fields} {button : TrailingButton} :
    check (.mapping entries) = .valid button ↔
      required entries "label" text = .valid button.label ∧
      optional entries .null .valid ["action"] = .valid button.action := by
  change TrailingButton.mk <$> _ <*> _ = _ ↔ _
  simp only [seq_eq_valid_iff, map_eq_valid_iff]
  constructor
  · rintro ⟨_, action, ⟨label, first, rfl⟩, second, rfl⟩
    exact ⟨first, second⟩
  · rintro ⟨first, second⟩
    exact ⟨_, _, ⟨_, first, rfl⟩, second, rfl⟩

theorem check_of_respelled {value value' : Value} {button : TrailingButton}
    (respelled : Respelled value value') (accepted : check value = .valid button) :
    check value' = .valid button := by
  obtain ⟨entries, entries', rfl, rfl⟩ := respelled.mappings
  obtain ⟨label, action⟩ := check_eq_valid_iff.mp accepted
  have apart : keys.flatten.Nodup := by decide
  refine check_eq_valid_iff.mpr ⟨?_, ?_⟩
  · exact respelled.required apart (by decide) (fun _ _ changed => changed.elim) label
  · exact respelled.optional apart (by decide) (fun _ _ changed => changed.elim) action

/-- What a document writes for a button is read as this button. -/
theorem check_toValue (button : TrailingButton) : check button.toValue = .valid button := rfl

end TrailingButton

/-- The value names no display mode. -/
def DisplayMode.Unnamed (value : Value) : Prop :=
  ∀ mode : DisplayMode, value ≠ .text mode.name

theorem DisplayMode.ofValue_of_unnamed {value : Value} (unnamed : Unnamed value) :
    ofValue value = .inline := by
  unfold ofValue
  split
  · exact absurd rfl (unnamed .large)
  · rfl

theorem DisplayMode.ofValue_name (mode : DisplayMode) : ofValue (.text mode.name) = mode := by
  cases mode <;> rfl

namespace NavigationBar

/-- The keys of the fields of a navigation bar, that of a document first. -/
def keys : List (List String) :=
  [["title"], ["displayMode", "display_mode"], ["trailingButton", "trailing_button"]]

/-- How the value of a field of a bar may change: one that names no display mode gives way to
another such, and a button may be written otherwise. -/
inductive Within (field : List String) (value value' : Value) : Prop
  | mode (mode : field = ["displayMode", "display_mode"]) (unnamed : DisplayMode.Unnamed value)
      (unnamed' : DisplayMode.Unnamed value')
  | button (button : field = ["trailingButton", "trailing_button"])
      (respelled : TrailingButton.Respelled value value')

/-- A change to how a navigation bar is written. -/
abbrev Respelled : Value → Value → Prop :=
  ScreenScript.Respelled keys Within

theorem check_eq_valid_iff {entries : Fields} {bar : NavigationBar} :
    check (.mapping entries) = .valid bar ↔
      optional entries "" text ["title"] = .valid bar.title ∧
      optional entries .inline (fun value => .valid (DisplayMode.ofValue value))
        ["displayMode", "display_mode"] = .valid bar.displayMode ∧
      optional entries none (nullable TrailingButton.check)
        ["trailingButton", "trailing_button"] = .valid bar.trailingButton := by
  change NavigationBar.mk <$> _ <*> _ <*> _ = _ ↔ _
  simp only [seq_eq_valid_iff, map_eq_valid_iff]
  constructor
  · rintro ⟨_, button, ⟨_, mode, ⟨title, first, rfl⟩, second, rfl⟩, third, rfl⟩
    exact ⟨first, second, third⟩
  · rintro ⟨first, second, third⟩
    exact ⟨_, _, ⟨_, _, ⟨_, first, rfl⟩, second, rfl⟩, third, rfl⟩

theorem check_of_respelled {value value' : Value} {bar : NavigationBar}
    (respelled : Respelled value value') (accepted : check value = .valid bar) :
    check value' = .valid bar := by
  obtain ⟨entries, entries', rfl, rfl⟩ := respelled.mappings
  obtain ⟨title, mode, button⟩ := check_eq_valid_iff.mp accepted
  have apart : keys.flatten.Nodup := by decide
  refine check_eq_valid_iff.mpr ⟨?_, ?_, ?_⟩
  · refine respelled.optional apart (by decide) ?_ title
    rintro value value' (⟨other, _⟩ | ⟨other, _⟩) <;> exact absurd other (by decide)
  · refine respelled.optional apart (by decide) ?_ mode
    rintro value value' (⟨_, unnamed, unnamed'⟩ | ⟨other, _⟩) accepted
    · rw [DisplayMode.ofValue_of_unnamed unnamed] at accepted
      rw [DisplayMode.ofValue_of_unnamed unnamed', accepted]
    · exact absurd other (by decide)
  · refine respelled.optional apart (by decide) ?_ button
    rintro value value' (⟨other, _⟩ | ⟨_, respelled⟩) accepted
    · exact absurd other (by decide)
    · exact respelled.nullable (TrailingButton.check_of_respelled respelled) accepted

/-- What a document writes for a bar is read as this bar. -/
theorem check_toValue (bar : NavigationBar) : check bar.toValue = .valid bar := by
  obtain ⟨title, mode, button⟩ := bar
  refine check_eq_valid_iff.mpr ⟨rfl, ?_, ?_⟩
  · exact congrArg Checked.valid (DisplayMode.ofValue_name mode)
  · cases button <;> rfl

end NavigationBar

namespace Screen

/-- The keys of the fields of a screen, that of a document first. -/
def keys : List (List String) :=
  [["id"], ["components"], ["navigationBar", "navigation_bar"],
    ["onAppearLogic", "on_appear_logic"]]

/-- How the value of a field of a screen may change: a bar may be written otherwise. -/
inductive Within (field : List String) (value value' : Value) : Prop
  | bar (bar : field = ["navigationBar", "navigation_bar"])
      (respelled : NavigationBar.Respelled value value')

/-- A change to how a screen is written. -/
abbrev Respelled : Value → Value → Prop :=
  ScreenScript.Respelled keys Within

theorem check_eq_valid_iff {entries : Fields} {screen : Screen} :
    check (.mapping entries) = .valid screen ↔
      required entries "id" text = .valid screen.id ∧
      optional entries [] (listOf mapping) ["components"] = .valid screen.components ∧
      optional entries none (nullable NavigationBar.check)
        ["navigationBar", "navigation_bar"] = .valid screen.navigationBar ∧
      optional entries .null .valid ["onAppearLogic", "on_appear_logic"] =
        .valid screen.onAppear := by
  change Screen.mk <$> _ <*> _ <*> _ <*> _ = _ ↔ _
  simp only [seq_eq_valid_iff, map_eq_valid_iff]
  constructor
  · rintro ⟨_, onAppear, ⟨_, bar, ⟨_, components, ⟨id, first, rfl⟩, second, rfl⟩, third, rfl⟩,
      fourth, rfl⟩
    exact ⟨first, second, third, fourth⟩
  · rintro ⟨first, second, third, fourth⟩
    exact ⟨_, _, ⟨_, _, ⟨_, _, ⟨_, first, rfl⟩, second, rfl⟩, third, rfl⟩, fourth, rfl⟩

theorem check_of_respelled {value value' : Value} {screen : Screen}
    (respelled : Respelled value value') (accepted : check value = .valid screen) :
    check value' = .valid screen := by
  obtain ⟨entries, entries', rfl, rfl⟩ := respelled.mappings
  obtain ⟨id, components, bar, onAppear⟩ := check_eq_valid_iff.mp accepted
  have apart : keys.flatten.Nodup := by decide
  refine check_eq_valid_iff.mpr ⟨?_, ?_, ?_, ?_⟩
  · refine respelled.required apart (by decide) ?_ id
    rintro value value' ⟨other, _⟩
    exact absurd other (by decide)
  · refine respelled.optional apart (by decide) ?_ components
    rintro value value' ⟨other, _⟩
    exact absurd other (by decide)
  · refine respelled.optional apart (by decide) ?_ bar
    rintro value value' ⟨_, respelled⟩ accepted
    exact respelled.nullable (NavigationBar.check_of_respelled respelled) accepted
  · refine respelled.optional apart (by decide) ?_ onAppear
    rintro value value' ⟨other, _⟩
    exact absurd other (by decide)

theorem items_mapping (position : Nat) (components : List Fields) :
    items mapping position (components.map .mapping) = .valid components := by
  induction components generalizing position with
  | nil => rfl
  | cons first rest ih =>
    rw [List.map_cons, items_cons, ih]
    rfl

/-- What a document writes for a screen is read as this screen. -/
theorem check_toValue (screen : Screen) : check screen.toValue = .valid screen := by
  obtain ⟨id, components, bar, onAppear⟩ := screen
  refine check_eq_valid_iff.mpr ⟨rfl, ?_, ?_, rfl⟩
  · exact optional_eq_valid_iff.mpr (items_mapping 0 components)
  · cases bar with
    | none => rfl
    | some bar =>
      have read : NavigationBar.check bar.toValue = .valid bar := NavigationBar.check_toValue bar
      exact optional_eq_valid_iff.mpr (map_eq_valid_iff.mpr ⟨bar, read, rfl⟩)

/-- A screen is normalized once and for all when it is read. What a document writes for it is read
as the same screen, and so is whatever comes of the value that it was read from when entries are
moved to the keys of a document, entries that no screen, bar or button has come in, and display
modes without a name give way to each other, in any number and order. -/
theorem check_of_accepted {value : Value} {screen : Screen}
    (accepted : check value = .valid screen) :
    check screen.toValue = .valid screen ∧
      ∀ value', Relation.ReflTransGen Respelled value value' → check value' = .valid screen := by
  refine ⟨check_toValue screen, fun value' changes => ?_⟩
  induction changes with
  | refl => exact accepted
  | tail _ respelled ih => exact check_of_respelled respelled ih

/-- A bar with a display mode and a button. -/
private def barOf (mode : Value) (button : Fields) : Value :=
  .mapping [("title", .text "Home"), ("display_mode", mode), ("trailing_button", .mapping button)]

/-- A screen with a bar, which stands under the key given. -/
private def homeOf (key : String) (bar : Value) : Value :=
  .mapping [("id", .text "home"), (key, bar), ("on_appear_logic", .text "start")]

private theorem respelled_bar {bar bar' : Value} (respelled : NavigationBar.Respelled bar bar') :
    Respelled (homeOf "navigationBar" bar) (homeOf "navigationBar" bar') :=
  .put ["navigationBar", "navigation_bar"] "navigationBar" (by decide) (by decide) rfl
    (.bar rfl respelled)

/-- The bar moves to the key of a document, its mode gives way to another one without a name, and an
entry comes in that no button has. -/
theorem check_of_accepted_home :
    let plain := homeOf "navigation_bar" (barOf (.int 3) [("label", .text "Go")])
    let dressed := homeOf "navigationBar"
      (barOf (.text "huge") [("label", .text "Go"), ("note", .null)])
    let home : Screen := ⟨"home", [], some ⟨"Home", .inline, some ⟨"Go", .null⟩⟩, .text "start"⟩
    check plain = .valid home ∧ Relation.ReflTransGen Respelled plain dressed ∧
      check home.toValue = .valid home ∧ check dressed = .valid home := by
  intro plain dressed home
  have accepted : check plain = .valid home := rfl
  have free : "navigationBar" ∉ ["id", "navigation_bar", "on_appear_logic"] := by decide
  have unique : "navigation_bar" ∉ ["id", "on_appear_logic"] := by decide
  have moved : Respelled plain
      (homeOf "navigationBar" (barOf (.int 3) [("label", .text "Go")])) :=
    .rename (by decide) [("id", .text "home")] _ [("on_appear_logic", .text "start")] free unique
  have unnamed : DisplayMode.Unnamed (.int 3) ∧ DisplayMode.Unnamed (.text "huge") := by
    constructor <;> rintro (_ | _) <;> simp [DisplayMode.name]
  have replaced : NavigationBar.Respelled (barOf (.int 3) [("label", .text "Go")])
      (barOf (.text "huge") [("label", .text "Go")]) :=
    .put ["displayMode", "display_mode"] "display_mode" (by decide) (by decide) rfl
      (.mode rfl unnamed.1 unnamed.2)
  have noted : NavigationBar.Respelled (barOf (.text "huge") [("label", .text "Go")])
      (barOf (.text "huge") [("label", .text "Go"), ("note", .null)]) :=
    .put ["trailingButton", "trailing_button"] "trailing_button" (by decide) (by decide) rfl
      (.button rfl (.add [("label", .text "Go")] "note" (by decide) .null))
  have changes : Relation.ReflTransGen Respelled plain dressed :=
    .tail (.tail (.single moved) (respelled_bar replaced)) (respelled_bar noted)
  obtain ⟨written, respelled⟩ := check_of_accepted accepted
  exact ⟨accepted, changes, written, respelled dressed changes⟩

end Screen

end ScreenScript
