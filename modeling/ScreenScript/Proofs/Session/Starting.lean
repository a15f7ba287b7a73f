import ScreenScript.Document
import ScreenScript.Proofs.Schema.Items
import ScreenScript.Session

/-! # Starting a session on a raw or on a loaded document

Loading a document checks all of its elements and reports the issues of all of them together.
Starting a session resolves the elements one after another and stops at the first that has no
screen. Both accept the same documents, and a session on what was loaded starts in the very world
in which one on the raw document starts. A document that is not accepted has a first element that
is at fault: the failure to start is about this element alone, and where it is a mapping its issues
are those that loading reports under its index.
-/

namespace ScreenScript

namespace Document

theorem load_list (document : List Value) :
    load (.decoded (.list document)) = accept (Check.items Screen.check 0 document) := rfl

end Document

namespace Session

variable {H : Type}

theorem screen_of_valid {value : Value} {checked : Screen}
    (valid : Screen.check value = .valid checked) : screen value = .ok checked := by
  cases value with
  | mapping fields => simp only [screen, valid]
  | _ => cases valid

/-- Why an element of a document has no screen: its own issues, or that it is no mapping at all. -/
def refusal (found : List Issue) : Value → Failure
  | .mapping _ => .invalid found
  | value => .notScreen value.typeName

theorem screen_of_invalid {value : Value} {found : List Issue}
    (invalid : Screen.check value = .invalid found) :
    screen value = .error (refusal found value) := by
  cases value with
  | mapping fields => simp only [screen, invalid, refusal]
  | _ => rfl

theorem screens_cons (entry : Entry) (rest : List Entry) :
    screens (entry :: rest) =
      entry.resolve.bind fun first => (screens rest).bind fun others => .ok (first :: others) := rfl

/-- Elements that all have screens are resolved to these. -/
theorem screens_of_resolved {document : List Entry} {loaded : List Screen}
    (resolved : List.Forall₂ (fun entry screen => entry.resolve = .ok screen) document loaded) :
    screens document = .ok loaded := by
  induction resolved with
  | nil => rfl
  | @cons entry screen document loaded here _ ih =>
    rw [screens_cons, here, ih]
    rfl

/-- Screens are the screens of themselves. -/
theorem screens_loaded (loaded : List Screen) : screens (loaded.map .screen) = .ok loaded :=
  screens_of_resolved (List.forall₂_map_left_iff.mpr (List.forall₂_same.mpr fun _ _ => rfl))

/-- Values that are all accepted have the screens that they are accepted as. -/
theorem screens_of_valid {values : List Value} {loaded : List Screen}
    (each : List.Forall₂ (fun value checked => Screen.check value = .valid checked) values loaded) :
    screens (values.map .value) = .ok loaded :=
  screens_of_resolved (List.forall₂_map_left_iff.mpr (each.imp fun _ _ => screen_of_valid))

/-- The first value that is not accepted ends the resolution. -/
theorem screens_of_first_invalid {before : List Value}
    (accepted : ∀ earlier ∈ before, ∃ checked, Screen.check earlier = .valid checked)
    {value : Value} {found : List Issue} (invalid : Screen.check value = .invalid found)
    (after : List Value) :
    screens ((before ++ value :: after).map .value) = .error (refusal found value) := by
  induction before with
  | nil =>
    have first : (Entry.value value).resolve = .error (refusal found value) :=
      screen_of_invalid invalid
    rw [List.nil_append, List.map_cons, screens_cons, first]
    rfl
  | cons earlier before ih =>
    obtain ⟨⟨checked, here⟩, accepted⟩ := List.forall_mem_cons.mp accepted
    have first : (Entry.value earlier).resolve = .ok checked := screen_of_valid here
    rw [List.cons_append, List.map_cons, screens_cons, first, Except.bind, ih accepted]
    rfl

theorem startOn_of_screens {document : List Entry} {loaded : List Screen}
    (resolved : screens document = .ok loaded) (settings : Settings) (registry : Registry)
    (host : H) :
    startOn document settings registry host = .ok (start loaded settings registry host) := by
  rw [startOn, resolved]
  rfl

theorem startOn_of_failure {document : List Entry} {failure : Failure}
    (failed : screens document = .error failure) (settings : Settings) (registry : Registry)
    (host : H) : startOn document settings registry host = .error failure := by
  rw [startOn, failed]
  rfl

/-- A document either loads, and then sessions on its values and on the screens that were loaded
start in one world; or it does not load, and then no session starts on it, for the reason that its
first element at fault has no screen. -/
theorem startOn_of_document (document : List Value) (settings : Settings) (registry : Registry)
    (host : H) :
    (∃ loaded world, Document.load (.decoded (.list document)) = .ok loaded ∧
      startOn (document.map .value) settings registry host = .ok world ∧
      startOn (loaded.map .screen) settings registry host = .ok world) ∨
    ∃ issues before value after found,
      Document.load (.decoded (.list document)) = .error (.invalidDocument issues) ∧
      document = before ++ value :: after ∧
      (∀ earlier ∈ before, ∃ checked, Screen.check earlier = .valid checked) ∧
      Screen.check value = .invalid found ∧
      Issue.allWithin (.index before.length) issues = found ∧
      startOn (document.map .value) settings registry host = .error (refusal found value) := by
  rw [Document.load_list]
  rcases Check.items_cases Screen.check 0 document with
    ⟨loaded, checked, each⟩ | ⟨issues, before, value, after, found, checked, rfl, accepted, invalid⟩
  · refine .inl ⟨loaded, start loaded settings registry host, ?_, ?_, ?_⟩
    · rw [checked, Document.accept]
    · exact startOn_of_screens (screens_of_valid each) settings registry host
    · exact startOn_of_screens (screens_loaded loaded) settings registry host
  · have own := Check.allWithin_items Screen.check 0 before.length (before ++ value :: after)
    rw [checked, if_pos (Nat.zero_le _), Nat.sub_zero, List.getElem?_append_right (Nat.le_refl _),
      Nat.sub_self, List.getElem?_cons_zero, Option.elim_some, invalid] at own
    rw [checked, Document.accept]
    refine .inr ⟨issues, before, value, after, found, rfl, rfl, accepted, invalid, own, ?_⟩
    exact startOn_of_failure (screens_of_first_invalid accepted invalid after) settings
      registry host

end Session

end ScreenScript
