import ScreenScript.Proofs.Schema.Telling
import ScreenScript.Settings.Load

/-! # What loading a file can end in

A file comes to a loader in any state: it is not there, it is a directory, or it has any bytes
whatever. A document in a file is always loaded or refused as a document, since the bytes that are
no text are refused by the reader of JSON like any others that it cannot read. A settings file is
decoded before it is read, and bytes that are no UTF-8 fail there. This failure is not one of
settings, and it is the only one that gets past the loader.
-/

namespace ScreenScript

/-- The file has bytes, and no text is encoded by them. -/
def File.Undecodable (file : File) : Prop :=
  ∃ bytes, file = .regular bytes ∧ ∀ text : String, text.toUTF8 ≠ bytes

/-- The bytes of a text are decoded to this text, and all others to nothing. -/
theorem fromUTF8?_cases (bytes : ByteArray) :
    (∃ text : String, bytes = text.toUTF8 ∧ String.fromUTF8? bytes = some text) ∨
    ((∀ text : String, text.toUTF8 ≠ bytes) ∧ String.fromUTF8? bytes = none) := by
  unfold String.fromUTF8?
  split
  next encoded =>
    left
    exact ⟨String.fromUTF8 bytes encoded, rfl, rfl⟩
  next invalid =>
    right
    refine ⟨?_, rfl⟩
    rintro text rfl
    exact invalid text.isValidUTF8

/-- A file cannot be read, has a text, or has bytes that are no text. -/
theorem File.read_cases (file : File) :
    (∃ trouble, file.read = .error trouble) ∨ (∃ text : String, file = .regular text.toUTF8) ∨
    file.Undecodable := by
  cases file with
  | missing => exact .inl ⟨.missing, rfl⟩
  | directory => exact .inl ⟨.directory, rfl⟩
  | regular bytes =>
    right
    rcases fromUTF8?_cases bytes with ⟨text, rfl, -⟩ | ⟨none, -⟩
    · exact .inl ⟨text, rfl⟩
    · exact .inr ⟨bytes, rfl, none⟩

/-- What fails has an issue, also when the value is one that a text has to write first. -/
theorem Document.telling_checkJson {α : Type} {check : Value → Checked α}
    (telling : ∀ value, (check value).Telling) (read : Option Value) :
    (checkJson check read).Telling := by
  cases read with
  | none => exact Checked.telling_fail .invalidJson
  | some value => exact telling value

namespace Settings

/-- The ways in which loading a settings file may end: with the settings that its text writes, or
with a failure of settings that names the path and carries its cause, which is the trouble in
reading the file or the issues of its text. -/
inductive Contained (path : String) (file : File) : Except Failure Settings → Prop where
  | loaded {text : String} {settings : Settings} (read : file = .regular text.toUTF8)
      (accepted : ofText (String.ofList (Text.unifyNewlines text.toList)) = .valid settings) :
      Contained path file (.ok settings)
  | unreadable {trouble : File.Trouble} (unread : file.read = .error trouble) :
      Contained path file (.error (.unreadableSettings path trouble))
  | refused {text : String} {issues : List Issue} (read : file = .regular text.toUTF8)
      (refusal : ofText (String.ofList (Text.unifyNewlines text.toList)) = .invalid issues)
      (some : issues ≠ []) :
      Contained path file (.error (.invalidSettings path issues))

theorem load_of_read {path : String} {file : File} {trouble : File.Trouble}
    (unread : file.read = .error trouble) :
    load path file = .error (.unreadableSettings path trouble) := by
  rw [load, unread]

theorem load_of_undecodable {path : String} {file : File} (undecodable : file.Undecodable) :
    load path file = .error .undecodable := by
  obtain ⟨bytes, rfl, none⟩ := undecodable
  rcases fromUTF8?_cases bytes with ⟨text, encoded, -⟩ | ⟨-, decoded⟩
  · exact absurd encoded.symm (none text)
  · simp only [load, File.read, decoded]

/-- A settings file with a text is loaded or refused for the issues of its text. -/
theorem contained_load_toUTF8 (path text : String) :
    Contained path (.regular text.toUTF8) (load path (.regular text.toUTF8)) := by
  have decoded : String.fromUTF8? text.toUTF8 = some text := dif_pos text.isValidUTF8
  simp only [load, File.read, decoded]
  split
  next settings accepted => exact .loaded rfl accepted
  next issues refusal =>
    refine .refused rfl refusal ?_
    rintro rfl
    exact Document.telling_checkJson telling_check _ refusal

/-- Loading settings is contained in every state of the file but one. When the bytes of the file are
no text, the failure to decode them is passed on as it is. -/
theorem contained_load_iff (path : String) (file : File) :
    (Contained path file (load path file) ↔ ¬file.Undecodable) ∧
    (file.Undecodable → load path file = .error .undecodable) := by
  refine ⟨⟨?_, ?_⟩, load_of_undecodable⟩
  · intro contained undecodable
    rw [load_of_undecodable undecodable] at contained
    cases contained
  · intro decodable
    rcases file.read_cases with ⟨trouble, unread⟩ | ⟨text, rfl⟩ | undecodable
    · rw [load_of_read unread]
      exact .unreadable unread
    · exact contained_load_toUTF8 path text
    · exact absurd undecodable decodable

example : load "settings.json" (.regular ⟨#[0xff]⟩) = .error .undecodable := rfl

end Settings

namespace Document

/-- A document in bytes is loaded or refused for its issues. -/
theorem loadBytes_cases (content : ByteArray) :
    (∃ screens, loadBytes content = .ok screens) ∨
    ∃ issues, issues ≠ [] ∧ loadBytes content = .error (.invalidDocument issues) := by
  have telling := telling_checkJson Screen.telling_checkDocument (Json.readBytes? content)
  unfold loadBytes
  cases checked : checkJson Screen.checkDocument (Json.readBytes? content) with
  | valid screens => exact .inl ⟨screens, rfl⟩
  | invalid issues =>
    refine .inr ⟨issues, ?_, rfl⟩
    rintro rfl
    exact telling checked

/-- Bytes that are no text are no document, and that they are not JSON is their one issue. -/
theorem loadBytes_of_undecodable {content : ByteArray}
    (none : ∀ text : String, text.toUTF8 ≠ content) :
    loadBytes content = .error (.invalidDocument [⟨[], .invalidJson⟩]) := by
  rcases fromUTF8?_cases content with ⟨text, encoded, -⟩ | ⟨-, decoded⟩
  · exact absurd encoded.symm (none text)
  · simp only [loadBytes, Json.readBytes?, decoded]
    rfl

/-- A document in a file is loaded or refused as a document, whatever the state of the file. -/
theorem load_file_cases (path : String) (file : File) :
    (∃ screens, load (.file path file) = .ok screens) ∨
    (∃ trouble, file.read = .error trouble ∧
      load (.file path file) = .error (.unreadableDocument path trouble)) ∨
    ∃ issues, issues ≠ [] ∧ load (.file path file) = .error (.invalidDocument issues) := by
  cases file with
  | missing => exact .inr (.inl ⟨.missing, rfl, rfl⟩)
  | directory => exact .inr (.inl ⟨.directory, rfl, rfl⟩)
  | regular bytes =>
    rcases loadBytes_cases bytes with loaded | refused
    · exact .inl loaded
    · exact .inr (.inr refused)

end Document

end ScreenScript
