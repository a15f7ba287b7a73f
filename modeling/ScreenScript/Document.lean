import ScreenScript.Failure
import ScreenScript.Json.Reader
import ScreenScript.Screen

/-! # Loading screen documents

A document comes as JSON text, as bytes, as a file, or as a value that is decoded already. All
of them end in the same check, so they differ only in how the value is found. A decoded value
that is a text is taken for the text of a document.
-/

namespace ScreenScript

/-- Where a document comes from. -/
inductive Document where
  | text (content : String)
  | bytes (content : ByteArray)
  | decoded (value : Value)
  | file (path : String) (file : File)

namespace Document

/-- The value of a JSON text, if it has one, passed on to a check. -/
def checkJson {α : Type} (check : Value → Checked α) : Option Value → Checked α
  | some value => check value
  | none => .fail .invalidJson

/-- The screens of a document that was found valid. -/
def accept : Checked (List Screen) → Except Failure (List Screen)
  | .valid screens => .ok screens
  | .invalid issues => .error (.invalidDocument issues)

def loadText (content : String) : Except Failure (List Screen) :=
  accept (checkJson Screen.checkDocument (Json.read? content))

def loadBytes (content : ByteArray) : Except Failure (List Screen) :=
  accept (checkJson Screen.checkDocument (Json.readBytes? content))

/-- The screens of a document, in order. -/
def load : Document → Except Failure (List Screen)
  | .text content => loadText content
  | .bytes content => loadBytes content
  | .decoded (.text content) => loadText content
  | .decoded value => accept (Screen.checkDocument value)
  | .file path source =>
    match source.read with
    | .ok content => loadBytes content
    | .error trouble => .error (.unreadableDocument path trouble)

end Document

end ScreenScript
