import ScreenScript.Document
import ScreenScript.Settings
import ScreenScript.Text.Newlines

/-! # Loading settings from a file

A settings file is a text file: its bytes are decoded and its line ends made line feeds before
the text is read as JSON. Bytes that cannot be decoded are a failure of their own, which the
failures of reading and checking do not cover.
-/

namespace ScreenScript.Settings

/-- The settings that a text writes, checked. -/
def ofText (text : String) : Checked Settings :=
  Document.checkJson check (Json.read? text)

/-- The settings in a file. -/
def load (path : String) (file : File) : Except Failure Settings :=
  match file.read with
  | .error trouble => .error (.unreadableSettings path trouble)
  | .ok bytes =>
    match String.fromUTF8? bytes with
    | none => .error .undecodable
    | some text =>
      match ofText (String.ofList (Text.unifyNewlines text.toList)) with
      | .valid settings => .ok settings
      | .invalid issues => .error (.invalidSettings path issues)

end ScreenScript.Settings
