import ScreenScript.Text.Quoted

/-! # Files

What is found under a path when it is read. A path that cannot be read gives the text of the
trouble that the system reports.
-/

namespace ScreenScript

/-- What stands under a path. -/
inductive File where
  | missing
  | directory
  | regular (bytes : ByteArray)
deriving Inhabited

namespace File

inductive Trouble where
  | missing
  | directory
deriving DecidableEq, Inhabited, Repr

def Trouble.report (path : String) : Trouble → String
  | .missing => "[Errno 2] No such file or directory: " ++ Text.quoted path
  | .directory => "[Errno 21] Is a directory: " ++ Text.quoted path

/-- The bytes of a file, or why there are none. -/
def read : File → Except Trouble ByteArray
  | .missing => .error .missing
  | .directory => .error .directory
  | .regular bytes => .ok bytes

end File

end ScreenScript
