import ScreenScript.Json.Number
import ScreenScript.Number.Shortest
import ScreenScript.Text.Quoted

/-! # Writing JSON texts

A value is written on one line, with a blank behind each comma and each colon and with every
character outside of printable ASCII escaped, those beyond the basic plane as two surrogates. An
integer whose numeral would be longer than numerals may be cannot be written, and so neither can a
value that has one in it.
-/

namespace ScreenScript.Json

def escapeUnit (unit : Nat) : List Char :=
  '\\' :: 'u' :: Text.hexadecimal 4 unit

def escapeChar (char : Char) : List Char :=
  if char = '"' ∨ char = '\\' then ['\\', char]
  else if char = '\n' then ['\\', 'n']
  else if char = '\r' then ['\\', 'r']
  else if char = '\t' then ['\\', 't']
  else if char = '\x08' then ['\\', 'b']
  else if char = '\x0c' then ['\\', 'f']
  else if 0x20 ≤ char.toNat ∧ char.toNat < 0x7f then [char]
  else if char.toNat < 0x10000 then escapeUnit char.toNat
  else
    escapeUnit (0xd800 + (char.toNat - 0x10000) / 0x400) ++
      escapeUnit (0xdc00 + (char.toNat - 0x10000) % 0x400)

def writeText (content : String) : String :=
  String.ofList ('"' :: content.toList.flatMap escapeChar ++ ['"'])

/-- The numeral of an integer, unless it has too many digits. -/
def writeInt? (number : Int) : Option String :=
  if (Nat.toDigits 10 number.natAbs).length ≤ wholeLimit then some (toString number) else none

mutual

/-- The text of a value, if there is one. -/
def write? : Value → Option String
  | .null => some "null"
  | .bool truth => some (if truth then "true" else "false")
  | .int number => writeInt? number
  | .float number => some (number.text "Infinity" "NaN")
  | .text content => some (writeText content)
  | .list items => do return "[" ++ ", ".intercalate (← writeItems? items) ++ "]"
  | .mapping fields => do return "\x7b" ++ ", ".intercalate (← writeFields? fields) ++ "\x7d"

def writeItems? : List Value → Option (List String)
  | [] => some []
  | item :: rest => do return (← write? item) :: (← writeItems? rest)

/-- The entries of a mapping, each as its key and its value. -/
def writeFields? : List (String × Value) → Option (List String)
  | [] => some []
  | (key, value) :: rest => do
    return (writeText key ++ ": " ++ (← write? value)) :: (← writeFields? rest)

end

/-- The text of a value, and that of `null` for a value that cannot be written. -/
def write (value : Value) : String :=
  (write? value).getD "null"

end ScreenScript.Json
