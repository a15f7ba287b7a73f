import ScreenScript.Text.Printable

/-! # Quoted text

A text is quoted by a single quote, unless it holds one and no double quote. The quote in use
and the backslash are escaped by a backslash, as are line feeds, carriage returns and tabs; a
character that is not printable is written by its code point in the shortest of three
hexadecimal forms.
-/

namespace ScreenScript.Text

/-- The lower-case hexadecimal digits of a number, filled up with zeros to the given width. -/
def hexadecimal (width number : Nat) : List Char :=
  let digits := Nat.toDigits 16 number
  List.replicate (width - digits.length) '0' ++ digits

def escapeWithin (quote char : Char) : List Char :=
  if char = quote ∨ char = '\\' then ['\\', char]
  else if char = '\n' then ['\\', 'n']
  else if char = '\r' then ['\\', 'r']
  else if char = '\t' then ['\\', 't']
  else if isPrintable char then [char]
  else if char.toNat < 0x100 then '\\' :: 'x' :: hexadecimal 2 char.toNat
  else if char.toNat < 0x10000 then '\\' :: 'u' :: hexadecimal 4 char.toNat
  else '\\' :: 'U' :: hexadecimal 8 char.toNat

/-- The quote for a text: the single one, unless the text holds it and no double one. -/
def quoteFor (chars : List Char) : Char :=
  if '\'' ∈ chars ∧ '"' ∉ chars then '"' else '\''

/-- The text between quotes, with escapes for what cannot stand there as it is. -/
def quoted (text : String) : String :=
  let quote := quoteFor text.toList
  String.ofList (quote :: text.toList.flatMap (escapeWithin quote) ++ [quote])

end ScreenScript.Text
