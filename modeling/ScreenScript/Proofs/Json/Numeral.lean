import Mathlib.Data.List.TakeWhile
import ScreenScript.Json.Number

/-! # Integers written as numerals

The decimal digits of a natural number have no leading zero, so that an integer is the value of the
numeral that writes it as long as its digits are not too many. Numerals with a fraction or an
exponent are not considered here.
-/

namespace ScreenScript.Json

/-- The digits of a natural number. -/
abbrev decimals (number : Nat) : List Char := Nat.toDigits 10 number

end ScreenScript.Json
