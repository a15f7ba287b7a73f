import ScreenScript.Value

/-! # Scalars of a JSON text

The words that stand outside of quotes: the three constants, numbers, and the names of the
values that no numeral denotes. A numeral with a fraction or an exponent is a floating-point
number; every other numeral is an integer, so that `-0` is `0`. Integers are exact, and a numeral
with more than `wholeLimit` digits before its point is none.
-/

namespace ScreenScript.Json

def ofDigits (digits : List Char) : Nat :=
  digits.foldl (fun number digit => 10 * number + (digit.toNat - '0'.toNat)) 0

/-- The digits at the start of a word and what follows them; there must be one at least. -/
def digits? (word : List Char) : Option (List Char × List Char) :=
  let digits := word.takeWhile Char.isDigit
  if digits.isEmpty then none else some (digits, word.dropWhile Char.isDigit)

/-- The number of digits that a numeral may have before its point. -/
def wholeLimit : Nat := 4300

/-- The digits before the point. -/
def whole? (word : List Char) : Option (List Char × List Char) := do
  let (digits, rest) ← digits? word
  -- A leading zero must stand alone.
  if digits.head? = some '0' ∧ digits.length ≠ 1 then none
  else if wholeLimit < digits.length then none
  else some (digits, rest)

/-- The digits behind the point; without a point there are none. -/
def fraction? : List Char → Option (List Char × List Char)
  | '.' :: rest => digits? rest
  | word => some ([], word)

/-- The power of ten at the end of a numeral, `0` when it is left out. -/
def exponent? : List Char → Option Int
  | [] => some 0
  | mark :: rest =>
    if mark = 'e' ∨ mark = 'E' then
      let (negative, word) :=
        match rest with
        | '-' :: word => (true, word)
        | '+' :: word => (false, word)
        | word => (false, word)
      match digits? word with
      | some (digits, []) =>
        let power : Int := ofDigits digits
        some (if negative then -power else power)
      | _ => none
    else none

/-- The value of a numeral without its sign. -/
def unsigned? (negative : Bool) (word : List Char) : Option Value := do
  let (whole, rest) ← whole? word
  if rest.isEmpty then
    let number : Int := ofDigits whole
    return .int (if negative then -number else number)
  let (fraction, rest) ← fraction? rest
  let power ← exponent? rest
  return .float
    (Binary64.ofDecimal negative (ofDigits (whole ++ fraction)) (power - fraction.length))

def number? : List Char → Option Value
  | '-' :: word => unsigned? true word
  | word => unsigned? false word

/-- The value of a word that stands outside of quotes. -/
def scalar? (word : List Char) : Option Value :=
  match String.ofList word with
  | "null" => some .null
  | "true" => some (.bool true)
  | "false" => some (.bool false)
  | "NaN" => some (.float .nan)
  | "Infinity" => some (.float (.infinite false))
  | "-Infinity" => some (.float (.infinite true))
  | _ => number? word

end ScreenScript.Json
