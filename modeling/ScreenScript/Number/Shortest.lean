import ScreenScript.Number.Binary64

/-! # The shortest decimal that reads back

`Binary64.shortest` finds the fewest decimal digits that read back as the same number, and among
those the digits nearest to its exact value. Each candidate is checked by reading it back, so
the answer reads back by construction. `Binary64.text` lays the digits out.
-/

namespace ScreenScript

structure Decimal where
  digits : Nat
  exponent : Int
deriving DecidableEq, Inhabited, Repr

namespace Binary64

/-- The quotient of two naturals times `10 ^ (-exponent)`, as numerator and denominator. -/
def scaleDownByTen (numerator denominator : Nat) (exponent : Int) : Nat × Nat :=
  match exponent with
  | .ofNat up => (numerator, denominator * Nat.pow 10 up)
  | .negSucc down => (numerator * Nat.pow 10 (down + 1), denominator)

/-- The greatest exponent whose power of ten does not exceed the positive quotient. The binary
logarithm gives it up to one. -/
def floorLog10 (numerator denominator : Nat) : Int :=
  let estimate := floorLog2 numerator denominator * 30103 / 100000
  let (scaled, unit) := scaleDownByTen numerator denominator estimate
  if scaled < unit then estimate - 1
  else if 10 * unit ≤ scaled then estimate + 1
  else estimate

/-- The exact value of a finite number without its sign, as numerator and denominator. -/
def quotient (significand : Nat) (exponent : Int) : Nat × Nat :=
  match exponent with
  | .ofNat up => (significand <<< up, 1)
  | .negSucc down => (significand, 1 <<< (down + 1))

/-- A decimal with the given last place that reads back as the number: the nearer of the two
neighbours of the exact value on that grid, else the other one, else none. -/
def onGrid? (significand : Nat) (exponent place : Int) : Option Decimal :=
  let (numerator, denominator) := quotient significand exponent
  let (scaled, unit) := scaleDownByTen numerator denominator place
  let below := scaled / unit
  let nearest := roundQuotient scaled unit
  let farther := if nearest = below then below + 1 else below
  let readsBack (digits : Nat) : Bool :=
    ofDecimal false digits place = .finite false significand exponent
  if readsBack nearest then some ⟨nearest, place⟩
  else if readsBack farther then some ⟨farther, place⟩
  else none

def exactDecimal (significand : Nat) (exponent : Int) : Decimal :=
  match exponent with
  | .ofNat up => ⟨significand <<< up, 0⟩
  | .negSucc down => ⟨significand * Nat.pow 5 (down + 1), .negSucc down⟩

/-- The shortest decimal that reads back as a finite number. Seventeen digits always suffice;
the exact value stands behind them only to make the function total. -/
def shortest (significand : Nat) (exponent : Int) : Decimal :=
  if significand = 0 then ⟨0, 0⟩
  else
    let (numerator, denominator) := quotient significand exponent
    let leading := floorLog10 numerator denominator
    ((List.range 17).findSome? fun (more : Nat) =>
      onGrid? significand exponent (leading - more)).getD
      (exactDecimal significand exponent)

/-- Numbers whose leading digit stands at `10 ^ leastPositional` or above, and below
`10 ^ positionalBound`, are written without an exponent. -/
def leastPositional : Int := -4

def positionalBound : Int := 16

def positional (digits : List Char) (point : Int) : List Char :=
  match point with
  | .ofNat (before + 1) =>
    let whole := digits.take (before + 1)
    let fraction := digits.drop (before + 1)
    whole ++ List.replicate (before + 1 - whole.length) '0' ++ '.' ::
      (if fraction.isEmpty then ['0'] else fraction)
  | .ofNat 0 => '0' :: '.' :: digits
  | .negSucc zeros => '0' :: '.' :: (List.replicate (zeros + 1) '0' ++ digits)

/-- Digits with the point after the first of them and a power of ten, whose exponent has a sign
and at least two digits. -/
def scientific (digits : List Char) (exponent : Int) : List Char :=
  let power := Nat.toDigits 10 exponent.natAbs
  let mantissa :=
    match digits with
    | [] => ['0']
    | [digit] => [digit]
    | digit :: fraction => digit :: '.' :: fraction
  mantissa ++ 'e' :: (if exponent < 0 then '-' else '+') ::
    (List.replicate (2 - power.length) '0' ++ power)

/-- The text of a decimal: zeros at its end do not count as digits. -/
def decimalText (decimal : Decimal) : List Char :=
  let written := Nat.toDigits 10 decimal.digits
  let point : Int := written.length + decimal.exponent
  let digits := (written.reverse.dropWhile (· == '0')).reverse
  if digits.isEmpty then ['0', '.', '0']
  else if leastPositional < point ∧ point ≤ positionalBound then positional digits point
  else scientific digits (point - 1)

/-- The text of a number, given the words for infinity and for the value that is no number. -/
def text (infinity noNumber : String) : Binary64 → String
  | .finite negative significand exponent =>
    let decimal := decimalText (shortest significand exponent)
    String.ofList (if negative then '-' :: decimal else decimal)
  | .infinite negative => if negative then "-" ++ infinity else infinity
  | .nan => noNumber

end Binary64

end ScreenScript
