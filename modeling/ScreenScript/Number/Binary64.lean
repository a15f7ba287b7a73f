/-! # Binary floating-point numbers of 64 bits

A number is kept as what it denotes: a sign, a significand below `2 ^ 53` and the exponent of
its power of two, or one of the values that are no number on the real line. `ofDecimal` reads a
decimal with the one rounding that the format prescribes, to the nearest number and to the even
significand when two are equally near; all of it is exact arithmetic on natural numbers.
-/

namespace ScreenScript

/-- A binary floating-point number. The finite ones denote `significand * 2 ^ exponent` with the
sign in front, so that zero keeps its sign. -/
inductive Binary64 where
  | finite (negative : Bool) (significand : Nat) (exponent : Int)
  | infinite (negative : Bool)
  | nan
deriving DecidableEq, Inhabited, Repr

namespace Binary64

/-- The exponent of the smallest positive number, of which every finite number is a multiple. -/
def leastExponent : Int := -1074

def greatestExponent : Int := 971

/-- The quotient rounded to the nearest natural number, a half to the even neighbour. -/
def roundQuotient (numerator denominator : Nat) : Nat :=
  let quotient := numerator / denominator
  let twice := 2 * (numerator % denominator)
  if twice < denominator then quotient
  else if denominator < twice then quotient + 1
  else if quotient % 2 = 0 then quotient else quotient + 1

/-- The quotient of two naturals times `2 ^ (-exponent)`, as numerator and denominator. -/
def scaleDown (numerator denominator : Nat) (exponent : Int) : Nat × Nat :=
  match exponent with
  | .ofNat up => (numerator, denominator <<< up)
  | .negSucc down => (numerator <<< (down + 1), denominator)

/-- The greatest exponent whose power of two does not exceed the positive quotient. The lengths
of the two numbers give it up to one. -/
def floorLog2 (numerator denominator : Nat) : Int :=
  let estimate : Int := numerator.log2 - denominator.log2
  let (scaled, unit) := scaleDown numerator denominator estimate
  if scaled < unit then estimate - 1 else estimate

def ofQuotient (negative : Bool) (numerator denominator : Nat) : Binary64 :=
  if numerator = 0 then .finite negative 0 leastExponent
  else
    let exponent := max (floorLog2 numerator denominator - 52) leastExponent
    let (scaled, unit) := scaleDown numerator denominator exponent
    let rounded := roundQuotient scaled unit
    -- Rounding up may carry into a significand of one bit more.
    let (significand, exponent) :=
      if rounded = 1 <<< 53 then (1 <<< 52, exponent + 1) else (rounded, exponent)
    if greatestExponent < exponent then .infinite negative
    else .finite negative significand exponent

/-- The number nearest to `digits * 10 ^ exponent`, under the given sign. Exponents far outside
the range of the format are answered without forming the power: there the result is infinite or
zero whatever the digits are. -/
def ofDecimal (negative : Bool) (digits : Nat) (exponent : Int) : Binary64 :=
  if digits = 0 then .finite negative 0 leastExponent
  else if 400 < exponent then .infinite negative
  else if exponent + digits.log2 / 3 + 1 < -400 then .finite negative 0 leastExponent
  else
    match exponent with
    | .ofNat up => ofQuotient negative (digits * Nat.pow 10 up) 1
    | .negSucc down => ofQuotient negative digits (Nat.pow 10 (down + 1))

end Binary64

end ScreenScript
