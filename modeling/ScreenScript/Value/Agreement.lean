import ScreenScript.Value

/-! # Agreement of values

Two values agree when they say the same. Numbers agree when they denote the same number, whatever
their types are, where a truth value counts as `0` or `1`; what is no number agrees with nothing.
Mappings agree when they have the same keys with values that agree, in whatever order.
-/

namespace ScreenScript.Value

/-- The multiple of the least positive floating-point number that a finite number is. -/
def multiple? : Value → Option Int
  | .bool truth => some (if truth then one else 0)
  | .int number => some (number * one)
  | .float (.finite negative significand exponent) =>
    let size : Nat := significand <<< (exponent - Binary64.leastExponent).toNat
    some (if negative then -(size : Int) else size)
  | _ => none
where
  one : Nat := 1 <<< Binary64.leastExponent.natAbs

/-- Whether two values denote the same number, which may be infinite. -/
def sameNumber : Value → Value → Bool
  | .float (.infinite negative), .float (.infinite negative') => negative = negative'
  | first, second =>
    match first.multiple?, second.multiple? with
    | some multiple, some multiple' => multiple = multiple'
    | _, _ => false

mutual

/-- Whether two values agree. -/
def agrees : Value → Value → Bool
  | .null, .null => true
  | .text content, .text content' => content = content'
  | .list items, .list items' => agreeItems items items'
  | .mapping fields, .mapping fields' =>
    fields.length = fields'.length && agreeFields fields fields'
  | first, second => sameNumber first second

def agreeItems : List Value → List Value → Bool
  | [], [] => true
  | item :: rest, item' :: rest' => agrees item item' && agreeItems rest rest'
  | _, _ => false

/-- Whether a mapping has a value that agrees under each of the given keys. -/
def agreeFields : List (String × Value) → Fields → Bool
  | [], _ => true
  | (key, value) :: rest, fields =>
    (match Keyed.get? fields key with
      | some value' => agrees value value'
      | none => false) && agreeFields rest fields

end

end ScreenScript.Value
