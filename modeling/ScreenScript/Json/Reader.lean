import ScreenScript.Json.Token

/-! # Reading JSON texts

A text is read token by token. `Reading` says what may come next inside the containers that are
open, so reading needs no recursion whatever the depth of the value. A key that comes twice in
one mapping has its last value and its first place, as `Keyed.put` has it.
-/

namespace ScreenScript.Json

/-- An open container: what it holds up to the value that is being read. -/
inductive Container where
  | list (reversed : List Value)
  | mapping (fields : Fields) (key : String)
deriving Inhabited, Repr

/-- What may come next. The open containers are listed from the innermost one. -/
inductive Reading where
  | value (within : List Container)
  | itemOrClose (within : List Container)
  | keyOrClose (within : List Container)
  | key (fields : Fields) (within : List Container)
  | colon (fields : Fields) (key : String) (within : List Container)
  /-- Whatever may follow a complete value. -/
  | after (value : Value) (within : List Container)
deriving Inhabited, Repr

/-- What a token begins where a value is due. -/
def Reading.begin? (within : List Container) : Token → Option Reading
  | .scalar scalar => some (.after scalar within)
  | .text content => some (.after (.text content) within)
  | .openList => some (.itemOrClose within)
  | .openMapping => some (.keyOrClose within)
  | _ => none

def Reading.step : Reading → Token → Option Reading
  | .value within, token => Reading.begin? within token
  | .itemOrClose within, .closeList => some (.after (.list []) within)
  | .itemOrClose within, token => Reading.begin? (.list [] :: within) token
  | .keyOrClose within, .closeMapping => some (.after (.mapping []) within)
  | .keyOrClose within, .text name => some (.colon [] name within)
  | .key fields within, .text name => some (.colon fields name within)
  | .colon fields name within, .colon => some (.value (.mapping fields name :: within))
  | .after last (.list reversed :: within), .comma =>
    some (.value (.list (last :: reversed) :: within))
  | .after last (.list reversed :: within), .closeList =>
    some (.after (.list (last :: reversed).reverse) within)
  | .after last (.mapping fields name :: within), .comma =>
    some (.key (Keyed.put fields name last) within)
  | .after last (.mapping fields name :: within), .closeMapping =>
    some (.after (.mapping (Keyed.put fields name last)) within)
  | _, _ => none

/-- The value that the tokens write, and nothing when they are not those of one value. -/
def ofTokens? (tokens : List Token) : Option Value := do
  match ← tokens.foldlM Reading.step (.value []) with
  | .after value [] => some value
  | _ => none

def read? (text : String) : Option Value := do
  ofTokens? (← tokens? text.toList)

/-- The value that the text in a sequence of bytes writes. The bytes must be well-formed UTF-8
throughout. -/
def readBytes? (bytes : ByteArray) : Option Value := do
  read? (← String.fromUTF8? bytes)

end ScreenScript.Json
