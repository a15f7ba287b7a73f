import ScreenScript.Json.Number

/-! # Tokens of a JSON text

`tokens?` cuts a text into tokens in one pass over its characters: `Scan` says what the
characters read so far have begun, `Scan.step` takes one more. Blanks separate words and mean
nothing else, so the tokens are all that reading needs. Texts in quotes admit no control
character, and an escaped surrogate must be a high one that a low one follows at once.
-/

namespace ScreenScript.Json

/-- A token: punctuation, a text, or a value written without quotes. -/
inductive Token where
  | openList
  | closeList
  | openMapping
  | closeMapping
  | comma
  | colon
  | text (content : String)
  | scalar (value : Value)
deriving Inhabited, Repr

/-- What the characters read so far have begun. Characters are collected in reverse. -/
inductive Scan where
  /-- Nothing: a token may begin. -/
  | between
  | word (reversed : List Char)
  | quoted (reversed : List Char)
  /-- An escape in a text, of which the backslash is read. -/
  | escape (reversed : List Char)
  /-- A code unit in an escape, of which `count` hexadecimal digits are read. A high surrogate
  that stands before it is kept. -/
  | unit (reversed : List Char) (high : Option Nat) (count value : Nat)
  /-- A text in which a high surrogate calls for a low one. -/
  | needEscape (reversed : List Char) (high : Nat)
  /-- The same, of which the backslash is read. -/
  | needUnit (reversed : List Char) (high : Nat)
deriving Inhabited, Repr

def isBlank (char : Char) : Bool :=
  char = ' ' ∨ char = '\t' ∨ char = '\n' ∨ char = '\r'

/-- The characters of words outside of quotes. -/
def isWordChar (char : Char) : Bool :=
  char.isAlphanum ∨ char = '-' ∨ char = '+' ∨ char = '.'

def punctuation? : Char → Option Token
  | '[' => some .openList
  | ']' => some .closeList
  | '\x7b' => some .openMapping
  | '\x7d' => some .closeMapping
  | ',' => some .comma
  | ':' => some .colon
  | _ => none

def hexDigit? (char : Char) : Option Nat :=
  if char.isDigit then some (char.toNat - '0'.toNat)
  else if 'a' ≤ char ∧ char ≤ 'f' then some (char.toNat - 'a'.toNat + 10)
  else if 'A' ≤ char ∧ char ≤ 'F' then some (char.toNat - 'A'.toNat + 10)
  else none

/-- The character that a letter behind a backslash stands for. -/
def escaped? : Char → Option Char
  | '"' => some '"'
  | '\\' => some '\\'
  | '/' => some '/'
  | 'b' => some '\x08'
  | 'f' => some '\x0c'
  | 'n' => some '\n'
  | 'r' => some '\r'
  | 't' => some '\t'
  | _ => none

/-- The text after a code unit is read: a high surrogate waits for its low one, a low one is
joined to the high one before it, and any other unit is a character. -/
def Scan.ofUnit? (reversed : List Char) (high : Option Nat) (unit : Nat) : Option Scan :=
  let isHigh := 0xd800 ≤ unit ∧ unit < 0xdc00
  let isLow := 0xdc00 ≤ unit ∧ unit < 0xe000
  match high with
  | some high =>
    if isLow then
      some (.quoted (Char.ofNat (0x10000 + (high - 0xd800) * 0x400 + (unit - 0xdc00)) :: reversed))
    else none
  | none =>
    if isHigh then some (.needEscape reversed unit)
    else if isLow then none
    else some (.quoted (Char.ofNat unit :: reversed))

/-- What a character begins between tokens, and the token that it is. -/
def Scan.begin? (char : Char) : Option (Scan × List Token) :=
  if isBlank char then some (.between, [])
  else if char = '"' then some (.quoted [], [])
  else if isWordChar char then some (.word [char], [])
  else (punctuation? char).map fun token => (.between, [token])

/-- One more character: what has begun after it, and the tokens that it completes, the last one
first. -/
def Scan.step (scan : Scan) (char : Char) : Option (Scan × List Token) :=
  match scan with
  | .between => Scan.begin? char
  | .word reversed =>
    if isWordChar char then some (.word (char :: reversed), [])
    else do
      let value ← scalar? reversed.reverse
      let (next, tokens) ← Scan.begin? char
      return (next, tokens ++ [.scalar value])
  | .quoted reversed =>
    if char = '"' then some (.between, [.text (String.ofList reversed.reverse)])
    else if char = '\\' then some (.escape reversed, [])
    else if char.toNat < 0x20 then none
    else some (.quoted (char :: reversed), [])
  | .escape reversed =>
    if char = 'u' then some (.unit reversed none 0 0, [])
    else (escaped? char).map fun escaped => (.quoted (escaped :: reversed), [])
  | .unit reversed high count value => do
    let value := 16 * value + (← hexDigit? char)
    if count < 3 then return (.unit reversed high (count + 1) value, [])
    return (← Scan.ofUnit? reversed high value, [])
  | .needEscape reversed high =>
    if char = '\\' then some (.needUnit reversed high, []) else none
  | .needUnit reversed high =>
    if char = 'u' then some (.unit reversed (some high) 0 0, []) else none

/-- One more character of a pass, with the tokens of the pass in reverse. -/
def Scan.advance (state : Scan × List Token) (char : Char) : Option (Scan × List Token) := do
  let (next, tokens) ← state.1.step char
  return (next, tokens ++ state.2)

/-- The tokens of a pass, in reverse, when the text ends: a word ends with it, a text may not be
left open. -/
def Scan.finish? : Scan × List Token → Option (List Token)
  | (.between, tokens) => some tokens
  | (.word reversed, tokens) => (scalar? reversed.reverse).map fun value => .scalar value :: tokens
  | _ => none

/-- The tokens of a text, and nothing when a part of it is none. -/
def tokens? (text : List Char) : Option (List Token) := do
  let state ← text.foldlM Scan.advance (.between, [])
  let tokens ← Scan.finish? state
  return tokens.reverse

end ScreenScript.Json
