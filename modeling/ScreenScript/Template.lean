import ScreenScript.Value

/-! # Text with embedded paths

A text may name data by tokens: a dollar sign before the longest run of letters, digits,
underscores and dots that follows it. A dollar sign before anything else stands for itself.
`Template.pieces` cuts a text at its tokens, and rendering puts the text found under each path
in its place. What is put in is not looked at again.
-/

namespace ScreenScript

namespace Template

/-- A stretch of a template: text that stands for itself, or a token with its path. -/
inductive Piece where
  | literal (content : String)
  | token (path : String)
deriving DecidableEq, Inhabited, Repr

def isPathChar (char : Char) : Bool :=
  char.isAlphanum ∨ char = '_' ∨ char = '.'

def prepend : List Char → List Piece → List Piece
  | [], pieces => pieces
  | chars, .literal content :: rest => .literal (String.ofList chars ++ content) :: rest
  | chars, pieces => .literal (String.ofList chars) :: pieces

/-- A text cut from its right end: the path characters that it starts with, and the pieces of
what follows them. -/
def cut : List Char → List Char × List Piece
  | [] => ([], [])
  | char :: rest =>
    let (run, pieces) := cut rest
    if isPathChar char then (char :: run, pieces)
    -- Only the character before a run of path characters decides what the run is.
    else if char = '$' ∧ run ≠ [] then ([], .token (String.ofList run) :: pieces)
    else ([], prepend (char :: run) pieces)

def pieces (text : String) : List Piece :=
  let (run, pieces) := cut text.toList
  prepend run pieces

/-- The text of one piece, where `read` says what is found under a path. -/
def Piece.render (read : String → Option Value) : Piece → String
  | .literal content => content
  | .token path => (read path).elim "" Value.asText

/-- A text with each token replaced by the text under its path; what is no text, or absent,
leaves nothing behind. -/
def render (read : String → Option Value) (text : String) : String :=
  String.join ((pieces text).map (Piece.render read))

end Template

end ScreenScript
