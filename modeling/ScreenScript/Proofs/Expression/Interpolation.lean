import ScreenScript.Expression

/-! # Interpolation as concatenation

A template is a concatenation written as one text. `Template.scan` cuts it from left to right: at a
dollar sign before a path character begins a token, the longest run of them is its path, and all
else is literal. That gives the pieces which `Template.pieces` cuts from the right. As the parts to
concatenate, with literal stretches as texts and tokens as variables, they have the value of the
template, although such texts are templates again: no literal stretch holds a token. What is found
for a token is not cut, so the texts before and behind a token are rendered on their own, whatever
stands between them then.
-/

namespace ScreenScript

namespace Template

/-- A stretch of literal characters, unless it is empty. -/
def literal (chars : List Char) : List Piece :=
  if chars = [] then [] else [.literal (String.ofList chars)]

/-- The pieces of a text from left to right, where `held` is the literal stretch before it. -/
def scan (held : List Char) : List Char → List Piece
  | [] => literal held
  | char :: rest =>
    if char = '$' ∧ rest.takeWhile isPathChar ≠ [] then
      literal held ++ .token (String.ofList (rest.takeWhile isPathChar)) ::
        scan [] (rest.dropWhile isPathChar)
    else scan (held ++ [char]) rest
termination_by chars => chars.length
decreasing_by
  · have shorter := (List.dropWhile_sublist isPathChar (l := rest)).length_le
    simp only [List.length_cons]
    omega
  · simp

/-- No dollar sign stands before a path character. -/
def Plain (chars : List Char) : Prop :=
  ∀ before char after, chars = before ++ '$' :: char :: after → isPathChar char = false

/-- The pieces of the characters of a text. -/
def piecesOf (chars : List Char) : List Piece :=
  prepend (cut chars).1 (cut chars).2

theorem pieces_eq_piecesOf (text : String) : pieces text = piecesOf text.toList := rfl

section

variable {held rest : List Char}

@[simp]
theorem prepend_nil (pieces : List Piece) : prepend [] pieces = pieces := by
  cases pieces <;> rfl

theorem prepend_append (first second : List Char) (pieces : List Piece) :
    prepend (first ++ second) pieces = prepend first (prepend second pieces) := by
  cases first with
  | nil => simp
  | cons char first =>
    cases second with
    | nil => simp
    | cons char' second =>
      cases pieces with
      | nil => simp [prepend, String.append_assoc]
      | cons piece pieces => cases piece <;> simp [prepend, String.append_assoc]

theorem literal_eq_prepend (chars : List Char) : literal chars = prepend chars [] := by
  cases chars <;> simp [literal, prepend]

/-- A token ends the literal stretch before it. -/
theorem literal_append_token (chars : List Char) (path : String) (pieces : List Piece) :
    literal chars ++ .token path :: pieces = prepend chars (.token path :: pieces) := by
  cases chars <;> simp [literal, prepend]

theorem prepend_append_token (chars : List Char) (front : List Piece) (path : String)
    (pieces : List Piece) :
    prepend chars (front ++ .token path :: pieces) =
      prepend chars front ++ .token path :: pieces := by
  cases chars with
  | nil => simp
  | cons char chars =>
    cases front with
    | nil => simp [prepend]
    | cons piece front => cases piece <;> simp [prepend]

theorem cut_cons (char : Char) (rest : List Char) :
    cut (char :: rest) =
      if isPathChar char then (char :: (cut rest).1, (cut rest).2)
      else if char = '$' ∧ (cut rest).1 ≠ [] then
        ([], .token (String.ofList (cut rest).1) :: (cut rest).2)
      else ([], prepend (char :: (cut rest).1) (cut rest).2) := rfl

/-- The cut from the right stops in front of the path characters that a text starts with. -/
theorem cut_eq (chars : List Char) :
    cut chars = (chars.takeWhile isPathChar, piecesOf (chars.dropWhile isPathChar)) := by
  induction chars with
  | nil => rfl
  | cons char rest ih =>
    by_cases inPath : isPathChar char = true
    · rw [cut_cons, if_pos inPath, ih, List.takeWhile_cons_of_pos inPath,
        List.dropWhile_cons_of_pos inPath]
    · have stops : (cut (char :: rest)).1 = [] := by
        rw [cut_cons, if_neg inPath]
        split <;> rfl
      rw [List.takeWhile_cons_of_neg inPath, List.dropWhile_cons_of_neg inPath, piecesOf, stops,
        prepend_nil, ← stops]

theorem piecesOf_token (found : rest.takeWhile isPathChar ≠ []) :
    piecesOf ('$' :: rest) =
      .token (String.ofList (rest.takeWhile isPathChar)) ::
        piecesOf (rest.dropWhile isPathChar) := by
  have dollar : isPathChar '$' = false := by decide
  simp [piecesOf, cut_cons, cut_eq rest, dollar, found]

theorem piecesOf_literal {char : Char}
    (absent : ¬(char = '$' ∧ rest.takeWhile isPathChar ≠ [])) :
    piecesOf (char :: rest) = prepend [char] (piecesOf rest) := by
  by_cases inPath : isPathChar char = true
  · rw [piecesOf, cut_cons, if_pos inPath, piecesOf, ← prepend_append, List.singleton_append]
  · have literal : ¬(char = '$' ∧ (cut rest).1 ≠ []) := by rwa [cut_eq]
    rw [piecesOf, cut_cons, if_neg inPath, if_neg literal, prepend_nil, piecesOf, ← prepend_append,
      List.singleton_append]

/-- Cutting from the left gives the pieces that cutting from the right gives. -/
theorem scan_eq_prepend (held chars : List Char) :
    scan held chars = prepend held (piecesOf chars) := by
  fun_induction scan held chars with
  | case1 held => exact literal_eq_prepend held
  | case2 held char rest token ih =>
    obtain ⟨rfl, found⟩ := token
    rw [ih, prepend_nil, piecesOf_token found, literal_append_token]
  | case3 held char rest absent ih => rw [ih, prepend_append, piecesOf_literal absent]

theorem pieces_eq_scan (text : String) : pieces text = scan [] text.toList := by
  rw [scan_eq_prepend, prepend_nil, pieces_eq_piecesOf]

/-- A literal stretch is cut into nothing but itself. -/
theorem piecesOf_plain {chars : List Char} (plain : Plain chars) :
    piecesOf chars = literal chars := by
  induction chars with
  | nil => rfl
  | cons char rest ih =>
    have behind : Plain rest := fun before char' after same =>
      plain (char :: before) char' after (congrArg (char :: ·) same)
    have absent : ¬(char = '$' ∧ rest.takeWhile isPathChar ≠ []) := by
      rintro ⟨rfl, found⟩
      cases rest with
      | nil => exact found rfl
      | cons next rest =>
        have stops := plain [] next rest rfl
        rw [List.takeWhile_cons_of_neg (by simp [stops])] at found
        exact found rfl
    rw [piecesOf_literal absent, ih behind, literal_eq_prepend, literal_eq_prepend,
      ← prepend_append, List.singleton_append]

theorem Plain.of_append {front back : List Char} (plain : Plain (front ++ back)) :
    Plain front := by
  rintro before char after rfl
  exact plain before char (after ++ back) (by simp)

theorem Plain.of_length_le_one {chars : List Char} (short : chars.length ≤ 1) : Plain chars := by
  rintro before char after rfl
  simp only [List.length_append, List.length_cons] at short
  omega

/-- A plain stretch may go on by one character, unless that begins a token behind it. -/
private theorem Plain.concat {front : List Char} {last next : Char}
    (plain : Plain (front ++ [last])) (apart : last = '$' → isPathChar next = false) :
    Plain (front ++ [last, next]) := by
  intro before char after same
  rcases List.eq_nil_or_concat after with rfl | ⟨after, final, rfl⟩
  · obtain ⟨-, rest⟩ := List.append_inj' same (by simp)
    cases rest
    exact apart rfl
  · have shorter : (front ++ [last]) ++ [next] = (before ++ '$' :: char :: after) ++ [final] := by
      simpa using same
    exact plain before char after (List.append_inj' shorter rfl).1

/-- No literal stretch holds a token: the characters behind it are known where it is cut. -/
theorem plain_of_mem_scan {held chars : List Char} {content : String}
    (plain : Plain (held ++ chars.take 1)) (member : .literal content ∈ scan held chars) :
    Plain content.toList := by
  have alone {held : List Char} (plain : Plain held)
      (member : .literal content ∈ literal held) : Plain content.toList := by
    rw [literal] at member
    split at member
    · cases member
    · cases List.mem_singleton.mp member
      rwa [String.toList_ofList]
  fun_induction scan held chars with
  | case1 held => exact alone plain.of_append member
  | case2 held char rest token ih =>
    rcases List.mem_append.mp member with here | later
    · exact alone plain.of_append here
    · rcases List.mem_cons.mp later with same | later
      · cases same
      · exact ih (.of_length_le_one (List.length_take_le ..)) later
  | case3 held char rest absent ih =>
    refine ih ?_ member
    cases rest with
    | nil => simpa using plain
    | cons next rest =>
      rw [List.append_assoc]
      refine Plain.concat plain fun dollar => ?_
      exact Bool.eq_false_iff.mpr fun inPath => absent ⟨dollar, by simp [inPath]⟩

/-- Path characters before a dollar sign go on no further than up to it. -/
private theorem takeWhile_append_dollar (rest behind : List Char) :
    (rest ++ '$' :: behind).takeWhile isPathChar = rest.takeWhile isPathChar ∧
      (rest ++ '$' :: behind).dropWhile isPathChar =
        rest.dropWhile isPathChar ++ '$' :: behind := by
  have dollar : ¬isPathChar '$' = true := by decide
  induction rest with
  | nil => simp [dollar]
  | cons char rest ih => by_cases inPath : isPathChar char = true <;> simp [inPath, ih]

/-- What is cut before a dollar sign does not depend on what follows, if a token begins there. -/
private theorem piecesOf_append_dollar {behind : List Char} {path : String} {pieces : List Piece}
    (token : piecesOf ('$' :: behind) = .token path :: pieces) (before : List Char) :
    piecesOf (before ++ '$' :: behind) = piecesOf before ++ .token path :: pieces := by
  -- The induction is that of the cut from the left, whose steps pass a token at a time.
  refine scan.induct (motive := fun _ before =>
    piecesOf (before ++ '$' :: behind) = piecesOf before ++ .token path :: pieces)
    ?_ ?_ ?_ [] before
  · intro _
    exact token
  · rintro _ _ rest ⟨rfl, found⟩ ih
    have same := takeWhile_append_dollar rest behind
    have found' : (rest ++ '$' :: behind).takeWhile isPathChar ≠ [] := by rwa [same.1]
    rw [List.cons_append, piecesOf_token found', piecesOf_token found, same.1, same.2, ih,
      List.cons_append]
  · intro _ char rest absent ih
    have absent' : ¬(char = '$' ∧ (rest ++ '$' :: behind).takeWhile isPathChar ≠ []) := by
      rwa [(takeWhile_append_dollar rest behind).1]
    rw [List.cons_append, piecesOf_literal absent', piecesOf_literal absent, ih,
      prepend_append_token]

/-- A token with its whole path stands between what is cut before it and what is cut behind it. -/
theorem piecesOf_append_token (before : List Char) {run after : List Char} (keyed : run ≠ [])
    (inPath : ∀ char ∈ run, isPathChar char = true)
    (ends : ∀ char ∈ after.head?, isPathChar char = false) :
    piecesOf (before ++ '$' :: (run ++ after)) =
      piecesOf before ++ .token (String.ofList run) :: piecesOf after := by
  have stops : after.takeWhile isPathChar = [] ∧ after.dropWhile isPathChar = after := by
    cases after with
    | nil => exact ⟨rfl, rfl⟩
    | cons char after => simp [ends char rfl]
  have whole : (run ++ after).takeWhile isPathChar = run := by
    rw [List.takeWhile_append_of_pos inPath, stops.1, List.append_nil]
  refine piecesOf_append_dollar ?_ before
  rw [piecesOf_token (by rwa [whole]), whole, List.dropWhile_append_of_pos inPath, stops.2]

end

/-- A dollar sign that no path follows is literal, and the dot at the end of a path belongs to
it. -/
example :
    pieces "$$a.$ é$b$" =
      [.literal "$", .token "a.", .literal "$ é", .token "b", .literal "$"] := by decide +kernel

/-- A piece as a part to concatenate. -/
def Piece.part : Piece → Value
  | .literal content => .text content
  | .token path => .mapping [("var", .text path)]

/-- The parts to concatenate that a text stands for, as it is cut from left to right. -/
def parts (text : String) : List Value :=
  (scan [] text.toList).map Piece.part

variable (read : String → Option Value)

/-- The text that pieces are rendered to. -/
def renderPieces (pieces : List Piece) : String :=
  String.join (pieces.map (Piece.render read))

theorem render_eq (text : String) :
    render read text = renderPieces read (piecesOf text.toList) := rfl

theorem renderPieces_append (first second : List Piece) :
    renderPieces read (first ++ second) =
      renderPieces read first ++ renderPieces read second := by
  simp [renderPieces]

theorem render_plain {text : String} (plain : Plain text.toList) : render read text = text := by
  rw [render_eq, piecesOf_plain plain, literal]
  split
  next empty => simpa [renderPieces] using (String.toList_eq_nil_iff.mp empty).symm
  · simp [renderPieces, Piece.render]

/-- What is put in for a token is as it was found, between texts that are rendered without it. -/
theorem render_token (before : String) {run after : String} (keyed : run ≠ "")
    (inPath : ∀ char ∈ run.toList, isPathChar char = true)
    (ends : ∀ char ∈ after.toList.head?, isPathChar char = false) :
    render read (before ++ "$" ++ run ++ after) =
      render read before ++ (read run).elim "" Value.asText ++ render read after := by
  have cut := piecesOf_append_token before.toList (keyed ∘ String.toList_eq_nil_iff.mp)
    inPath ends
  have chars : (before ++ "$" ++ run ++ after).toList =
      before.toList ++ '$' :: (run.toList ++ after.toList) := by simp
  rw [render_eq, chars, cut, ← List.singleton_append, renderPieces_append, renderPieces_append,
    String.ofList_toList, String.append_assoc]
  simp [renderPieces, Piece.render, render_eq]

end Template

namespace Expression

open Template

variable (read : String → Option Value)

theorem evaluate_text (content : String) :
    evaluate read (.text content) = .text (render read content) := by
  rw [evaluate, eval?]
  rfl

/-- The parts of a concatenation are evaluated one by one. -/
theorem evaluate_concat (parts : List Value) :
    evaluate read (.mapping [("concat", .list parts)]) =
      .text (String.join (evalTexts read parts)) := by
  rw [evaluate, eval?, parts?_eq]
  rfl

theorem evalTexts_parts {pieces : List Piece}
    (plain : ∀ content, .literal content ∈ pieces → Plain content.toList) :
    evalTexts read (pieces.map Piece.part) = pieces.map (Piece.render read) := by
  rw [evalTexts_eq_map, List.map_map]
  refine List.map_congr_left fun piece member => ?_
  cases piece with
  | literal content =>
    rw [Function.comp_apply, Piece.part, eval?, render_plain read (plain content member)]
    rfl
  | token path =>
    rw [Function.comp_apply, Piece.part, eval?]
    rfl

/-- A text has the value of the concatenation that it stands for. Without a token that is the text
itself; and with one, whatever is found for it stands unread between the values of what comes
before and of what comes behind. -/
theorem evaluate_template (data : Fields) (content : String) :
    evaluate (reader data) (.text content) =
      evaluate (reader data) (.mapping [("concat", .list (parts content))]) ∧
    (Plain content.toList → evaluate (reader data) (.text content) = .text content) ∧
    ∀ before run after, content = before ++ "$" ++ run ++ after → run ≠ "" →
      (∀ char ∈ run.toList, isPathChar char = true) →
      (∀ char ∈ after.toList.head?, isPathChar char = false) →
      evaluate (reader data) (.text content) =
        .text ((evaluate (reader data) (.text before)).asText ++
          (reader data run).elim "" Value.asText ++
          (evaluate (reader data) (.text after)).asText) := by
  refine ⟨?_, fun plain => ?_, ?_⟩
  · have plain (content' : String) (member : .literal content' ∈ scan [] content.toList) :
        Plain content'.toList :=
      plain_of_mem_scan (.of_length_le_one (List.length_take_le ..)) member
    rw [evaluate_text, evaluate_concat, parts, evalTexts_parts _ plain, render, pieces_eq_scan]
  · rw [evaluate_text, render_plain _ plain]
  · rintro before run after rfl keyed inPath ends
    rw [evaluate_text, evaluate_text, evaluate_text, render_token _ before keyed inPath ends]
    rfl

end Expression

end ScreenScript
