import ScreenScript.Proofs.Json.Escape

/-! # What a run of characters spells

Characters spell a sequence of tokens when the scan takes the ones for the others, whatever stands
before them and behind. The only trouble is a word, which goes on as long as it can: behind it there
must be a character of another kind, or the end. Spellings are put together by the lemmas here,
without a further look at the scan.
-/

namespace ScreenScript.Json

/-- The tokens from some point of a text on to its end, in reverse. -/
def Scan.run (state : Scan × List Token) (chars : List Char) : Option (List Token) :=
  (chars.foldlM Scan.advance state).bind Scan.finish?

theorem tokens?_eq_run (text : List Char) :
    tokens? text = (Scan.run (.between, []) text).map List.reverse := by
  rw [tokens?, Scan.run]
  cases text.foldlM Scan.advance (Scan.between, []) with
  | none => rfl
  | some state => cases finished : Scan.finish? state <;> simp [finished]

theorem Scan.run_cons (state : Scan × List Token) (char : Char) (chars : List Char) :
    Scan.run state (char :: chars) = (Scan.advance state char).bind (Scan.run · chars) := by
  simp [Scan.run, List.foldlM_cons, Option.bind_assoc]

theorem Scan.run_append (state : Scan × List Token) (front back : List Char) :
    Scan.run state (front ++ back) = (front.foldlM Scan.advance state).bind (Scan.run · back) := by
  simp [Scan.run, List.foldlM_append, Option.bind_assoc]

/-- A word cannot go on into these characters. -/
def EndsWord (chars : List Char) : Prop :=
  ∀ char ∈ chars.head?, isWordChar char = false

theorem endsWord_cons {char : Char} (other : isWordChar char = false) (chars : List Char) :
    EndsWord (char :: chars) := by
  intro first same
  cases same
  exact other

/-- `chars` are taken for `tokens`. -/
def Spells (chars : List Char) (tokens : List Token) : Prop :=
  ∀ (before : List Token) (rest : List Char), EndsWord rest →
    Scan.run (.between, before) (chars ++ rest) =
      Scan.run (.between, tokens.reverse ++ before) rest

namespace Spells

variable {chars front back : List Char} {tokens frontTokens backTokens : List Token}

theorem nil : Spells [] [] :=
  fun _ _ _ => rfl

/-- One spelling behind another, if no word goes on from the one into the other. -/
theorem append (first : Spells front frontTokens) (second : Spells back backTokens)
    (apart : ∀ rest, EndsWord rest → EndsWord (back ++ rest)) :
    Spells (front ++ back) (frontTokens ++ backTokens) := by
  intro before rest ends
  rw [List.append_assoc, first _ _ (apart rest ends), second _ _ ends, List.reverse_append,
    List.append_assoc]

/-- A character that leaves nothing open stands before any spelling. -/
private theorem cons_of_begin? {char : Char} (before : List Token)
    (begins : Scan.begin? char = some (.between, before)) (second : Spells chars tokens) :
    Spells (char :: chars) (before.reverse ++ tokens) := by
  intro earlier rest ends
  have advanced : Scan.advance (.between, earlier) char = some (.between, before ++ earlier) := by
    simp [Scan.advance, Scan.step, begins]
  rw [List.cons_append, Scan.run_cons, advanced, Option.bind_some, second _ _ ends]
  simp

theorem cons_blank (second : Spells chars tokens) : Spells (' ' :: chars) tokens :=
  cons_of_begin? [] rfl second

theorem cons_punctuation {char : Char} {token : Token} (mark : punctuation? char = some token)
    (second : Spells chars tokens) : Spells (char :: chars) (token :: tokens) := by
  have begins : Scan.begin? char = some (.between, [token]) := by
    rw [Scan.begin?]
    unfold punctuation? at mark ⊢
    split at mark <;> first | (cases mark; rfl) | cases mark
  exact cons_of_begin? [token] begins second

private theorem foldlM_word {word : List Char} (letters : ∀ char ∈ word, isWordChar char = true)
    (reversed : List Char) (before : List Token) :
    word.foldlM Scan.advance (.word reversed, before) =
      some (.word (word.reverse ++ reversed), before) := by
  induction word generalizing reversed with
  | nil => rfl
  | cons char rest ih =>
    have letter : isWordChar char = true := letters char (List.mem_cons_self ..)
    have advanced : Scan.advance (.word reversed, before) char =
        some (.word (char :: reversed), before) := by
      simp [Scan.advance, Scan.step, letter]
    rw [List.foldlM_cons, advanced, Option.bind_eq_bind, Option.bind_some,
      ih fun other member => letters other (List.mem_cons_of_mem _ member)]
    simp

/-- A character that is no part of a word ends it and begins what it would have begun anyway. -/
private theorem run_word_ends (reversed : List Char) (before : List Token) {rest : List Char}
    (ends : EndsWord rest) :
    Scan.run (.word reversed, before) rest =
      (scalar? reversed.reverse).bind fun value =>
        Scan.run (.between, .scalar value :: before) rest := by
  cases rest with
  | nil => cases named : scalar? reversed.reverse <;> simp [Scan.run, Scan.finish?, named]
  | cons char rest =>
    have other : isWordChar char = false := ends char rfl
    simp only [Scan.run_cons, Scan.advance, Scan.step, other, Bool.false_eq_true, ↓reduceIte]
    cases scalar? reversed.reverse with
    | none => rfl
    | some value =>
      cases Scan.begin? char with
      | none => rfl
      | some begun => simp

/-- A word is the value that it names. -/
theorem word {word : List Char} {value : Value} (nonempty : word ≠ [])
    (letters : ∀ char ∈ word, isWordChar char = true) (named : scalar? word = some value) :
    Spells word [.scalar value] := by
  intro before rest ends
  obtain ⟨first, others, rfl⟩ := List.exists_cons_of_ne_nil nonempty
  have letter : isWordChar first = true := letters first (List.mem_cons_self ..)
  have unlike (char : Char) (other : isWordChar char = false) : first ≠ char := by
    rintro rfl
    rw [letter] at other
    cases other
  have begins : Scan.advance (.between, before) first = some (.word [first], before) := by
    simp [Scan.advance, Scan.step, Scan.begin?, isBlank, letter, unlike ' ' (by decide),
      unlike '\t' (by decide), unlike '\n' (by decide), unlike '\r' (by decide),
      unlike '"' (by decide)]
  rw [Scan.run_append, List.foldlM_cons, begins, Option.bind_eq_bind, Option.bind_some,
    foldlM_word fun other member => letters other (List.mem_cons_of_mem _ member),
    Option.bind_some, run_word_ends _ _ ends]
  simp [named]

private theorem foldlM_escaped (content reversed : List Char) (before : List Token) :
    (content.flatMap escapeChar).foldlM Scan.advance (.quoted reversed, before) =
      some (.quoted (content.reverse ++ reversed), before) := by
  induction content generalizing reversed with
  | nil => rfl
  | cons char rest ih =>
    rw [List.flatMap_cons, List.foldlM_append, foldlM_escapeChar, Option.bind_eq_bind,
      Option.bind_some, ih]
    simp

/-- A text in quotes is the text that was written. -/
theorem quoted (content : String) : Spells (writeText content).toList [.text content] := by
  intro before rest _
  have opened : Scan.advance (.between, before) '"' = some (.quoted [], before) := rfl
  have closed (reversed : List Char) : Scan.advance (.quoted reversed, before) '"' =
      some (.between, .text (String.ofList reversed.reverse) :: before) := rfl
  simp only [writeText, String.toList_ofList, List.cons_append, List.append_assoc, List.nil_append,
    Scan.run_cons, Scan.run_append, opened, Option.bind_some, foldlM_escaped, closed]
  simp

end Spells

end ScreenScript.Json
