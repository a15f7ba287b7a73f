import ScreenScript.Document
import ScreenScript.Proofs.Json.Spelling
import ScreenScript.Settings.Load

/-! # Line ends mean nothing in a settings file

A settings file is read with its line ends unified, which makes a text shorter wherever a carriage
return stands before a line feed. JSON says the same with them and without: a scan takes a carriage
return for what it takes a line feed for in whatever it has begun, be it a blank, the end of a word,
or a character that no text and no escape admits. When it has got over one line end, nothing is
begun, and a second one is a blank. So the scan of the unified text runs beside that of the text
itself and skips a step where two characters became one.
-/

namespace ScreenScript

namespace Json

/-- What is begun does not tell a carriage return from a line feed. -/
theorem Scan.step_carriageReturn (scan : Scan) : scan.step '\r' = scan.step '\n' := by
  cases scan <;> rfl

/-- Behind a line end nothing is begun. -/
theorem Scan.eq_between_of_lineFeed {scan next : Scan} {tokens : List Token}
    (stepped : scan.step '\n' = some (next, tokens)) : next = .between := by
  cases scan with
  | between =>
    cases stepped
    rfl
  | word reversed =>
    obtain ⟨value, -, ended⟩ := Option.bind_eq_some_iff.mp stepped
    cases ended
    rfl
  | _ => cases stepped

theorem Scan.advance_carriageReturn (state : Scan × List Token) :
    Scan.advance state '\r' = Scan.advance state '\n' := by
  rw [Scan.advance, Scan.advance, Scan.step_carriageReturn]

/-- A scan that has got over a line end takes a further one for a blank. -/
theorem Scan.advance_lineFeed_again {state next : Scan × List Token}
    (advanced : Scan.advance state '\n' = some next) : Scan.advance next '\n' = some next := by
  obtain ⟨⟨scan, tokens⟩, stepped, ended⟩ := Option.bind_eq_some_iff.mp advanced
  cases ended
  rw [Scan.eq_between_of_lineFeed stepped]
  rfl

/-- The scan of a text and that of the text with its line ends unified end alike, wherever they
begin. -/
theorem Scan.run_unifyNewlines (state : Scan × List Token) (chars : List Char) :
    Scan.run state (Text.unifyNewlines chars) = Scan.run state chars := by
  fun_induction Text.unifyNewlines chars generalizing state with
  | case1 => rfl
  | case2 rest ih =>
    -- The carriage return does the work of the line feed, which finds nothing more to do.
    rw [Scan.run_cons, Scan.run_cons, Scan.advance_carriageReturn]
    cases advanced : Scan.advance state '\n' with
    | none => rfl
    | some next =>
      rw [Option.bind_some, Option.bind_some, Scan.run_cons,
        Scan.advance_lineFeed_again advanced, Option.bind_some, ih]
  | case3 char rest _ ih =>
    have same : Scan.advance state (if char = '\r' then '\n' else char) =
        Scan.advance state char := by
      split
      next carriageReturn => rw [carriageReturn, Scan.advance_carriageReturn]
      · rfl
    rw [Scan.run_cons, Scan.run_cons, same]
    exact congrArg (Scan.advance state char).bind (funext ih)

/-- A text has the tokens that it has with its line ends unified. -/
theorem tokens?_unifyNewlines (chars : List Char) :
    tokens? (Text.unifyNewlines chars) = tokens? chars := by
  rw [tokens?_eq_run, tokens?_eq_run, Scan.run_unifyNewlines]

/-- A text writes the value that it writes with its line ends unified, or both write none. -/
theorem read?_unifyNewlines (text : String) :
    read? (String.ofList (Text.unifyNewlines text.toList)) = read? text := by
  rw [read?, read?, String.toList_ofList, tokens?_unifyNewlines]

end Json

namespace Settings

theorem ofText_unifyNewlines (text : String) :
    ofText (String.ofList (Text.unifyNewlines text.toList)) = ofText text := by
  rw [ofText, ofText, Json.read?_unifyNewlines]

/-- A settings file with any text, its line ends of any kind and in any place, is loaded as what its
text writes with all line ends as they are: the same settings, or a failure with the same issues,
though no carriage return is left in what is read of it. -/
theorem load_of_lineEnds (path text : String) :
    let unified := String.ofList (Text.unifyNewlines text.toList)
    '\r' ∉ unified.toList ∧ ofText unified = ofText text ∧
    (∀ settings, load path (.regular text.toUTF8) = .ok settings ↔
      ofText text = .valid settings) ∧
    ∀ failure, load path (.regular text.toUTF8) = .error failure ↔
      ∃ issues, ofText text = .invalid issues ∧ failure = .invalidSettings path issues := by
  intro unified
  have same : ofText (String.ofList (Text.unifyNewlines text.toList)) = ofText text :=
    ofText_unifyNewlines text
  have decoded : String.fromUTF8? text.toUTF8 = some text := dif_pos text.isValidUTF8
  refine ⟨?_, same, ?_⟩
  · rw [String.toList_ofList]
    exact Text.carriageReturn_notMem_unifyNewlines text.toList
  cases read : ofText text with
  | valid accepted =>
    have loaded : load path (.regular text.toUTF8) = .ok accepted := by
      simp only [load, File.read, decoded, same, read]
    rw [loaded]
    constructor
    · intro settings
      simp
    · intro failure
      simp
  | invalid issues =>
    have loaded : load path (.regular text.toUTF8) = .error (.invalidSettings path issues) := by
      simp only [load, File.read, decoded, same, read]
    rw [loaded]
    constructor
    · intro settings
      simp
    · intro failure
      simp [eq_comm]

/-- A text with carriage returns of both kinds between its tokens, and one inside of a text. -/
example :
    ofText "\x7b\r\n\"alert_title\"\r:\r\r\n\"x\"\x7d\r" = .valid ⟨none, "x", []⟩ ∧
      ofText "\x7b\"alert_title\": \"x\r\ny\"\x7d" = .invalid [⟨[], .invalidJson⟩] :=
  ⟨rfl, rfl⟩

end Settings

end ScreenScript
