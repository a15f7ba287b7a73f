import ScreenScript.Expression

/-! # What an expression reads

The shape of an expression alone decides which paths its evaluation asks for: the tokens of a
text, the path under `var`, the parts under `concat` where there is no `var`, and otherwise all
that a mapping or a list holds. `Expression.reads` lists them. Two ways of reading that answer
alike at these paths give the expression the same value, or both give it none. What they answer
elsewhere does not matter, even where an entry beside `var` or `concat` names it.
-/

namespace ScreenScript

/-- The path of a token, and nothing for literal text. -/
def Template.Piece.path? : Piece → Option String
  | .literal _ => none
  | .token path => some path

/-- The paths of the tokens in a text, from left to right. -/
def Template.paths (text : String) : List String :=
  (pieces text).filterMap Piece.path?

namespace Expression

mutual

/-- The paths that the evaluation of an expression reads, by their texts. -/
def reads : Value → List String
  | .text content => Template.paths content
  | .mapping fields =>
    match Fields.text? fields "var" with
    | some path => [path]
    | none =>
      match partReads? fields with
      | some paths => paths
      | none => fieldReads fields
  | .list items => itemReads items
  | _ => []

def itemReads : List Value → List String
  | [] => []
  | item :: rest => reads item ++ itemReads rest

def fieldReads : List (String × Value) → List String
  | [] => []
  | (_, node) :: rest => reads node ++ fieldReads rest

/-- The paths that the parts to concatenate read, when the entry under `concat` is a list. -/
def partReads? : List (String × Value) → Option (List String)
  | [] => none
  | (key, node) :: rest => if key = "concat" then partReadsIn? node else partReads? rest

def partReadsIn? : Value → Option (List String)
  | .list parts => some (itemReads parts)
  | _ => none

end

theorem itemReads_eq_flatMap (items : List Value) : itemReads items = items.flatMap reads := by
  induction items with
  | nil => rfl
  | cons item rest ih => rw [itemReads, ih, List.flatMap_cons]

/-- The parts that are read are those of the list under `concat`. -/
theorem partReads?_eq (fields : Fields) :
    partReads? fields =
      ((Keyed.get? fields "concat").bind Value.list?).map fun parts => parts.flatMap reads := by
  induction fields with
  | nil => rfl
  | cons entry rest ih =>
    by_cases found : entry.1 = "concat"
    · rw [partReads?, if_pos found, Keyed.get?, if_pos found]
      cases entry.2 with
      | list parts => exact congrArg some (itemReads_eq_flatMap parts)
      | _ => rfl
    · rw [partReads?, if_neg found, Keyed.get?, if_neg found, ih]

/-- Two ways of reading answer alike at some paths. -/
def AgreeOn (read read' : String → Option Value) (paths : List String) : Prop :=
  ∀ path ∈ paths, read path = read' path

section

variable {read read' : String → Option Value}

theorem AgreeOn.append {first second : List String} (agree : AgreeOn read read' (first ++ second)) :
    AgreeOn read read' first ∧ AgreeOn read read' second :=
  List.forall_mem_append.mp agree

private theorem render_congr {text : String} (agree : AgreeOn read read' (Template.paths text)) :
    Template.render read text = Template.render read' text := by
  have pieces : (Template.pieces text).map (Template.Piece.render read) =
      (Template.pieces text).map (Template.Piece.render read') := by
    apply List.map_congr_left
    intro piece member
    cases piece with
    | literal content => rfl
    | token path =>
      have same : read path = read' path :=
        agree path (List.mem_filterMap.mpr ⟨.token path, member, rfl⟩)
      rw [Template.Piece.render, Template.Piece.render, same]
  rw [Template.render, Template.render, pieces]

/-- Whether there are parts to concatenate is a matter of the mapping alone. -/
private theorem parts?_isSome (read : String → Option Value) (fields : Fields) :
    (parts? read fields).isSome = (partReads? fields).isSome := by
  rw [parts?_eq, partReads?_eq, Option.isSome_map, Option.isSome_map]

mutual

/-- Evaluation asks for nothing but what the expression reads. -/
theorem eval?_congr : (node : Value) → AgreeOn read read' (reads node) →
    eval? read node = eval? read' node
  | .text content, agree => by
    rw [reads] at agree
    rw [eval?, eval?, render_congr agree]
  | .list items, agree => by
    rw [reads] at agree
    rw [eval?, eval?, evalItems_congr items agree]
  | .mapping fields, agree => by
    rw [reads] at agree
    rw [eval?, eval?]
    cases named : Fields.text? fields "var" with
    | some path =>
      rw [named] at agree
      exact agree path (List.mem_singleton_self path)
    | none =>
      rw [named] at agree
      -- Without a `var` both evaluations find parts to concatenate, or neither does.
      have shape := parts?_isSome read fields
      have shape' := parts?_isSome read' fields
      cases found : partReads? fields with
      | some paths =>
        simp only [found] at agree
        have same := parts?_congr fields fun _ known => by
          cases found.symm.trans known
          exact agree
        simp only [same]
        cases parts : parts? read' fields with
        | some texts => rfl
        | none => rw [parts, found] at shape'; cases shape'
      | none =>
        simp only [found] at agree
        rw [found, Option.isSome_none, Option.isSome_eq_false_iff, Option.isNone_iff_eq_none]
          at shape shape'
        simp only [shape, shape', evalFields_congr fields agree]
  | .null, _ => rfl
  | .bool _, _ => rfl
  | .int _, _ => rfl
  | .float _, _ => rfl

theorem evalItems_congr : (items : List Value) → AgreeOn read read' (itemReads items) →
    evalItems read items = evalItems read' items
  | [], _ => rfl
  | item :: rest, agree => by
    rw [itemReads] at agree
    rw [evalItems, evalItems, eval?_congr item agree.append.1,
      evalItems_congr rest agree.append.2]

theorem evalFields_congr : (fields : List (String × Value)) →
    AgreeOn read read' (fieldReads fields) → evalFields read fields = evalFields read' fields
  | [], _ => rfl
  | (key, node) :: rest, agree => by
    rw [fieldReads] at agree
    rw [evalFields, evalFields, eval?_congr node agree.append.1,
      evalFields_congr rest agree.append.2]

theorem parts?_congr : (fields : List (String × Value)) →
    (∀ paths, partReads? fields = some paths → AgreeOn read read' paths) →
    parts? read fields = parts? read' fields
  | [], _ => rfl
  | (key, node) :: rest, agree => by
    rw [parts?, parts?]
    by_cases found : key = "concat"
    · rw [if_pos found, if_pos found]
      refine partsIn?_congr node fun paths known => agree paths ?_
      rw [partReads?, if_pos found, known]
    · rw [if_neg found, if_neg found]
      refine parts?_congr rest fun paths known => agree paths ?_
      rw [partReads?, if_neg found, known]

theorem partsIn?_congr : (node : Value) →
    (∀ paths, partReadsIn? node = some paths → AgreeOn read read' paths) →
    partsIn? read node = partsIn? read' node
  | .list parts, agree => by
    rw [partsIn?, partsIn?, evalTexts_congr parts (agree _ rfl)]
  | .text _, _ => rfl
  | .mapping _, _ => rfl
  | .null, _ => rfl
  | .bool _, _ => rfl
  | .int _, _ => rfl
  | .float _, _ => rfl

theorem evalTexts_congr : (parts : List Value) → AgreeOn read read' (itemReads parts) →
    evalTexts read parts = evalTexts read' parts
  | [], _ => rfl
  | part :: rest, agree => by
    rw [itemReads] at agree
    rw [evalTexts, evalTexts, eval?_congr part agree.append.1,
      evalTexts_congr rest agree.append.2]

end

theorem evaluate_congr (node : Value) (agree : AgreeOn read read' (reads node)) :
    evaluate read node = evaluate read' node := by
  rw [evaluate, evaluate, eval?_congr node agree]

end

/-- Two root mappings in which the paths that an expression reads lead to the same, or both to
nothing, give it the same value, or both none. -/
theorem value_of_reads (node : Value) (data data' : Fields)
    (agree : ∀ path ∈ reads node, reader data path = reader data' path) :
    eval? (reader data) node = eval? (reader data') node ∧
      evaluate (reader data) node = evaluate (reader data') node :=
  ⟨eval?_congr node agree, evaluate_congr node agree⟩

/-- An expression that reads two paths, of which one is absent, and names two more beside `var` and
`concat`. -/
private def card : Value :=
  .mapping [("title", .text "Oi $user.name!"),
    ("lines", .list [.mapping [("concat", .list [.text "- ", .mapping [("var", .text "absent")]]),
      ("note", .text "$secret")]]),
    ("copy", .mapping [("var", .text "user.name"), ("concat", .list [.text "$hidden"])])]

/-- Two roots that agree about the user and about nothing else have the same card. -/
theorem value_of_reads_card :
    reads card = ["user.name", "absent", "user.name"] ∧
      evaluate (reader [("user", .mapping [("name", .text "Ana")]), ("secret", .text "x")]) card =
        evaluate (reader [("hidden", .int 1), ("user", .mapping [("name", .text "Ana"),
          ("age", .int 30)])]) card := by
  refine ⟨rfl, (value_of_reads card _ _ ?_).2⟩
  intro path member
  have listed : path ∈ ["user.name", "absent", "user.name"] := member
  simp only [List.mem_cons, List.not_mem_nil, or_false] at listed
  rcases listed with rfl | rfl | rfl <;> rfl

end Expression

end ScreenScript
