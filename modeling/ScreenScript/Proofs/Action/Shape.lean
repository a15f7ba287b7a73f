import ScreenScript.Action

/-! # The shape that selects an action

A mapping may have several of the shapes by which actions are written, and others that come close
to one. `Shape.On` tells which of them are well formed, and of these the first one alone makes up
the action: nothing else in the mapping is read, be it malformed, of a lower rank, or no shape at
all. A step of a sequence is classified in the same way, so what may be changed in a node without
changing its action may also be changed in any of its steps, at any depth.
-/

namespace ScreenScript

theorem Value.mapping?_eq_some_iff {value : Value} {fields : Fields} :
    value.mapping? = some fields ↔ value = .mapping fields := by
  cases value <;> simp [mapping?]

theorem Fields.text?_eq_some_iff {fields : Fields} {key content : String} :
    fields.text? key = some content ↔ Keyed.get? fields key = some (.text content) := by
  unfold text?
  cases Keyed.get? fields key with
  | none => simp
  | some value => cases value <;> simp [Value.text?]

namespace Action

/-- A well-formed shape, with what is read of it. The steps of a sequence are still nodes. -/
inductive Shape where
  | append (path : String) (value : Value)
  | sequence (steps : List Value)
  | set (path : String) (value : Value)
  | command (name : String) (params : Fields)

namespace Shape

/-- The place of a shape in the order in which the shapes are tried. -/
def rank : Shape → Nat
  | append .. => 0
  | sequence _ => 1
  | set .. => 2
  | command .. => 3

/-- The action that a shape writes. -/
def action : Shape → Action
  | append path value => .single (.append path value)
  | sequence steps => .sequence (steps.map ofNode)
  | set path value => .single (.set path value)
  | command name params => .single (.command name params)

/-- A mapping has an assignment under a key: a body that is a mapping, with a text under `var` and
an entry under `value`. -/
structure Assigns (fields : Fields) (key path : String) (value : Value) (body : Fields) : Prop where
  entry : Keyed.get? fields key = some (.mapping body)
  var : Keyed.get? body "var" = some (.text path)
  value : Keyed.get? body "value" = some value

/-- A mapping has a well-formed shape. Parameters that are no mapping count as none. -/
inductive On (fields : Fields) : Shape → Prop where
  | append {body : Fields} {path : String} {value : Value}
      (assigns : Assigns fields "append" path value body) : On fields (append path value)
  | sequence {steps : List Value}
      (entry : Keyed.get? fields "sequence" = some (.list steps)) : On fields (sequence steps)
  | set {body : Fields} {path : String} {value : Value}
      (assigns : Assigns fields "set" path value body) : On fields (set path value)
  | command {name : String} {params : Fields}
      (entry : Keyed.get? fields "action" = some (.text name))
      (given : Keyed.get? fields "params" = some (.mapping params)) :
      On fields (command name params)
  | bare {name : String} (entry : Keyed.get? fields "action" = some (.text name))
      (none : ∀ params, Keyed.get? fields "params" ≠ some (.mapping params)) :
      On fields (command name [])

/-- A shape is the well-formed one of the highest priority in a mapping. -/
structure First (fields : Fields) (shape : Shape) : Prop where
  on : shape.On fields
  least : ∀ other : Shape, other.On fields → shape.rank ≤ other.rank

variable {fields : Fields}

theorem Assigns.unique {key path path' : String} {value value' : Value} {body body' : Fields}
    (one : Assigns fields key path value body) (other : Assigns fields key path' value' body') :
    path = path' ∧ value = value' := by
  cases one.entry.symm.trans other.entry
  cases one.var.symm.trans other.var
  cases one.value.symm.trans other.value
  exact ⟨rfl, rfl⟩

/-- A mapping has one shape of each rank at most. -/
theorem On.eq_of_rank {shape shape' : Shape} (on : shape.On fields) (on' : shape'.On fields)
    (same : shape.rank = shape'.rank) : shape = shape' := by
  cases on with
  | append one =>
    cases on' with
    | append other =>
      obtain ⟨rfl, rfl⟩ := one.unique other
      rfl
    | _ => cases same
  | sequence one =>
    cases on' with
    | sequence other =>
      cases one.symm.trans other
      rfl
    | _ => cases same
  | set one =>
    cases on' with
    | set other =>
      obtain ⟨rfl, rfl⟩ := one.unique other
      rfl
    | _ => cases same
  | command one given =>
    cases on' with
    | command other given' =>
      cases one.symm.trans other
      cases given.symm.trans given'
      rfl
    | bare _ none => exact absurd given (none _)
    | _ => cases same
  | bare one none =>
    cases on' with
    | command _ given => exact absurd given (none _)
    | bare other _ =>
      cases one.symm.trans other
      rfl
    | _ => cases same

theorem First.unique {shape shape' : Shape} (first : First fields shape)
    (first' : First fields shape') : shape = shape' := by
  apply first.on.eq_of_rank first'.on
  exact Nat.le_antisymm (first.least _ first'.on) (first'.least _ first.on)

end Shape

open Shape

variable {fields : Fields}

/-- The reader of assignments finds what is there. -/
theorem assignment?_eq_some_iff {key path : String} {value : Value} :
    assignment? fields key = some (path, value) ↔
      ∃ body, Assigns fields key path value body := by
  simp only [assignment?, Option.bind_eq_bind, Option.bind_eq_some_iff,
    Value.mapping?_eq_some_iff, Fields.text?_eq_some_iff, Option.pure_def, Option.some.injEq,
    Prod.mk.injEq]
  constructor
  · rintro ⟨body, ⟨node, entry, rfl⟩, found, var, written, has, rfl, rfl⟩
    exact ⟨body, entry, var, has⟩
  · rintro ⟨body, entry, var, has⟩
    exact ⟨body, ⟨_, entry, rfl⟩, path, var, value, has, rfl, rfl⟩

theorem not_assigns_of_none {key path : String} {value : Value} {body : Fields}
    (none : assignment? fields key = none) : ¬Assigns fields key path value body := by
  intro assigns
  cases none.symm.trans (assignment?_eq_some_iff.mpr ⟨body, assigns⟩)

theorem steps?_eq_some_iff {actions : List Action} :
    steps? fields = some actions ↔
      ∃ steps, Keyed.get? fields "sequence" = some (.list steps) ∧ steps.map ofNode = actions := by
  rw [steps?_eq]
  cases Keyed.get? fields "sequence" with
  | none => simp
  | some value => cases value <;> simp [Value.list?, ofNodes_eq_map]

theorem not_list_of_none {steps : List Value} (none : steps? fields = none) :
    Keyed.get? fields "sequence" ≠ some (.list steps) := by
  intro entry
  cases none.symm.trans (steps?_eq_some_iff.mpr ⟨steps, entry, rfl⟩)

/-- A text under `action` is a command, whatever stands under `params`. -/
theorem on_command {name : String} (entry : Keyed.get? fields "action" = some (.text name)) :
    On fields (.command name (((Keyed.get? fields "params").bind Value.mapping?).getD [])) := by
  cases given : (Keyed.get? fields "params").bind Value.mapping? with
  | none =>
    refine .bare entry ?_
    intro params found
    rw [found] at given
    cases given
  | some params =>
    obtain ⟨node, found, is⟩ := Option.bind_eq_some_iff.mp given
    exact .command entry (Value.mapping?_eq_some_iff.mp is ▸ found)

/-- A command comes first where nothing of a higher rank can be read. -/
theorem Shape.First.of_command {name : String} {params : Fields}
    (on : On fields (.command name params)) (noAppend : assignment? fields "append" = none)
    (noSequence : steps? fields = none) (noSet : assignment? fields "set" = none) :
    First fields (.command name params) := by
  refine ⟨on, ?_⟩
  intro other present
  cases present with
  | append assigns => exact absurd assigns (not_assigns_of_none noAppend)
  | sequence entry => exact absurd entry (not_list_of_none noSequence)
  | set assigns => exact absurd assigns (not_assigns_of_none noSet)
  | _ => simp [rank]

/-- A mapping is the action of its first well-formed shape. Without any, it is kept as it is by an
instruction that does nothing. -/
theorem ofNode_cases (fields : Fields) :
    (∃ shape, First fields shape ∧ ofNode (.mapping fields) = shape.action) ∨
    (∀ shape : Shape, ¬shape.On fields) ∧
      ∃ reason, ofNode (.mapping fields) = .single (.unrecognized reason (.mapping fields)) := by
  rw [ofNode]
  cases append : assignment? fields "append" with
  | some assigned =>
    obtain ⟨body, assigns⟩ := assignment?_eq_some_iff.mp append
    exact .inl ⟨_, ⟨.append assigns, fun _ _ => Nat.zero_le _⟩, rfl⟩
  | none =>
  cases sequence : steps? fields with
  | some actions =>
    obtain ⟨steps, entry, rfl⟩ := steps?_eq_some_iff.mp sequence
    refine .inl ⟨_, ⟨.sequence entry, ?_⟩, rfl⟩
    intro other on
    cases on with
    | append assigns => exact absurd assigns (not_assigns_of_none append)
    | _ => simp [rank]
  | none =>
  rw [instruction]
  cases set : assignment? fields "set" with
  | some assigned =>
    obtain ⟨body, assigns⟩ := assignment?_eq_some_iff.mp set
    refine .inl ⟨_, ⟨.set assigns, ?_⟩, rfl⟩
    intro other on
    cases on with
    | append assigns => exact absurd assigns (not_assigns_of_none append)
    | sequence entry => exact absurd entry (not_list_of_none sequence)
    | _ => simp [rank]
  | none =>
  cases command : Fields.text? fields "action" with
  | some name =>
    have on := on_command (Fields.text?_eq_some_iff.mp command)
    exact .inl ⟨_, .of_command on append sequence set, rfl⟩
  | none =>
    refine .inr ⟨?_, _, rfl⟩
    intro shape on
    cases on with
    | append assigns => exact not_assigns_of_none append assigns
    | sequence entry => exact not_list_of_none sequence entry
    | set assigns => exact not_assigns_of_none set assigns
    | command entry | bare entry => cases command.symm.trans (Fields.text?_eq_some_iff.mpr entry)

/-- The first well-formed shape of a mapping is its action. -/
theorem ofNode_of_first {shape : Shape} (first : First fields shape) :
    ofNode (.mapping fields) = shape.action := by
  rcases ofNode_cases fields with ⟨other, first', same⟩ | ⟨none, -⟩
  · rw [same, first.unique first']
  · exact absurd first.on (none shape)

/-- No shape writes an action that is not recognized. -/
theorem Shape.action_ne_unrecognized (shape : Shape) (reason : String) (node : Value) :
    shape.action ≠ .single (.unrecognized reason node) := by
  intro same
  cases shape <;> cases same

/-- Two nodes have the same action for a reason that can be seen in their shapes: they are mappings
with the same first shape, or they are sequences that differ in a step for such a reason. Changes of
several kinds and at several places follow each other. -/
inductive Reshaped : Value → Value → Prop where
  | refl (node : Value) : Reshaped node node
  | first {fields fields' : Fields} {shape : Shape} (here : First fields shape)
      (there : First fields' shape) : Reshaped (.mapping fields) (.mapping fields')
  | step {fields fields' : Fields} {before after : List Value} {old new : Value}
      (here : First fields (.sequence (before ++ old :: after)))
      (there : First fields' (.sequence (before ++ new :: after)))
      (reshaped : Reshaped old new) : Reshaped (.mapping fields) (.mapping fields')
  | trans {node middle node' : Value} (left : Reshaped node middle)
      (right : Reshaped middle node') : Reshaped node node'

/-- Other steps under `sequence` make up other steps, and no other shape comes before them. -/
theorem Shape.First.put_sequence {old : List Value} (first : First fields (.sequence old))
    (new : List Value) : First (Keyed.put fields "sequence" (.list new)) (.sequence new) := by
  refine ⟨.sequence ?_, ?_⟩
  · rw [Keyed.get?_put, if_pos rfl]
  · intro other on
    cases on with
    | append assigns =>
      have entry := assigns.entry
      rw [Keyed.get?_put, if_neg (by decide)] at entry
      exact first.least _ (.append ⟨entry, assigns.var, assigns.value⟩)
    | _ => simp [rank]

/-- A step of a sequence may be replaced where it stands. -/
theorem Reshaped.put_step {before after : List Value} {old new : Value}
    (here : First fields (.sequence (before ++ old :: after))) (reshaped : Reshaped old new) :
    Reshaped (.mapping fields)
      (.mapping (Keyed.put fields "sequence" (.list (before ++ new :: after)))) :=
  .step here (here.put_sequence _) reshaped

theorem Reshaped.ofNode_eq {node node' : Value} (reshaped : Reshaped node node') :
    ofNode node = ofNode node' := by
  induction reshaped with
  | refl => rfl
  | first here there => rw [ofNode_of_first here, ofNode_of_first there]
  | step here there _ same =>
    rw [ofNode_of_first here, ofNode_of_first there]
    simp only [Shape.action, List.map_append, List.map_cons, same]
  | trans _ _ left right => exact left.trans right

/-- The action of a node depends on its first well-formed shape alone, at every depth. A mapping is
not recognized just when it has no such shape, and then it is carried along as it was. -/
theorem ofNode_of_shape :
    (∀ node node', Reshaped node node' → ofNode node = ofNode node') ∧
    (∀ fields shape, First fields shape → ofNode (.mapping fields) = shape.action) ∧
    ∀ fields,
      ((∃ reason node, ofNode (.mapping fields) = .single (.unrecognized reason node)) ↔
        ∀ shape : Shape, ¬shape.On fields) ∧
      ∀ reason node, ofNode (.mapping fields) = .single (.unrecognized reason node) →
        node = .mapping fields := by
  refine ⟨fun _ _ reshaped => reshaped.ofNode_eq, fun _ _ first => ofNode_of_first first, ?_⟩
  intro fields
  rcases ofNode_cases fields with ⟨shape, first, same⟩ | ⟨none, reason, same⟩
  · rw [same]
    refine ⟨⟨?_, fun none => absurd first.on (none shape)⟩, ?_⟩
    · rintro ⟨reason, node, not⟩
      exact absurd not (shape.action_ne_unrecognized reason node)
    · intro reason node not
      exact absurd not (shape.action_ne_unrecognized reason node)
  · rw [same]
    refine ⟨⟨fun _ => none, fun _ => ⟨reason, _, rfl⟩⟩, ?_⟩
    rintro _ _ ⟨⟩
    rfl

/-- The entries of a sequence of one step, behind an assignment without a path and before one that
comes too late. -/
def cluttered (step : Value) : Fields :=
  [("append", .mapping [("var", .int 7), ("value", .null)]), ("sequence", .list [step]),
    ("set", .mapping [("var", .text "a"), ("value", .null)])]

theorem first_cluttered (step : Value) : First (cluttered step) (.sequence [step]) := by
  refine ⟨.sequence rfl, ?_⟩
  intro other on
  cases on with
  | append assigns =>
    cases assigns.entry
    cases assigns.var
  | _ => simp [rank]

/-- A command whose parameters are no mapping. -/
def vague : Fields :=
  [("params", .int 3), ("action", .text "go")]

/-- The same command, with entries that nothing reads. -/
def noted : Fields :=
  [("set", .null), ("action", .text "go"), ("note", .text "!")]

theorem ofNode_of_shape_cluttered :
    Reshaped (.mapping (cluttered (.mapping vague))) (.mapping (cluttered (.mapping noted))) ∧
    ofNode (.mapping (cluttered (.mapping vague))) =
      ofNode (.mapping (cluttered (.mapping noted))) ∧
    ofNode (.mapping (cluttered (.mapping noted))) = .sequence [.single (.command "go" [])] := by
  have step : Reshaped (.mapping vague) (.mapping noted) :=
    .first (Shape.First.of_command (on_command rfl) rfl rfl rfl)
      (Shape.First.of_command (on_command rfl) rfl rfl rfl)
  have here : First (cluttered (.mapping vague)) (.sequence ([] ++ .mapping vague :: [])) :=
    first_cluttered _
  have whole : Reshaped (.mapping (cluttered (.mapping vague)))
      (.mapping (cluttered (.mapping noted))) := .put_step here step
  exact ⟨whole, ofNode_of_shape.1 _ _ whole, rfl⟩

end Action

end ScreenScript
