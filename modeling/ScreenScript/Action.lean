import ScreenScript.Value.Literal

/-! # Actions

An action is one instruction or a sequence of actions. Documents write actions as mappings whose
shape selects the instruction, and `Action.ofNode` classifies a value by trying the shapes in a
fixed order: `append`, `sequence`, `set`, `action`. A malformed shape does not count, so the next
one is tried, and what matches none of them is an instruction that does nothing but say why.
-/

namespace ScreenScript

inductive Instruction where
  /-- Appends the mapping that an expression yields to the list at a path. -/
  | append (path : String) (value : Value)
  | set (path : String) (value : Value)
  /-- Carries out a command by its name, which may be one that is not known. -/
  | command (name : String) (params : Fields)
  /-- Stands for a node that is no action. -/
  | unrecognized (reason : String) (node : Value)
deriving Inhabited, Repr

inductive Action where
  | single (instruction : Instruction)
  | sequence (steps : List Action)
deriving Inhabited, Repr

namespace Action

/-- The path and the expression of an assignment under a key: it must be a mapping with a text
under `var` and an entry under `value`. -/
def assignment? (fields : Fields) (key : String) : Option (String × Value) := do
  let body ← (Keyed.get? fields key).bind Value.mapping?
  let path ← Fields.text? body "var"
  let value ← Keyed.get? body "value"
  return (path, value)

/-- Why a value that is no mapping is no action. -/
def notMapping (node : Value) : String :=
  "action node must be a mapping, got " ++ node.typeName

/-- Why a mapping with an assignment that is not well formed is no action. -/
def malformedAssignment : String :=
  "malformed assignment (needs a string 'var' and a 'value')"

/-- Why a mapping without any of the shapes is no action. Its keys are listed in the order of
their code points. -/
def noShape (fields : Fields) : String :=
  "no action shape matched keys " ++
    Value.literal (.list (((Keyed.keys fields).mergeSort (· ≤ ·)).map .text))

def mentionsAssignment (fields : Fields) : Bool :=
  Keyed.contains fields "append" || Keyed.contains fields "set"

/-- The instruction of a mapping without a sequence: an assignment, a command, or none. -/
def instruction (fields : Fields) : Instruction :=
  match assignment? fields "set" with
  | some (path, value) => .set path value
  | none =>
    match Fields.text? fields "action" with
    | some name => .command name (((Keyed.get? fields "params").bind Value.mapping?).getD [])
    | none =>
      .unrecognized (if mentionsAssignment fields then malformedAssignment else noShape fields)
        (.mapping fields)

mutual

/-- The action that a node describes. -/
def ofNode : Value → Action
  | .mapping fields =>
    match assignment? fields "append" with
    | some (path, value) => .single (.append path value)
    -- A malformed `append` counts for nothing, so the other shapes are still tried.
    | none =>
      match steps? fields with
      | some steps => .sequence steps
      | none => .single (instruction fields)
  | node => .single (.unrecognized (notMapping node) node)

/-- The steps under `sequence`, when there is a list. -/
def steps? : List (String × Value) → Option (List Action)
  | [] => none
  | (key, node) :: rest => if key = "sequence" then stepsIn? node else steps? rest

def stepsIn? : Value → Option (List Action)
  | .list steps => some (ofNodes steps)
  | _ => none

def ofNodes : List Value → List Action
  | [] => []
  | node :: rest => ofNode node :: ofNodes rest

end

/-- What describes an action: a node, or the action itself when it was read before. -/
inductive Description where
  | node (raw : Value)
  | read (action : Action)
deriving Inhabited, Repr

/-- The action that is described. One that was read before is not read again. -/
def Description.action : Description → Action
  | .node raw => ofNode raw
  | .read action => action

/-- The steps of a sequence are those of the list under `sequence`. -/
theorem steps?_eq (fields : Fields) :
    steps? fields = ((Keyed.get? fields "sequence").bind Value.list?).map ofNodes := by
  induction fields with
  | nil => rfl
  | cons entry rest ih =>
    by_cases found : entry.1 = "sequence"
    · rw [steps?, if_pos found, Keyed.get?, if_pos found]
      cases entry.2 <;> rfl
    · rw [steps?, if_neg found, Keyed.get?, if_neg found, ih]

/-- Each node describes one action, whatever stands around it. -/
theorem ofNodes_eq_map (nodes : List Value) : ofNodes nodes = nodes.map ofNode := by
  induction nodes with
  | nil => rfl
  | cons node rest ih => simp [ofNodes, ih]

mutual

/-- The instructions of an action in document order. -/
def instructions : Action → List Instruction
  | .single instruction => [instruction]
  | .sequence steps => instructionsOf steps

def instructionsOf : List Action → List Instruction
  | [] => []
  | step :: rest => instructions step ++ instructionsOf rest

end

theorem instructionsOf_eq_flatMap (steps : List Action) :
    instructionsOf steps = steps.flatMap instructions := by
  induction steps with
  | nil => rfl
  | cons step rest ih => simp [instructionsOf, ih]

mutual

/-- An action written by its kind, with all its fields. -/
def toValue : Action → Value
  | .single (.append path value) =>
    .mapping [("kind", .text "append"), ("var", .text path), ("value", value)]
  | .single (.set path value) =>
    .mapping [("kind", .text "set"), ("var", .text path), ("value", value)]
  | .single (.command name params) =>
    .mapping [("kind", .text "command"), ("name", .text name), ("params", .mapping params)]
  | .single (.unrecognized reason node) =>
    .mapping [("kind", .text "unrecognized"), ("reason", .text reason), ("node", node)]
  | .sequence steps =>
    .mapping [("kind", .text "sequence"), ("steps", .list (toValues steps))]

def toValues : List Action → List Value
  | [] => []
  | step :: rest => toValue step :: toValues rest

end

end Action

end ScreenScript
