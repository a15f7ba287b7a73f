import ScreenScript.Proofs.Execution.Independence
import ScreenScript.Proofs.Path.KeyOrder

/-! # Documents up to the order of keys

The order of keys in documents and in data decides nothing. Values that are the same but for that
order describe the same actions, and on data that are the same but for that order they are evaluated
to values that are; so their execution writes such values and sends the very same commands.
-/

namespace ScreenScript

variable {H : Type}

/-- What holds of a list or a mapping when it holds of all that it holds, and of all else, holds of
every value. -/
theorem Value.inductionOn {motive : Value → Prop}
    (plain : ∀ value : Value, value.list? = none → value.mapping? = none → motive value)
    (list : ∀ items, (∀ item ∈ items, motive item) → motive (.list items))
    (mapping : ∀ fields : Fields, (∀ key value, (key, value) ∈ fields → motive value) →
      motive (.mapping fields)) : (value : Value) → motive value
  | .list items => list items fun item _ => inductionOn plain list mapping item
  | .mapping fields => mapping fields fun key value member =>
    have smaller : sizeOf value < sizeOf fields := by
      have inside := List.sizeOf_lt_of_mem member
      simp only [Prod.mk.sizeOf_spec] at inside
      omega
    inductionOn plain list mapping value
  | .null => plain _ rfl rfl
  | .bool _ => plain _ rfl rfl
  | .int _ => plain _ rfl rfl
  | .float _ => plain _ rfl rfl
  | .text _ => plain _ rfl rfl

namespace Expression

/-- Two evaluations are alike: they yield the same but for the order of keys, or both yield nothing,
and as parts to concatenate they are the same texts. -/
private structure SameEval (read read' : String → Option Value) (node node' : Value) : Prop where
  value : Value.BothReordered (eval? read node) (eval? read' node')
  parts : partsIn? read node = partsIn? read' node'

section

variable {read read' : String → Option Value}

/-- Mappings without a path are evaluated alike when their parts to concatenate and their entries
are. -/
private theorem sameEval_mapping {fields fields' : Fields}
    (named : fields.text? "var" = fields'.text? "var")
    (reads : ∀ path, Value.BothReordered (read path) (read' path))
    (parts : parts? read fields = parts? read' fields')
    (entries : (evalFields read fields).Alike (evalFields read' fields')) :
    SameEval read read' (.mapping fields) (.mapping fields') where
  value := by
    rw [eval?, eval?, named, parts]
    cases fields'.text? "var" with
    | some path => exact reads path
    | none =>
      cases parts? read' fields' with
      | some texts => exact .some (.refl _)
      | none => exact .some entries
  parts := rfl

/-- What is read the same but for the order of keys leads to values that are. -/
private theorem sameEval_of_reads (reads : ∀ path, Value.BothReordered (read path) (read' path))
    (node : Value) : SameEval read read' node node := by
  induction node using Value.inductionOn with
  | plain value notList notMapping =>
    refine ⟨?_, ?_⟩
    · cases value with
      | text content =>
        have rendered : Template.render read content = Template.render read' content := by
          rw [Template.render, Template.render]
          refine congrArg _ (List.map_congr_left fun piece _ => ?_)
          cases piece with
          | literal _ => rfl
          | token path => exact Value.Reordered.asText_eq (reads path)
        rw [eval?, eval?, rendered]
        exact .some (.refl _)
      | list _ => cases notList
      | mapping _ => cases notMapping
      | _ => exact .some (.refl _)
    · cases value with
      | list _ => cases notList
      | _ => rfl
  | list items ih =>
    refine ⟨?_, ?_⟩
    · rw [eval?, eval?, evalItems_eq_filterMap, evalItems_eq_filterMap]
      refine .some (.list ?_)
      have same : List.Forall₂ (fun item item' => item = item' ∧ item ∈ items) items items :=
        List.forall₂_same.mpr fun item member => ⟨rfl, member⟩
      refine List.rel_filterMap ?_ same
      rintro item _ ⟨rfl, member⟩
      exact (ih item member).value
    · rw [partsIn?, partsIn?, evalTexts_eq_map, evalTexts_eq_map]
      refine congrArg _ (List.map_congr_left fun part member => ?_)
      exact Value.Reordered.asText_eq (ih part member).value
  | mapping fields ih =>
    refine sameEval_mapping rfl reads ?_ ?_
    · rw [parts?_eq_bind, parts?_eq_bind]
      cases found : Keyed.get? fields "concat" with
      | none => rfl
      | some node => exact (ih _ node (Keyed.mem_of_get? found)).parts
    · rw [evalFields_eq_filterMap, evalFields_eq_filterMap]
      refine .of_forall₂ ?_
      have same : List.Forall₂ (fun entry entry' => entry = entry' ∧ entry ∈ fields)
          fields fields := List.forall₂_same.mpr fun entry member => ⟨rfl, member⟩
      refine List.rel_filterMap ?_ same
      rintro ⟨key, node⟩ _ ⟨rfl, member⟩
      have values := (ih key node member).value
      change Option.Rel _ ((eval? read node).map _) ((eval? read' node).map _)
      generalize eval? read node = found, eval? read' node = found' at values
      cases values with
      | none => exact .none
      | some inside => exact .some ⟨rfl, inside⟩

/-- Expressions that are the same but for the order of keys have values that are. -/
private theorem sameEval_of_reordered {node node' : Value} (reordered : node.Reordered node') :
    SameEval read read node node' := by
  have reads (path : String) : Value.BothReordered (read path) (read path) :=
    rel_refl .refl _
  induction reordered with
  | refl node => exact sameEval_of_reads reads node
  | @swap front back first second differ =>
    have alike : Fields.Alike (front ++ first :: second :: back)
        (front ++ second :: first :: back) := .swap front back differ
    refine sameEval_mapping (alike.text?_eq "var") reads ?_ ?_
    · rw [parts?_eq_bind, parts?_eq_bind, Keyed.get?_swap front back differ]
    · simp only [evalFields_eq_filterMap, List.filterMap_append, List.filterMap_cons]
      cases eval? read first.2 <;> cases eval? read second.2
      case some.some => exact .swap _ _ differ
      all_goals exact .refl _
  | @entry front back key inner inner' inside ih =>
    have alike : Fields.Alike (front ++ (key, inner) :: back) (front ++ (key, inner') :: back) :=
      .entry front back key inside
    refine sameEval_mapping (alike.text?_eq "var") reads ?_ ?_
    · rw [parts?_eq_bind, parts?_eq_bind, Keyed.get?_append, Keyed.get?_append, Keyed.get?,
        Keyed.get?]
      split
      · rfl
      · split
        · exact ih.parts
        · rfl
    · simp only [evalFields_eq_filterMap, List.filterMap_append, List.filterMap_cons]
      have values := ih.value
      generalize eval? read inner = found, eval? read inner' = found' at values
      cases values with
      | none => exact .refl _
      | some inside => exact .entry _ _ key inside
  | @item front back inner inner' inside ih =>
    refine ⟨?_, ?_⟩
    · simp only [eval?, evalItems_eq_filterMap, List.filterMap_append, List.filterMap_cons]
      have values := ih.value
      generalize eval? read inner = found, eval? read inner' = found' at values
      cases values with
      | none => exact .some (.refl _)
      | some inside => exact .some (.item _ _ inside)
    · simp only [partsIn?, evalTexts_eq_map, List.map_append, List.map_cons,
        Value.Reordered.asText_eq ih.value]
  | trans _ _ left right =>
    exact ⟨Value.Reordered.both_trans left.value right.value, left.parts.trans right.parts⟩

end

variable {data data' : Fields} {node node' : Value}

/-- Reading by the text of a path answers alike. -/
theorem reader_rel (alike : data.Alike data') (path : String) :
    Value.BothReordered (reader data path) (reader data' path) :=
  Value.Reordered.at? alike (Path.ofText path)

theorem eval?_rel (alike : data.Alike data') (reordered : node.Reordered node') :
    Value.BothReordered (eval? (reader data) node) (eval? (reader data') node') :=
  Value.Reordered.both_trans (sameEval_of_reads (reader_rel alike) node).value
    (sameEval_of_reordered reordered).value

theorem evaluate_rel (alike : data.Alike data') (reordered : node.Reordered node') :
    (evaluate (reader data) node).Reordered (evaluate (reader data') node') := by
  have values := eval?_rel alike reordered
  rw [evaluate, evaluate]
  generalize eval? (reader data) node = found, eval? (reader data') node' = found' at values
  cases values with
  | none => exact .refl .null
  | some inside => exact inside

end Expression

/-- The same instruction but for the order of keys in what it holds. The reason why a node is no
action is the very same. -/
inductive Instruction.Reordered : Instruction → Instruction → Prop
  | append (path : String) {value value' : Value} (inside : value.Reordered value') :
      Reordered (.append path value) (.append path value')
  | set (path : String) {value value' : Value} (inside : value.Reordered value') :
      Reordered (.set path value) (.set path value')
  | command (name : String) {params params' : Fields} (alike : params.Alike params') :
      Reordered (.command name params) (.command name params')
  | unrecognized (reason : String) {node node' : Value} (inside : node.Reordered node') :
      Reordered (.unrecognized reason node) (.unrecognized reason node')

/-- The same action but for the order of keys in what its instructions hold. -/
inductive Action.Reordered : Action → Action → Prop
  | single {instruction instruction' : Instruction} (inside : instruction.Reordered instruction') :
      Reordered (.single instruction) (.single instruction')
  | sequence {steps steps' : List Action} (each : List.Forall₂ Reordered steps steps') :
      Reordered (.sequence steps) (.sequence steps')

namespace Action

variable {fields fields' : Fields}

/-- The keys that a reason lists are sorted, so their order in the mapping does not show. -/
theorem noShape_eq (alike : fields.Alike fields') : noShape fields = noShape fields' := by
  have sorted (keys : List String) :
      (keys.mergeSort (· ≤ ·)).Pairwise fun one other : String => one ≤ other := by
    have ordered : (keys.mergeSort fun one other : String => decide (one ≤ other)).Pairwise
        fun one other => decide (one ≤ other) = true := by
      refine List.pairwise_mergeSort (fun one other third => ?_) (fun one other => ?_) keys
      · simpa using String.le_trans
      · simpa using String.le_total one other
    simpa using ordered
  have perm : ((Keyed.keys fields).mergeSort (· ≤ ·)).Perm
      ((Keyed.keys fields').mergeSort (· ≤ ·)) :=
    (List.mergeSort_perm _ _).trans (alike.keys_perm.trans (List.mergeSort_perm _ _).symm)
  have same : (Keyed.keys fields).mergeSort (· ≤ ·) = (Keyed.keys fields').mergeSort (· ≤ ·) := by
    refine List.Perm.eq_of_pairwise ?_ (sorted _) (sorted _) perm
    intro one other _ _
    exact String.le_antisymm
  unfold noShape
  rw [same]

theorem assignment?_rel (alike : fields.Alike fields') (key : String) :
    Option.Rel (fun one other : String × Value => one.1 = other.1 ∧ one.2.Reordered other.2)
      (assignment? fields key) (assignment? fields' key) := by
  refine rel_bind (rel_bind (alike.get? key) fun _ _ reordered => reordered.mapping?_rel) ?_
  intro body body' bodies
  rw [bodies.text?_eq "var"]
  refine rel_bind (rel_refl (fun _ => rfl) _) ?_
  rintro path _ rfl
  refine rel_bind (bodies.get? "value") fun value value' reordered => ?_
  exact .some ⟨rfl, reordered⟩

theorem instruction_rel (alike : fields.Alike fields') :
    (instruction fields).Reordered (instruction fields') := by
  have sets := assignment?_rel alike "set"
  rw [instruction, instruction]
  generalize assignment? fields "set" = set, assignment? fields' "set" = set' at sets
  cases sets with
  | @some set set' same =>
    obtain ⟨path, value⟩ := set
    obtain ⟨_, value'⟩ := set'
    obtain ⟨rfl, inside⟩ := same
    exact .set path inside
  | none =>
    rw [alike.text?_eq "action"]
    cases fields'.text? "action" with
    | some name => exact .command name (alike.mappingAt "params")
    | none =>
      rw [noShape_eq alike, mentionsAssignment, mentionsAssignment, alike.contains_eq "append",
        alike.contains_eq "set"]
      exact .unrecognized _ alike

theorem stepsIn?_eq_map (node : Value) : stepsIn? node = node.list?.map ofNodes := by
  cases node <;> rfl

theorem steps?_eq_bind (fields : Fields) :
    steps? fields = (Keyed.get? fields "sequence").bind stepsIn? := by
  rw [steps?_eq, Option.map_bind]
  exact congrArg _ (funext fun node => (stepsIn?_eq_map node).symm)

/-- What two nodes describe is the same but for the order of keys, as an action and as the steps of
a sequence. -/
private structure SameNode (node node' : Value) : Prop where
  action : (ofNode node).Reordered (ofNode node')
  steps : Option.Rel (List.Forall₂ Reordered) (stepsIn? node) (stepsIn? node')

private theorem sameNode_of_unmapped {node node' : Value} (reordered : node.Reordered node')
    (unmapped : node.mapping? = none)
    (steps : Option.Rel (List.Forall₂ Reordered) (stepsIn? node) (stepsIn? node')) :
    SameNode node node' where
  action := by
    have plain {node : Value} (unmapped : node.mapping? = none) :
        ofNode node = .single (.unrecognized (notMapping node) node) := by
      cases node with
      | mapping _ => cases unmapped
      | _ => simp only [ofNode]
    have unmapped' : node'.mapping? = none := by
      have rel := reordered.mapping?_rel
      rw [unmapped] at rel
      cases found : node'.mapping? with
      | none => rfl
      | some fields =>
        rw [found] at rel
        cases rel
    have reason : notMapping node = notMapping node' := by
      unfold notMapping
      rw [reordered.typeName_eq]
    rw [plain unmapped, plain unmapped', reason]
    exact .single (.unrecognized _ reordered)
  steps := steps

private theorem sameNode_of_reordered {node node' : Value} (reordered : node.Reordered node') :
    SameNode node node' := by
  induction node using Value.inductionOn generalizing node' with
  | plain node notList notMapping =>
    refine sameNode_of_unmapped reordered notMapping ?_
    have lists := reordered.list?_rel
    rw [notList] at lists
    rw [stepsIn?_eq_map, stepsIn?_eq_map, notList]
    generalize node'.list? = found at lists
    cases lists
    exact .none
  | list items ih =>
    refine sameNode_of_unmapped reordered rfl ?_
    have lists := reordered.list?_rel
    cases node' with
    | list items' =>
      cases lists with
      | some each =>
        rw [stepsIn?, stepsIn?, ofNodes_eq_map, ofNodes_eq_map]
        refine .some ?_
        clear reordered
        induction each with
        | nil => exact .nil
        | cons here _ rest =>
          rw [List.forall_mem_cons] at ih
          exact .cons (ih.1 here).action (rest ih.2)
    | _ => cases lists
  | mapping fields ih =>
    cases node' with
    | mapping fields' =>
      have alike : fields.Alike fields' := reordered
      have steps : Option.Rel (List.Forall₂ Reordered) (steps? fields) (steps? fields') := by
        have both := alike.get? "sequence"
        rw [steps?_eq_bind, steps?_eq_bind]
        cases found : Keyed.get? fields "sequence" with
        | none =>
          rw [found] at both
          generalize Keyed.get? fields' "sequence" = found' at both
          cases both
          exact .none
        | some node =>
          rw [found] at both
          generalize Keyed.get? fields' "sequence" = found' at both
          cases both with
          | some inside => exact (ih _ node (Keyed.mem_of_get? found) inside).steps
      refine ⟨?_, .none⟩
      have appends := assignment?_rel alike "append"
      rw [ofNode, ofNode]
      generalize assignment? fields "append" = append, assignment? fields' "append" = append'
        at appends
      cases appends with
      | @some append append' same =>
        obtain ⟨path, value⟩ := append
        obtain ⟨_, value'⟩ := append'
        obtain ⟨rfl, inside⟩ := same
        exact .single (.append path inside)
      | none =>
        generalize steps? fields = found, steps? fields' = found' at steps
        cases steps with
        | some each => exact .sequence each
        | none => exact .single (instruction_rel alike)
    | _ => cases reordered.mapping?_rel

/-- Nodes that are the same but for the order of keys describe actions that are. -/
theorem ofNode_rel {node node' : Value} (reordered : node.Reordered node') :
    (ofNode node).Reordered (ofNode node') :=
  (sameNode_of_reordered reordered).action

mutual

theorem Reordered.instructions : (action action' : Action) → action.Reordered action' →
    List.Forall₂ Instruction.Reordered action.instructions action'.instructions
  | .single _, _, .single inside => .cons inside .nil
  | .sequence steps, _, .sequence each => instructionsOf_rel steps _ each

theorem instructionsOf_rel : (steps steps' : List Action) → List.Forall₂ Reordered steps steps' →
    List.Forall₂ Instruction.Reordered (instructionsOf steps) (instructionsOf steps')
  | [], _, .nil => .nil
  | step :: rest, _, .cons here each =>
    List.rel_append (Reordered.instructions step _ here) (instructionsOf_rel rest _ each)

end

end Action

/-- The same effect but for the order of keys in what it writes. A command that is sent is the very
same, and the notice of an effect that is skipped may show the order. -/
inductive Effect.Reordered : Effect → Effect → Prop
  | write (path : String) {value value' : Value} (inside : value.Reordered value') :
      Reordered (.write path value) (.write path value')
  | send (command : Command) : Reordered (.send command) (.send command)
  | skip (notice notice' : Notice) : Reordered (.skip notice) (.skip notice')

namespace Effect

variable {data data' : Fields} (alertTitle : String) (routed : Bool)

theorem Reordered.refl (effect : Effect) : effect.Reordered effect := by
  cases effect with
  | write path value => exact .write path (.refl value)
  | send command => exact .send command
  | skip notice => exact .skip notice notice

theorem ofCommand_eq (alike : data.Alike data') (name : String) {params params' : Fields}
    (same : params.Alike params') :
    ofCommand alertTitle routed (Expression.reader data) name params =
      ofCommand alertTitle routed (Expression.reader data') name params' := by
  have routes (name : String) (command : String → Command) :
      routeTo routed name params command = routeTo routed name params' command := by
    rw [routeTo, routeTo, same.text?_eq "screen"]
  have message : alertMessage (Expression.reader data) params =
      alertMessage (Expression.reader data') params' :=
    Value.Reordered.asText_eq
      (rel_bind (same.get? "message") fun _ _ inside => Expression.eval?_rel alike inside)
  unfold ofCommand
  simp only [routes, message]

theorem ofAppend_rel (alike : data.Alike data') (path : String) {value value' : Value}
    (reordered : value.Reordered value') :
    (ofAppend (Expression.reader data) path value).Reordered
      (ofAppend (Expression.reader data') path value') := by
  have entries := reordered.mapping?_rel
  cases value with
  | mapping entry =>
    cases value' with
    | mapping entry' =>
      have lists := rel_bind (Expression.reader_rel alike path) fun _ _ inside => inside.list?_rel
      rw [ofAppend, ofAppend]
      generalize (Expression.reader data path).bind Value.list? = list,
        (Expression.reader data' path).bind Value.list? = list' at lists
      refine .write path (.list (List.rel_append ?_ (.cons reordered .nil)))
      cases lists with
      | none => exact .nil
      | some each => exact each
    | _ => cases entries
  | _ =>
    cases value' with
    | mapping entry' => cases entries
    | _ => exact .skip _ _

/-- An instruction has the same effect but for the order of keys. -/
theorem ofInstruction_rel (alike : data.Alike data') {instruction instruction' : Instruction}
    (reordered : instruction.Reordered instruction') :
    (ofInstruction alertTitle routed (Expression.reader data) instruction).Reordered
      (ofInstruction alertTitle routed (Expression.reader data') instruction') := by
  cases reordered with
  | append path inside => exact ofAppend_rel alike path (Expression.evaluate_rel alike inside)
  | set path inside => exact .write path (Expression.evaluate_rel alike inside)
  | command name same =>
    rw [ofInstruction, ofInstruction, ofCommand_eq alertTitle routed alike name same]
    exact .refl _
  | unrecognized reason inside => exact .skip _ _

theorem write?_rel {effect effect' : Effect} (reordered : effect.Reordered effect') :
    Option.Rel (fun entry entry' : Path × Value => entry.1 = entry'.1 ∧
      entry.2.Reordered entry'.2) effect.write? effect'.write? := by
  cases reordered with
  | write path inside => exact .some ⟨rfl, inside⟩
  | send | skip => exact .none

theorem writesOf_rel {effects effects' : List Effect}
    (each : List.Forall₂ Reordered effects effects') :
    List.Forall₂ (fun entry entry' : Path × Value => entry.1 = entry'.1 ∧
      entry.2.Reordered entry'.2) (writesOf effects) (writesOf effects') :=
  List.rel_filterMap (fun _ _ here => write?_rel here) each

/-- Instructions have the same effects but for the order of keys, each on the data that those before
it leave. -/
theorem ofInstructions_rel (alike : data.Alike data')
    {instructions instructions' : List Instruction}
    (each : List.Forall₂ Instruction.Reordered instructions instructions') :
    List.Forall₂ Reordered (ofInstructions alertTitle routed data instructions)
      (ofInstructions alertTitle routed data' instructions') := by
  induction each generalizing data data' with
  | nil => exact .nil
  | cons here _ ih =>
    have effect := ofInstruction_rel alertTitle routed alike here
    refine .cons effect (ih (alike.writeAll ?_))
    rw [← writesOf_singleton, ← writesOf_singleton]
    exact writesOf_rel (.cons effect .nil)

theorem entries_eq (router : Option RouterId) {effects effects' : List Effect}
    (each : List.Forall₂ Reordered effects effects') :
    effects.filterMap (Effect.entry? router) = effects'.filterMap (Effect.entry? router) := by
  induction each with
  | nil => rfl
  | cons here _ ih =>
    cases here with
    | write | skip => exact ih
    | send command => simp only [List.filterMap_cons, Effect.entry?, ih]

end Effect

/-- The order of keys in a node and in the data of a scope decides nothing. Nodes that are the same
but for that order describe actions that are, with the very same reasons; on data that are the same
but for that order they have values that are, or both none; and their actions both succeed, leave
such data and send the same commands, where nobody listens. -/
theorem Eff.execute_of_reordered (host : Host H) (scope : ScopeId) (router : Option RouterId)
    {node node' : Value} (nodes : node.Reordered node') {world world' : World H}
    (data : (world.data scope).Alike (world'.data scope))
    (queue : world.channel.queue = world'.channel.queue)
    (title : world.alertTitle = world'.alertTitle)
    (unheard : (world.scopes.get scope).listeners = [])
    (unheard' : (world'.scopes.get scope).listeners = []) :
    (∃ last last', execute host scope router (Action.ofNode node) world = .ok () last ∧
        execute host scope router (Action.ofNode node') world' = .ok () last' ∧
        (last.data scope).Alike (last'.data scope) ∧ last.channel.queue = last'.channel.queue) ∧
      Value.BothReordered (Expression.eval? (world.reader scope) node)
        (Expression.eval? (world'.reader scope) node') ∧
      (Expression.evaluate (world.reader scope) node).Reordered
        (Expression.evaluate (world'.reader scope) node') ∧
      (Action.ofNode node).Reordered (Action.ofNode node') := by
  have actions := Action.ofNode_rel nodes
  refine ⟨?_, Expression.eval?_rel data nodes, Expression.evaluate_rel data nodes, actions⟩
  obtain ⟨last, ran, underwent⟩ := execute_of_unheard host router (Action.ofNode node) unheard
  obtain ⟨last', ran', underwent'⟩ := execute_of_unheard host router (Action.ofNode node') unheard'
  have effects := Effect.ofInstructions_rel world.alertTitle router.isSome data
    (Action.Reordered.instructions _ _ actions)
  rw [← title] at underwent'
  refine ⟨last, last', ran, ran', ?_, ?_⟩
  · rw [underwent.data, underwent'.data]
    exact data.writeAll (Effect.writesOf_rel effects)
  · rw [underwent.queue, underwent'.queue, queue, Effect.entries_eq router effects]

/-- Keeps a visit, greets the visitor, and has a step that is no action. -/
private def visit : Value :=
  .mapping [("sequence", .list [
    .mapping [("append", .mapping [("var", .text "log"),
      ("value", .mapping [("who", .text "$name"), ("at", .mapping [("var", .text "place")])])])],
    .mapping [("action", .text "showAlert"), ("params", .mapping [("message", .text "Oi $name")])],
    .mapping [("zeta", .int 1), ("alpha", .int 2)]])]

/-- The same node with all its mappings the other way round. -/
private def visitTurned : Value :=
  .mapping [("sequence", .list [
    .mapping [("append", .mapping [
      ("value", .mapping [("at", .mapping [("var", .text "place")]), ("who", .text "$name")]),
      ("var", .text "log")])],
    .mapping [("params", .mapping [("message", .text "Oi $name")]), ("action", .text "showAlert")],
    .mapping [("alpha", .int 2), ("zeta", .int 1)]])]

private def hall : Fields :=
  [("name", .text "Ana"), ("place", .mapping [("room", .int 3), ("floor", .int 1)])]

private def hallTurned : Fields :=
  [("place", .mapping [("floor", .int 1), ("room", .int 3)]), ("name", .text "Ana")]

private theorem visit_reordered : visit.Reordered visitTurned := by
  have value : Value.Reordered
      (.mapping [("who", .text "$name"), ("at", .mapping [("var", .text "place")])])
      (.mapping [("at", .mapping [("var", .text "place")]), ("who", .text "$name")]) :=
    .swap [] [] (by decide)
  have append : Value.Reordered
      (.mapping [("var", .text "log"),
        ("value", .mapping [("who", .text "$name"), ("at", .mapping [("var", .text "place")])])])
      (.mapping [
        ("value", .mapping [("at", .mapping [("var", .text "place")]), ("who", .text "$name")]),
        ("var", .text "log")]) :=
    .trans (.entry [("var", .text "log")] [] "value" value) (.swap [] [] (by decide))
  refine .entry [] [] "sequence" (.list (.cons (.entry [] [] "append" append) ?_))
  exact .cons (.swap [] [] (by decide)) (.cons (.swap [] [] (by decide)) .nil)

private theorem hall_alike : hall.Alike hallTurned := by
  have place : Value.Reordered (.mapping [("room", .int 3), ("floor", .int 1)])
      (.mapping [("floor", .int 1), ("room", .int 3)]) := .swap [] [] (by decide)
  exact .trans (.entry [("name", .text "Ana")] [] "place" place)
    (Fields.Alike.of_perm (.swap _ _ _) (by decide))

/-- The world of a hall. -/
private def within (data : Fields) : World Unit :=
  .initial data "Alerta" [] ()

/-- Both keep the visit and send the same greeting. -/
theorem Eff.execute_of_reordered_visit :
    visit.Reordered visitTurned ∧
      ((within hall).data Scopes.main).Alike ((within hallTurned).data Scopes.main) ∧
      ∃ last last',
        execute .calm Scopes.main none (Action.ofNode visit) (within hall) = .ok () last ∧
        execute .calm Scopes.main none (Action.ofNode visitTurned) (within hallTurned) =
          .ok () last' ∧
        (last.data Scopes.main).Alike (last'.data Scopes.main) ∧
        last.channel.queue = [.command ⟨.showAlert "Alerta" "Oi Ana", none⟩] ∧
        last'.channel.queue = last.channel.queue := by
  have data : ((within hall).data Scopes.main).Alike ((within hallTurned).data Scopes.main) :=
    hall_alike
  obtain ⟨⟨last, last', ran, ran', left, queue⟩, -⟩ :=
    execute_of_reordered .calm Scopes.main none visit_reordered data rfl rfl rfl rfl
  have sent : (after (execute .calm Scopes.main none (Action.ofNode visit))
      (within hall)).channel.queue = [.command ⟨.showAlert "Alerta" "Oi Ana", none⟩] := rfl
  rw [after_of_ok ran] at sent
  exact ⟨visit_reordered, data, last, last', ran, ran', left, sent, queue.symm⟩

end ScreenScript
