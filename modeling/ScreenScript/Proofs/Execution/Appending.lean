import ScreenScript.Proofs.Execution.Independence

/-! # No entry of a list is lost

An append reads the list at its path, puts a mapping behind its items and writes the list back. In a
run of actions all else that is written may be apart from the path; then every mapping that the
appends yield is found at the end, once and in the order of execution, behind the items that the
list had at the start. It does not matter how the path is spelled, what stood there before, or
whether an entry itself reads the list. An append whose expression yields no mapping adds nothing,
and the steps behind it are executed all the same. What listeners do is not covered.
-/

namespace ScreenScript

variable {H : Type}

namespace Instruction

/-- Whether the instruction is an append to a path. It counts to which keys its text leads, and not
how it spells them. -/
def AppendsTo (target : Path) : Instruction → Prop
  | .append path _ => Path.ofText path = target
  | _ => False

/-- The mapping that the instruction appends to the list at a path, if it appends one there. -/
def entry? (read : String → Option Value) (target : Path) : Instruction → Option Fields
  | .append path node =>
    if Path.ofText path = target then (Expression.evaluate read node).mapping? else none
  | _ => none

theorem entry?_of_not {read : String → Option Value} {target : Path} {instruction : Instruction}
    (elsewhere : ¬instruction.AppendsTo target) : instruction.entry? read target = none := by
  cases instruction with
  | append path node => exact if_neg elsewhere
  | _ => rfl

end Instruction

/-- What is found at a path after mappings were appended to what was found there. What is no list
gives way to one, but only when there is something to append. -/
def Value.extended (found : Option Value) (entries : List Fields) : Option Value :=
  if entries = [] then found
  else some (.list ((found.bind Value.list?).getD [] ++ entries.map .mapping))

theorem Value.extended_append (found : Option Value) (early late : List Fields) :
    extended (extended found early) late = extended found (early ++ late) := by
  by_cases first : early = []
  · rw [first, List.nil_append, extended, extended, if_pos rfl, extended]
  · by_cases second : late = []
    · rw [second, List.append_nil, extended, if_pos rfl]
    · have both : early ++ late ≠ [] := fun empty => first (List.append_eq_nil_iff.mp empty).1
      simp only [extended, if_neg first, if_neg second, if_neg both, List.map_append,
        ← List.append_assoc]
      rfl

/-- If the effect of an instruction is a write, it leaves alone what is at a path, or else the
instruction is an append to the list there. A write to the path without a key is none. -/
def Effect.AppendsAtMost (target : Path) (instruction : Instruction) (effect : Effect) : Prop :=
  ∀ written ∈ effect.write?, written.1 = [] ∨ written.1.Apart target ∨
    instruction.AppendsTo target

private theorem at?_writeAll_apart (fields : Fields) {target : Path} {writes : List (Path × Value)}
    (apart : ∀ written ∈ writes, written.1 = [] ∨ written.1.Apart target) :
    (fields.writeAll writes).at? target = fields.at? target := by
  induction writes generalizing fields with
  | nil => rfl
  | cons written rest ih =>
    obtain ⟨here, later⟩ := List.forall_mem_cons.mp apart
    refine (ih (fields.write written.1 written.2) later).trans ?_
    rcases here with nowhere | beside
    · rw [nowhere, Fields.write]
    · exact Fields.at?_write_beside fields written.1 target written.2 beside.ahead beside.behind

/-- One instruction extends what is found at a path by the mapping that it appends there. -/
theorem Instruction.at?_of_appendsAtMost {alertTitle : String} {routed : Bool} {data : Fields}
    {target : Path} {instruction : Instruction} (keyed : target ≠ [])
    (atMost : Effect.AppendsAtMost target instruction
      (Effect.ofInstruction alertTitle routed (Expression.reader data) instruction)) :
    (data.writeAll (Effect.ofInstruction alertTitle routed (Expression.reader data)
      instruction).write?.toList).at? target =
      Value.extended (data.at? target)
        (instruction.entry? (Expression.reader data) target).toList := by
  by_cases appends : instruction.AppendsTo target
  · cases instruction with
    | append path node =>
      have here : Path.ofText path = target := appends
      rw [Effect.ofInstruction, Instruction.entry?, if_pos here]
      cases Expression.evaluate (Expression.reader data) node with
      | mapping entry =>
        obtain ⟨key, rest, cut⟩ := List.exists_cons_of_ne_nil keyed
        have read : Expression.reader data path = data.at? target := by
          rw [Expression.reader, here]
        rw [Effect.ofAppend, read, Effect.write?, here, cut]
        exact Fields.at?_write data key rest _
      | _ => rfl
    | _ => exact appends.elim
  · rw [Instruction.entry?_of_not appends]
    refine at?_writeAll_apart data fun written member => ?_
    rcases atMost written (Option.mem_toList.mp member) with nowhere | apart | append
    · exact .inl nowhere
    · exact .inr apart
    · exact absurd append appends

/-- A step of a run at its moment: an instruction, the router that it is executed with, and the
world as all steps before it have left it. -/
structure Moment (H : Type) where
  router : Option RouterId
  instruction : Instruction
  world : World H

namespace Moment

def effect (scope : ScopeId) (moment : Moment H) : Effect :=
  Effect.ofInstruction moment.world.alertTitle moment.router.isSome (moment.world.reader scope)
    moment.instruction

/-- The mapping that the step appends to the list at a path, as the data of its moment yield it. -/
def entry? (scope : ScopeId) (target : Path) (moment : Moment H) : Option Fields :=
  moment.instruction.entry? (moment.world.reader scope) target

end Moment

namespace Eff

/-- Executes actions one after another, each with a router of its own or with none. -/
def executeRun (host : Host H) (scope : ScopeId) : List (Option RouterId × Action) → Eff H Unit
  | [] => return ()
  | (router, action) :: rest => do
    execute host scope router action
    executeRun host scope rest

/-- The instructions of a run in the order of execution, however they are nested. -/
def stepsOf (run : List (Option RouterId × Action)) : List (Option RouterId × Instruction) :=
  run.flatMap fun entry => entry.2.instructions.map fun instruction => (entry.1, instruction)

/-- The moments of steps that are executed one after another. -/
def moments (host : Host H) (scope : ScopeId) :
    List (Option RouterId × Instruction) → World H → List (Moment H)
  | [], _ => []
  | (router, instruction) :: rest, world =>
    ⟨router, instruction, world⟩ ::
      moments host scope rest (after (executeInstruction host scope router instruction) world)

/-- What a run writes can be told before it is executed, as far as each instruction writes to no
path but its own. -/
theorem atMost_of_writes (host : Host H) (scope : ScopeId) {target : Path}
    {steps : List (Option RouterId × Instruction)} (world : World H)
    (static : ∀ step ∈ steps, ∀ path ∈ step.2.writes, Path.ofText path = [] ∨
      (Path.ofText path).Apart target ∨ step.2.AppendsTo target) :
    ∀ moment ∈ moments host scope steps world,
      (moment.effect scope).AppendsAtMost target moment.instruction := by
  induction steps generalizing world with
  | nil => exact List.forall_mem_nil _
  | cons step rest ih =>
    obtain ⟨here, later⟩ := List.forall_mem_cons.mp static
    refine List.forall_mem_cons.mpr ⟨fun written member => ?_, ih _ later⟩
    obtain ⟨path, own, same⟩ := List.mem_map.mp (Effect.mem_writes_of_write? member)
    exact same ▸ here path own

/-- Executes instructions one after another, each with its router. -/
private def executeSteps (host : Host H) (scope : ScopeId) :
    List (Option RouterId × Instruction) → Eff H Unit
  | [] => return ()
  | (router, instruction) :: rest => do
    executeInstruction host scope router instruction
    executeSteps host scope rest

private theorem executeSteps_append (host : Host H) (scope : ScopeId) (router : Option RouterId)
    (instructions : List Instruction) (rest : List (Option RouterId × Instruction)) :
    executeSteps host scope (instructions.map (fun instruction => (router, instruction)) ++ rest) =
      (do follow host scope router (instructions.map .step); executeSteps host scope rest) := by
  induction instructions with
  | nil => rfl
  | cons instruction others ih =>
    rw [List.map_cons, List.cons_append, executeSteps, ih, List.map_cons, follow, bind_assoc]

/-- A run takes its steps, one after another. -/
private theorem executeRun_eq_executeSteps (host : Host H) (scope : ScopeId)
    (run : List (Option RouterId × Action)) :
    executeRun host scope run = executeSteps host scope (stepsOf run) := by
  induction run with
  | nil => rfl
  | cons entry rest ih =>
    obtain ⟨router, action⟩ := entry
    rw [executeRun, ih, execute_eq_follow]
    exact (executeSteps_append host scope router action.instructions (stepsOf rest)).symm

/-- What the first step appends comes before what the others do. -/
private theorem filterMap_moments_cons (host : Host H) (scope : ScopeId) (target : Path)
    (router : Option RouterId) (instruction : Instruction)
    (rest : List (Option RouterId × Instruction)) (world : World H) :
    (moments host scope ((router, instruction) :: rest) world).filterMap
        (Moment.entry? scope target) =
      (instruction.entry? (world.reader scope) target).toList ++
        (moments host scope rest
          (after (executeInstruction host scope router instruction) world)).filterMap
            (Moment.entry? scope target) := by
  rw [moments, List.filterMap_cons, Moment.entry?]
  cases instruction.entry? (world.reader scope) target <;> rfl

/-- Steps extend what is found at a path by the mappings that they append there. -/
private theorem exists_extended (host : Host H) {scope : ScopeId} {target : Path}
    (keyed : target ≠ []) (steps : List (Option RouterId × Instruction)) {world : World H}
    (unheard : (world.scopes.get scope).listeners = [])
    (atMost : ∀ moment ∈ moments host scope steps world,
      (moment.effect scope).AppendsAtMost target moment.instruction) :
    ∃ last, executeSteps host scope steps world = .ok () last ∧
      (last.data scope).at? target = Value.extended ((world.data scope).at? target)
        ((moments host scope steps world).filterMap (Moment.entry? scope target)) := by
  induction steps generalizing world with
  | nil => exact ⟨world, rfl, rfl⟩
  | cons step rest ih =>
    obtain ⟨router, instruction⟩ := step
    obtain ⟨here, later⟩ := List.forall_mem_cons.mp atMost
    obtain ⟨next, performed, underwent⟩ := perform_of_unheard host router
      (Effect.ofInstruction world.alertTitle router.isSome (world.reader scope) instruction)
      unheard
    have executed : executeInstruction host scope router instruction world = .ok () next :=
      performed
    have grown : (next.data scope).at? target =
        Value.extended ((world.data scope).at? target)
          (instruction.entry? (world.reader scope) target).toList := by
      rw [underwent.data, Effect.writesOf_singleton]
      exact Instruction.at?_of_appendsAtMost keyed here
    rw [after_of_ok executed] at later
    obtain ⟨last, ran, found⟩ := ih underwent.unheard later
    refine ⟨last, ?_, ?_⟩
    · rw [executeSteps, bind_of_ok executed, ran]
    · rw [found, grown, Value.extended_append, filterMap_moments_cons, after_of_ok executed]

/-- A run of actions in a scope that nobody listens to, in which all writes to a path with a key, on
the way to it or behind it are made by appends to that very path. It returns, and the list there has
gained the mappings that these appends yielded, each at its moment, in the order of execution and
behind the items that it had. Without any such mapping all is at the path as it was. -/
theorem executeRun_of_appends (host : Host H) (scope : ScopeId) (path : String)
    (keyed : Path.ofText path ≠ []) (run : List (Option RouterId × Action)) (world : World H)
    (unheard : (world.scopes.get scope).listeners = [])
    (atMost : ∀ moment ∈ moments host scope (stepsOf run) world,
      (moment.effect scope).AppendsAtMost (Path.ofText path) moment.instruction) :
    ∃ last entries, executeRun host scope run world = .ok () last ∧
      entries = (moments host scope (stepsOf run) world).filterMap
        (Moment.entry? scope (Path.ofText path)) ∧
      (entries ≠ [] → last.reader scope path =
        some (.list (((world.reader scope path).bind Value.list?).getD [] ++
          entries.map .mapping))) ∧
      (entries = [] → last.reader scope path = world.reader scope path) := by
  obtain ⟨last, ran, found⟩ := exists_extended host keyed (stepsOf run) unheard atMost
  refine ⟨last, _, ?_, rfl, fun some => ?_, fun none => ?_⟩
  · rw [executeRun_eq_executeSteps, ran]
  · exact found.trans (if_neg some)
  · exact found.trans (if_pos none)

/-- A shop in which a text stands where its list is going to be. -/
private def shop : World Unit :=
  .initial [("items", .text "none yet"), ("total", .int 0)] "Alerta" [] ()

/-- A visit to the shop, without a router and then with one. Of three appends to the list one yields
no mapping, and the last one reads the list. -/
private def visits : List (Option RouterId × Action) :=
  [(none, .sequence [.single (.append "items" (.mapping [("price", .int 4)])),
      .sequence [.single (.append "..items" (.int 5)),
        .single (.set "total" (.int 1))],
      .single (.set "" .null)]),
    (some World.mainRouter, .sequence [.single (.command "navigate" [("screen", .text "b")]),
      .single (.append "items." (.mapping [("before", .mapping [("var", .text "items")]),
        ("total", .mapping [("var", .text "total")])]))])]

private theorem visits_static : ∀ step ∈ stepsOf visits, ∀ path ∈ step.2.writes,
    Path.ofText path = [] ∨ (Path.ofText path).Apart ["items"] ∨
      step.2.AppendsTo ["items"] := by
  have total : Path.Apart ["total"] ["items"] := ⟨by decide, by decide⟩
  have one {path : String} {allowed : String → Prop} (here : allowed path) :
      ∀ other ∈ [path], allowed other := List.forall_mem_singleton.mpr here
  refine List.forall_mem_cons.mpr ⟨one (.inr (.inr rfl)), ?_⟩
  refine List.forall_mem_cons.mpr ⟨one (.inr (.inr rfl)), ?_⟩
  refine List.forall_mem_cons.mpr ⟨one (.inr (.inl total)), ?_⟩
  refine List.forall_mem_cons.mpr ⟨one (.inl rfl), ?_⟩
  refine List.forall_mem_cons.mpr ⟨List.forall_mem_nil _, ?_⟩
  exact List.forall_mem_singleton.mpr (one (.inr (.inr rfl)))

/-- The list that takes the place of the text has two mappings. The second one has the list as it
was with the first one alone, and the total as it was by then. -/
theorem executeRun_of_appends_shop :
    ∃ last, executeRun .calm Scopes.main visits shop = .ok () last ∧
      last.reader Scopes.main "items" =
        some (.list [.mapping [("price", .int 4)],
          .mapping [("before", .list [.mapping [("price", .int 4)]]), ("total", .int 1)]]) := by
  obtain ⟨last, entries, ran, appended, found, -⟩ :=
    executeRun_of_appends .calm Scopes.main "items" (by decide) visits shop rfl
      (atMost_of_writes .calm Scopes.main shop visits_static)
  have two : entries = [[("price", .int 4)],
      [("before", .list [.mapping [("price", .int 4)]]), ("total", .int 1)]] := by
    rw [appended]
    rfl
  refine ⟨last, ran, ?_⟩
  rw [found (by rw [two]; exact List.cons_ne_nil _ _), two]
  rfl

end Eff

end ScreenScript
