import ScreenScript.Proofs.Expression.Reads
import ScreenScript.Proofs.Path.Commutation
import ScreenScript.Proofs.Scheduling

/-! # Actions that do not interfere

What an instruction reads and where it writes can be told before it is executed: it reads what its
expression reads, and an append also reads the list that it extends. Two actions are independent
when what either writes is apart from all that the other reads or writes. They may then be executed
in either order: each has the same effects in both, so it sends the same commands, and the data end
up the same but for the order in which new keys came in. Nothing is said of actions whose paths
meet, nor of scopes that somebody listens to.
-/

namespace ScreenScript

variable {H : Type}

/-- The paths that an instruction reads, by their texts: those of the expression that it evaluates,
and the path that it appends to. Of the commands only the alert evaluates one. -/
def Instruction.reads : Instruction → List String
  | .append path value => path :: Expression.reads value
  | .set _ value => Expression.reads value
  | .command "showAlert" params =>
    (Keyed.get? params "message").elim [] Expression.reads
  | _ => []

/-- The paths that an instruction may write to, by their texts. -/
def Instruction.writes : Instruction → List String
  | .append path _ | .set path _ => [path]
  | _ => []

namespace Action

def reads (action : Action) : List String :=
  action.instructions.flatMap Instruction.reads

def writes (action : Action) : List String :=
  action.instructions.flatMap Instruction.writes

/-- What either of two actions writes is apart from all that the other reads or writes. -/
structure Independent (first second : Action) : Prop where
  forward : ∀ path ∈ first.writes, ∀ other ∈ second.reads ++ second.writes,
    (Path.ofText path).Apart (Path.ofText other)
  backward : ∀ path ∈ second.writes, ∀ other ∈ first.reads ++ first.writes,
    (Path.ofText path).Apart (Path.ofText other)

theorem Independent.symm {first second : Action} (independent : first.Independent second) :
    second.Independent first :=
  ⟨independent.backward, independent.forward⟩

end Action

namespace Effect

def write? : Effect → Option (Path × Value)
  | .write path value => some (Path.ofText path, value)
  | _ => none

/-- What an effect puts on the channel, for the given router. -/
def entry? (router : Option RouterId) : Effect → Option Entry
  | .send command => some (.command ⟨command, router⟩)
  | _ => none

/-- An effect depends on the data through what the instruction reads. -/
theorem ofInstruction_congr (alertTitle : String) (routed : Bool)
    {read read' : String → Option Value} (instruction : Instruction)
    (agree : Expression.AgreeOn read read' instruction.reads) :
    ofInstruction alertTitle routed read instruction =
      ofInstruction alertTitle routed read' instruction := by
  cases instruction with
  | append path value =>
    obtain ⟨target, expression⟩ := List.forall_mem_cons.mp agree
    rw [ofInstruction, ofInstruction, Expression.evaluate_congr value expression]
    cases Expression.evaluate read' value with
    | mapping entry => rw [ofAppend, ofAppend, target]
    | _ => rfl
  | set path value =>
    rw [ofInstruction, ofInstruction, Expression.evaluate_congr value agree]
  | unrecognized reason node => rfl
  | command name params =>
    by_cases alert : name = "showAlert"
    · subst alert
      have message : alertMessage read params = alertMessage read' params := by
        unfold alertMessage
        cases found : Keyed.get? params "message" with
        | none => rfl
        | some node =>
          simp only [Instruction.reads, found, Option.elim_some] at agree
          rw [Option.bind_some, Option.bind_some, Expression.eval?_congr node agree]
      change Effect.send (.showAlert alertTitle (alertMessage read params)) = _
      rw [message]
      rfl
    · -- No other command looks at the data.
      change ofCommand alertTitle routed read name params =
        ofCommand alertTitle routed read' name params
      unfold ofCommand
      split <;> first | rfl | exact absurd rfl alert

private theorem write?_route (routed : Bool) (name : String) (command : Command) :
    (route routed name command).write? = none := by
  unfold route
  split <;> rfl

private theorem write?_ofCommand (alertTitle : String) (routed : Bool)
    (read : String → Option Value) (name : String) (params : Fields) :
    (ofCommand alertTitle routed read name params).write? = none := by
  have routeTo (name : String) (command : String → Command) :
      (routeTo routed name params command).write? = none := by
    unfold Effect.routeTo
    split
    · exact write?_route routed name _
    · rfl
  unfold ofCommand
  split
  · exact routeTo _ _
  · exact write?_route routed _ _
  · rfl
  · exact routeTo _ _
  · exact write?_route routed _ _
  · exact routeTo _ _
  · rfl

/-- An instruction writes to no path but its own. -/
theorem mem_writes_of_write? {alertTitle : String} {routed : Bool}
    {read : String → Option Value} {instruction : Instruction} {entry : Path × Value}
    (written : (ofInstruction alertTitle routed read instruction).write? = some entry) :
    entry.1 ∈ instruction.writes.map Path.ofText := by
  cases instruction with
  | append path value =>
    rw [ofInstruction] at written
    cases evaluated : Expression.evaluate read value with
    | mapping fields =>
      rw [evaluated] at written
      cases written
      exact List.mem_singleton_self _
    | _ =>
      rw [evaluated] at written
      cases written
  | set path value =>
    cases written
    exact List.mem_singleton_self _
  | command name params =>
    rw [ofInstruction, write?_ofCommand] at written
    cases written
  | unrecognized reason node => cases written

/-- The effects of instructions one after another, each on the data that those before it leave. -/
def ofInstructions (alertTitle : String) (routed : Bool) : Fields → List Instruction → List Effect
  | _, [] => []
  | data, instruction :: rest =>
    let effect := ofInstruction alertTitle routed (Expression.reader data) instruction
    effect :: ofInstructions alertTitle routed (data.writeAll effect.write?.toList) rest

def writesOf (effects : List Effect) : List (Path × Value) :=
  effects.filterMap write?

theorem writesOf_singleton (effect : Effect) : writesOf [effect] = effect.write?.toList := by
  cases effect <;> rfl

theorem writesOf_cons (effect : Effect) (effects : List Effect) :
    writesOf (effect :: effects) = effect.write?.toList ++ writesOf effects := by
  cases effect <;> rfl

/-- Instructions write to no paths but their own. -/
theorem mem_writes_of_mem_writesOf (alertTitle : String) (routed : Bool) (data : Fields)
    (instructions : List Instruction) {entry : Path × Value}
    (member : entry ∈ writesOf (ofInstructions alertTitle routed data instructions)) :
    entry.1 ∈ (instructions.flatMap Instruction.writes).map Path.ofText := by
  induction instructions generalizing data with
  | nil => cases member
  | cons instruction rest ih =>
    rw [ofInstructions, writesOf_cons] at member
    rw [List.flatMap_cons, List.map_append]
    rcases List.mem_append.mp member with now | later
    · exact List.mem_append_left _ (mem_writes_of_write? (Option.mem_toList.mp now))
    · exact List.mem_append_right _ (ih _ later)

/-- Instructions have the same effects on data that agree apart from some paths, when all that they
read is apart from these. What they write themselves they find again on both. -/
theorem ofInstructions_congr (alertTitle : String) (routed : Bool) {written : List Path}
    {data data' : Fields} (agree : Fields.AgreeApart written data data')
    (instructions : List Instruction)
    (apart : ∀ path ∈ instructions.flatMap Instruction.reads, ∀ other ∈ written,
      other.Apart (Path.ofText path)) :
    ofInstructions alertTitle routed data instructions =
      ofInstructions alertTitle routed data' instructions := by
  induction instructions generalizing data data' with
  | nil => rfl
  | cons instruction rest ih =>
    rw [List.flatMap_cons] at apart
    obtain ⟨here, later⟩ := List.forall_mem_append.mp apart
    have same : ofInstruction alertTitle routed (Expression.reader data) instruction =
        ofInstruction alertTitle routed (Expression.reader data') instruction :=
      ofInstruction_congr alertTitle routed instruction fun path member =>
        agree (Path.ofText path) (here path member)
    simp only [ofInstructions, same]
    rw [ih (agree.writeAll _) later]

end Effect

namespace World

/-- From one world to the next the given effects came about in a scope, with the commands among
them sent for a router. Nobody listens to the scope. -/
structure Underwent (scope : ScopeId) (router : Option RouterId) (effects : List Effect)
    (world next : World H) : Prop where
  unheard : (next.scopes.get scope).listeners = []
  data : next.data scope = (world.data scope).writeAll (Effect.writesOf effects)
  queue : next.channel.queue =
    world.channel.queue ++ effects.filterMap (Effect.entry? router)
  title : next.alertTitle = world.alertTitle

theorem Underwent.cons {scope : ScopeId} {router : Option RouterId} {effect : Effect}
    {effects : List Effect} {world middle last : World H}
    (first : Underwent scope router [effect] world middle)
    (rest : Underwent scope router effects middle last) :
    Underwent scope router (effect :: effects) world last where
  unheard := rest.unheard
  data := by
    rw [rest.data, first.data, Effect.writesOf_singleton, Effect.writesOf_cons,
      Fields.writeAll_append]
  queue := by
    have one : effect :: effects = [effect] ++ effects := rfl
    rw [rest.queue, first.queue, one, List.filterMap_append, List.append_assoc]
  title := rest.title.trans first.title

end World

namespace Eff

open World

theorem perform_of_unheard (host : Host H) {scope : ScopeId} (router : Option RouterId)
    (effect : Effect) {world : World H} (unheard : (world.scopes.get scope).listeners = []) :
    ∃ next, perform host scope router effect world = .ok () next ∧
      Underwent scope router [effect] world next := by
  cases effect with
  | write path value =>
    have data := data_stored world scope scope path value
    rw [if_pos rfl] at data
    refine ⟨_, write_of_silent host unheard path value, ?_, data, ?_,
      alertTitle_stored world scope path value⟩
    · rw [listeners_stored, unheard]
    · rw [channel_stored]
      exact (List.append_nil _).symm
  | send command => exact ⟨_, rfl, unheard, rfl, rfl, rfl⟩
  | skip notice => exact ⟨_, rfl, unheard, rfl, (List.append_nil _).symm, rfl⟩

/-- Instructions executed in a scope that nobody listens to bring about their effects. -/
theorem follow_of_unheard (host : Host H) {scope : ScopeId} (router : Option RouterId)
    (instructions : List Instruction) {world : World H}
    (unheard : (world.scopes.get scope).listeners = []) :
    ∃ last, follow host scope router (instructions.map .step) world = .ok () last ∧
      Underwent scope router
        (Effect.ofInstructions world.alertTitle router.isSome (world.data scope) instructions)
        world last := by
  induction instructions generalizing world with
  | nil => exact ⟨world, rfl, unheard, rfl, (List.append_nil _).symm, rfl⟩
  | cons instruction rest ih =>
    obtain ⟨next, performed, first⟩ := perform_of_unheard host router
      (Effect.ofInstruction world.alertTitle router.isSome (world.reader scope) instruction)
      unheard
    have executed : executeInstruction host scope router instruction world = .ok () next :=
      performed
    obtain ⟨last, followed, others⟩ := ih first.unheard
    rw [first.data, first.title, Effect.writesOf_singleton] at others
    refine ⟨last, ?_, first.cons others⟩
    rw [List.map_cons, follow, bind_of_ok executed, followed]

theorem execute_of_unheard (host : Host H) {scope : ScopeId} (router : Option RouterId)
    (action : Action) {world : World H} (unheard : (world.scopes.get scope).listeners = []) :
    ∃ last, execute host scope router action world = .ok () last ∧
      Underwent scope router
        (Effect.ofInstructions world.alertTitle router.isSome (world.data scope)
          action.instructions) world last := by
  rw [execute_eq_follow]
  exact follow_of_unheard host router action.instructions unheard

/-- An action has the same effects after an independent one as before it. -/
private theorem effects_of_independent {first second : Action}
    (independent : first.Independent second)
    {scope : ScopeId} {router router' : Option RouterId} {world next : World H}
    (underwent : Underwent scope router
      (Effect.ofInstructions world.alertTitle router.isSome (world.data scope)
        first.instructions) world next) :
    Effect.ofInstructions next.alertTitle router'.isSome (next.data scope) second.instructions =
      Effect.ofInstructions world.alertTitle router'.isSome (world.data scope)
        second.instructions := by
  have agree : Fields.AgreeApart (first.writes.map Path.ofText) (world.data scope)
      (next.data scope) := by
    rw [underwent.data]
    exact Fields.agreeApart_writeAll _ fun entry member =>
      Effect.mem_writes_of_mem_writesOf _ _ _ _ member
  rw [underwent.title]
  symm
  refine Effect.ofInstructions_congr _ _ agree _ fun path member other written => ?_
  obtain ⟨text, known, rfl⟩ := List.mem_map.mp written
  exact independent.forward text known path (List.mem_append_left _ member)

/-- Independent actions may be executed in either order, in a scope that nobody listens to. Each of
them queues the same entries before the other one and after it, and the data are the same but for
the order of keys. -/
theorem execute_of_independent (host : Host H) (scope : ScopeId) (router : Option RouterId)
    (first second : Action) (independent : first.Independent second) (world : World H)
    (unheard : (world.scopes.get scope).listeners = []) :
    ∃ afterFirst afterBoth afterSecond afterBoth' sent sent',
      execute host scope router first world = .ok () afterFirst ∧
      execute host scope router second afterFirst = .ok () afterBoth ∧
      execute host scope router second world = .ok () afterSecond ∧
      execute host scope router first afterSecond = .ok () afterBoth' ∧
      (afterBoth.data scope).Reordered (afterBoth'.data scope) ∧
      afterFirst.channel.queue = world.channel.queue ++ sent ∧
      afterBoth.channel.queue = afterFirst.channel.queue ++ sent' ∧
      afterSecond.channel.queue = world.channel.queue ++ sent' ∧
      afterBoth'.channel.queue = afterSecond.channel.queue ++ sent := by
  obtain ⟨one, ran, underwent⟩ := execute_of_unheard host router first unheard
  obtain ⟨both, ranThen, underwentThen⟩ := execute_of_unheard host router second underwent.unheard
  obtain ⟨other, ran', underwent'⟩ := execute_of_unheard host router second unheard
  obtain ⟨both', ranThen', underwentThen'⟩ :=
    execute_of_unheard host router first underwent'.unheard
  rw [effects_of_independent independent underwent] at underwentThen
  rw [effects_of_independent independent.symm underwent'] at underwentThen'
  refine ⟨one, both, other, both', _, _, ran, ranThen, ran', ranThen', ?_, underwent.queue,
    underwentThen.queue, underwent'.queue, underwentThen'.queue⟩
  rw [underwentThen.data, underwent.data, underwentThen'.data, underwent'.data,
    ← Fields.writeAll_append, ← Fields.writeAll_append]
  refine Fields.reordered_writeAll_append _ fun entry member other member' => ?_
  obtain ⟨text, known, same⟩ :=
    List.mem_map.mp (Effect.mem_writes_of_mem_writesOf _ _ _ _ member)
  obtain ⟨text', known', same'⟩ :=
    List.mem_map.mp (Effect.mem_writes_of_mem_writesOf _ _ _ _ member')
  rw [← same, ← same']
  exact independent.forward text known text' (List.mem_append_right _ known')

/-- Keeps a visit in a list and greets the visitor. -/
private def keepVisit : Action :=
  .sequence [.single (.append "form.log" (.mapping [("name", .text "$who")])),
    .single (.command "showAlert" [("message", .text "Oi $who")])]

/-- Sets a total beside that list and opens a screen, with a step that is no action before. -/
private def setTotal : Action :=
  .sequence [.single (.unrecognized (Action.notMapping .null) .null),
    .sequence [.single (.set "form.total" (.int 1))],
    .single (.command "navigate" [("screen", .text "b")])]

/-- A visitor, and a text where the form is going to be. -/
private def visited : World Unit :=
  .initial [("form", .text "none yet"), ("who", .text "Ana")] "Alerta" [] ()

/-- The world after two actions. -/
private def visitedThen (first second : Action) : World Unit :=
  after (execute .calm Scopes.main (some World.mainRouter) second)
    (after (execute .calm Scopes.main (some World.mainRouter) first) visited)

private theorem keepVisit_independent : keepVisit.Independent setTotal := by
  have apart : Path.Apart ["form", "log"] ["form", "total"] := ⟨by decide, by decide⟩
  have who : Path.Apart ["form", "total"] ["who"] := ⟨by decide, by decide⟩
  constructor
  · intro path member other member'
    have here : path ∈ ["form.log"] := member
    have there : other ∈ ["form.total"] := member'
    rw [List.mem_singleton.mp here, List.mem_singleton.mp there]
    exact apart
  · intro path member other member'
    have here : path ∈ ["form.total"] := member
    have there : other ∈ ["form.log", "who", "who", "form.log"] := member'
    rw [List.mem_singleton.mp here]
    simp only [List.mem_cons, List.not_mem_nil, or_false] at there
    rcases there with rfl | rfl | rfl | rfl
    · exact apart.symm
    · exact who
    · exact who
    · exact apart.symm

/-- In either order a form takes the place of the text, with the list and the total in it. -/
theorem execute_of_independent_form :
    keepVisit.Independent setTotal ∧
      ((visitedThen keepVisit setTotal).data Scopes.main).Reordered
        ((visitedThen setTotal keepVisit).data Scopes.main) ∧
      ∃ sent sent',
        (after (execute .calm Scopes.main (some World.mainRouter) keepVisit)
          visited).channel.queue = sent ∧
        (after (execute .calm Scopes.main (some World.mainRouter) setTotal)
          visited).channel.queue = sent' ∧
        (visitedThen keepVisit setTotal).channel.queue = sent ++ sent' ∧
        (visitedThen setTotal keepVisit).channel.queue = sent' ++ sent := by
  obtain ⟨one, both, other, both', sent, sent', ran, ranThen, ran', ranThen', reordered, queue,
    queueThen, queue', queueThen'⟩ :=
    execute_of_independent .calm Scopes.main (some World.mainRouter) keepVisit setTotal
      keepVisit_independent visited rfl
  have ended : visitedThen keepVisit setTotal = both := by
    rw [visitedThen, after_of_ok ran, after_of_ok ranThen]
  have ended' : visitedThen setTotal keepVisit = both' := by
    rw [visitedThen, after_of_ok ran', after_of_ok ranThen']
  have empty : visited.channel.queue = [] := rfl
  rw [empty, List.nil_append] at queue queue'
  rw [queue] at queueThen
  rw [queue'] at queueThen'
  rw [ended, ended', after_of_ok ran, after_of_ok ran']
  exact ⟨keepVisit_independent, reordered, sent, sent', queue, queue', queueThen, queueThen'⟩

end Eff

end ScreenScript
