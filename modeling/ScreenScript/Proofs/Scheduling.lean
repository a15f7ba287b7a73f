import ScreenScript.Proofs.Outcome
import ScreenScript.Session

/-! # When commands are applied does not matter

Executing an action and applying the commands it sends touch different parts of a world. Execution
reads and writes the data of a scope and never looks at a router; applying a command moves a router
or shows an alert whose text was fixed when it was sent, and never looks at the data. So the queue
may be drained after every instruction, at the end, or anywhere between: the world ends as if each
command had been obeyed by the very instruction that issues it. That reference, `Stage.run`, has no
channel at all. A stage is what both of them work on; the stage to which a world is going to be
drained is an invariant of draining, and one instruction changes it as the reference says.
-/

namespace ScreenScript

variable {H : Type}

/-- What actions bring about, the channel aside: the data of one scope, the routers, and the
alerts that the presenter was given. -/
structure Stage where
  data : Fields
  routers : RouterId → Router
  alerts : List (Value × Value)

namespace Stage

/-- The stage after a move of a router, which stays as it is when it refuses. -/
def turn (stage : Stage) : Option RouterId → Move → Stage
  | none, _ => stage
  | some router, step =>
    { stage with
      routers := fun id =>
        if id = router then ((stage.routers router).move? step).getD (stage.routers router)
        else stage.routers id }

/-- The stage once a command has been obeyed. What is no command of the library asks for
nothing. -/
def obey (stage : Stage) (envelope : Envelope) : Stage :=
  match envelope.command with
  | .navigate screen => stage.turn envelope.router (.navigate (.text screen))
  | .navigateBack => stage.turn envelope.router .goBack
  | .reset screen => stage.turn envelope.router (.reset (.text screen))
  | .presentModal screen => stage.turn envelope.router (.presentModal (.text screen))
  | .dismissModal => stage.turn envelope.router .dismissModal
  | .showAlert title message =>
    { stage with alerts := stage.alerts ++ [(.text title, .text message)] }
  | .foreign _ => stage

/-- The stage once an entry of a queue has been taken from it. -/
def receive (stage : Stage) : Entry → Stage
  | .command envelope => stage.obey envelope
  | .stop => stage

/-- Carries out one instruction, where a command is obeyed at once. -/
def act (alertTitle : String) (router : Option RouterId) (stage : Stage)
    (instruction : Instruction) : Stage :=
  match Effect.ofInstruction alertTitle router.isSome (Expression.reader stage.data)
    instruction with
  | .write path value => { stage with data := stage.data.write (Path.ofText path) value }
  | .send command => stage.obey ⟨command, router⟩
  | .skip _ => stage

mutual

/-- The reference interpreter: it carries out an action without a channel. -/
def run (alertTitle : String) (router : Option RouterId) (stage : Stage) : Action → Stage
  | .single instruction => stage.act alertTitle router instruction
  | .sequence steps => runAll alertTitle router stage steps

/-- Carries out actions one after another. -/
def runAll (alertTitle : String) (router : Option RouterId) (stage : Stage) : List Action → Stage
  | [] => stage
  | step :: rest => runAll alertTitle router (run alertTitle router stage step) rest

end

mutual

theorem run_eq_foldl (alertTitle : String) (router : Option RouterId) (stage : Stage) :
    (action : Action) → stage.run alertTitle router action =
      action.instructions.foldl (act alertTitle router) stage
  | .single _ => rfl
  | .sequence steps => runAll_eq_foldl alertTitle router stage steps

/-- The reference carries out the instructions in document order, however they are nested. -/
theorem runAll_eq_foldl (alertTitle : String) (router : Option RouterId) (stage : Stage) :
    (steps : List Action) → stage.runAll alertTitle router steps =
      (Action.instructionsOf steps).foldl (act alertTitle router) stage
  | [] => rfl
  | step :: rest => by
    simp only [runAll, Action.instructionsOf, List.foldl_append]
    rw [run_eq_foldl alertTitle router stage step, runAll_eq_foldl alertTitle router _ rest]

end

/-- No entry of a queue touches the data, and none depends on it. -/
private theorem receive_data (stage : Stage) (data : Fields) (entry : Entry) :
    { stage with data := data }.receive entry = { stage.receive entry with data := data } := by
  cases entry with
  | stop => rfl
  | command envelope =>
    obtain ⟨command, router⟩ := envelope
    cases command <;> cases router <;> rfl

private theorem foldl_receive_data (stage : Stage) (data : Fields) (queue : List Entry) :
    queue.foldl receive { stage with data := data } =
      { queue.foldl receive stage with data := data } := by
  induction queue generalizing stage with
  | nil => rfl
  | cons entry rest ih => rw [List.foldl_cons, receive_data, ih, List.foldl_cons]

theorem data_foldl_receive (stage : Stage) (queue : List Entry) :
    (queue.foldl receive stage).data = stage.data := by
  have same := congrArg Stage.data (foldl_receive_data stage stage.data queue)
  exact same

end Stage

/-- A presenter that raises on no alert. -/
def Presenter.Agreeable : Presenter → Prop
  | .logging => True
  | .showing refuses => ∀ title message, refuses title message = false

/-- A command of the library, not a message that a host made up. -/
def Command.Known : Command → Prop
  | .foreign _ => False
  | _ => True

/-- The title and the message of an alert in the log. -/
def Notice.alert? : Notice → Option (Value × Value)
  | .alert title message => some (title, message)
  | _ => none

/-- An effect that sends a command of the library, if any, and shows no alert by itself. -/
def Effect.Plain : Effect → Prop
  | .write .. => True
  | .send command => command.Known
  | .skip notice => notice.alert? = none

namespace Effect

private theorem plain_route (routed : Bool) (name : String) (command : Command)
    (known : command.Known) : (route routed name command).Plain := by
  cases routed with
  | true => exact known
  | false => rfl

private theorem plain_routeTo (routed : Bool) (name : String) (params : Fields)
    {command : String → Command} (known : ∀ screen, (command screen).Known) :
    (routeTo routed name params command).Plain := by
  unfold routeTo
  split
  · exact plain_route routed name _ (known _)
  · rfl

private theorem plain_ofAppend (read : String → Option Value) (path : String) (entry : Value) :
    (ofAppend read path entry).Plain := by
  cases entry with
  | mapping fields => trivial
  | _ => rfl

private theorem plain_ofCommand (alertTitle : String) (routed : Bool)
    (read : String → Option Value) (name : String) (params : Fields) :
    (ofCommand alertTitle routed read name params).Plain := by
  unfold ofCommand
  split
  · exact plain_routeTo routed _ params fun _ => trivial
  · exact plain_route routed _ .navigateBack trivial
  · trivial
  · exact plain_routeTo routed _ params fun _ => trivial
  · exact plain_route routed _ .dismissModal trivial
  · exact plain_routeTo routed _ params fun _ => trivial
  · rfl

theorem plain_ofInstruction (alertTitle : String) (routed : Bool) (read : String → Option Value)
    (instruction : Instruction) : (ofInstruction alertTitle routed read instruction).Plain := by
  cases instruction with
  | append path value => exact plain_ofAppend read path _
  | set path value => trivial
  | command name params => exact plain_ofCommand alertTitle routed read name params
  | unrecognized reason node => rfl

end Effect

namespace World

/-- The alerts that a presenter was given, each with its title and its message. -/
def alertsOf (world : World H) : Presenter → List (Value × Value)
  | .logging => world.notices.filterMap Notice.alert?
  | .showing _ => world.alerts

/-- What a world shows of a scope, of the routers and of a presenter. -/
def stage (world : World H) (presenter : Presenter) (scope : ScopeId) : Stage :=
  ⟨world.data scope, world.routers, world.alertsOf presenter⟩

/-- The stage at which the commands that wait will have been obeyed. -/
def settled (world : World H) (presenter : Presenter) (scope : ScopeId) : Stage :=
  world.channel.queue.foldl Stage.receive (world.stage presenter scope)

/-- Only commands of the library wait in a world, nothing serves them yet, no presenter refuses
them, and nobody listens to a scope or to a router. -/
structure Ready (world : World H) (host : Host H) (scope : ScopeId) : Prop where
  unheard : (world.scopes.get scope).listeners = []
  silent : ∀ id, (world.routers id).listeners = []
  agreeable : host.presenter.Agreeable
  waiting : ∀ entry ∈ world.channel.queue, ∃ envelope, entry = .command envelope ∧
    envelope.command.Known
  unserved : world.channel.serving = false

theorem data_settled (world : World H) (presenter : Presenter) (scope : ScopeId) :
    (world.settled presenter scope).data = world.data scope :=
  Stage.data_foldl_receive _ _

/-- Records that are no alerts are not seen on the stage. -/
theorem stage_record (world : World H) (presenter : Presenter) (scope : ScopeId)
    {notices : List Notice} (plain : notices.filterMap Notice.alert? = []) :
    (world.record notices).stage presenter scope = world.stage presenter scope := by
  cases presenter with
  | logging =>
    simp only [stage, alertsOf, record, List.filterMap_append, plain, List.append_nil]
    rfl
  | showing refuses => rfl

theorem Ready.of_same {host : Host H} {scope : ScopeId} {world next : World H}
    (ready : world.Ready host scope)
    (scopes : (next.scopes.get scope).listeners = (world.scopes.get scope).listeners)
    (routers : ∀ id, (next.routers id).listeners = (world.routers id).listeners)
    (channel : next.channel = world.channel) : next.Ready host scope where
  unheard := scopes.trans ready.unheard
  silent id := (routers id).trans (ready.silent id)
  agreeable := ready.agreeable
  waiting := channel ▸ ready.waiting
  unserved := channel ▸ ready.unserved

end World

namespace Eff

open World

/-- From one world to another only the stage changed, and it is the given one. -/
private structure Turned (host : Host H) (scope : ScopeId) (world next : World H) (stage : Stage) :
    Prop where
  stage : next.stage host.presenter scope = stage
  channel : next.channel = world.channel
  title : next.alertTitle = world.alertTitle
  ready : next.Ready host scope

private theorem plain_resetNotice (router : Router) (step : Move) :
    (resetNotice router step).filterMap Notice.alert? = [] := by
  cases step with
  | reset asked => simp only [resetNotice]; split <;> rfl
  | _ => rfl

private theorem stage_moved (world : World H) (presenter : Presenter) (scope : ScopeId)
    (router : RouterId) (step : Move) :
    (world.moved router step).stage presenter scope =
      (world.stage presenter scope).turn (some router) step := by
  have routers : (world.moved router step).routers =
      ((world.stage presenter scope).turn (some router) step).routers := by
    funext id
    exact routers_moved world router id step
  have data : (world.moved router step).data scope = world.data scope := by
    simp only [World.data, scopes_moved]
  have alerts : (world.moved router step).alertsOf presenter = world.alertsOf presenter := by
    unfold moved
    split
    · rfl
    · exact congrArg Stage.alerts (stage_record _ presenter scope (plain_resetNotice _ step))
  simp only [World.stage, Stage.turn, routers, data, alerts]

private theorem applyMove_of_ready {host : Host H} {scope : ScopeId} {world : World H}
    (ready : world.Ready host scope) (router : Option RouterId) (step : Move)
    {refused : List Notice} (plain : refused.filterMap Notice.alert? = []) :
    ∃ next, applyMove host router step refused world = .ok () next ∧
      Turned host scope world next ((world.stage host.presenter scope).turn router step) := by
  cases router with
  | none => exact ⟨world, rfl, rfl, rfl, rfl, ready⟩
  | some router =>
    have made := move_of_silent host (ready.silent router) step
    have still : (world.moved router step).Ready host scope :=
      ready.of_same (by rw [scopes_moved]) (fun id => listeners_moved world router id step)
        (channel_moved world router step)
    change ∃ next, (move host router step >>= fun succeeded => if succeeded then (return ())
      else modify fun world => world.record refused) world = .ok () next ∧ _
    rw [bind_of_ok made]
    by_cases succeeded : (world.routers router).succeeds step = true
    · rw [if_pos succeeded]
      exact ⟨_, rfl, stage_moved world host.presenter scope router step,
        channel_moved world router step, alertTitle_moved world router step, still⟩
    · rw [if_neg succeeded]
      refine ⟨_, rfl, ?_, channel_moved world router step, alertTitle_moved world router step,
        still.of_same rfl (fun _ => rfl) rfl⟩
      rw [stage_record _ _ _ plain, stage_moved]

/-- A command of the library that a ready world applies changes the stage as it asks, and
nothing else. -/
private theorem apply_of_ready {host : Host H} {scope : ScopeId} {world : World H}
    (ready : world.Ready host scope) {envelope : Envelope} (known : envelope.command.Known) :
    ∃ next, apply host envelope world = .ok () next ∧
      Turned host scope world next ((world.stage host.presenter scope).obey envelope) := by
  obtain ⟨command, router⟩ := envelope
  cases command with
  | navigate screen => exact applyMove_of_ready ready router _ rfl
  | navigateBack => exact applyMove_of_ready ready router _ rfl
  | reset screen => exact applyMove_of_ready ready router _ rfl
  | presentModal screen => exact applyMove_of_ready ready router _ rfl
  | dismissModal => exact applyMove_of_ready ready router _ rfl
  | foreign attributes => exact known.elim
  | showAlert title message =>
    have agreeable := ready.agreeable
    obtain ⟨react, presenter⟩ := host
    cases presenter with
    | logging =>
      refine ⟨_, rfl, ?_, rfl, rfl, ready.of_same rfl (fun _ => rfl) rfl⟩
      simp only [World.stage, alertsOf, record, List.filterMap_append, Stage.obey]
      rfl
    | showing refuses =>
      have shown : refuses (.text title) (.text message) = false := agreeable _ _
      change ∃ next, (if refuses (.text title) (.text message) then throw .hostGone
        else _ : Eff H Unit) world = .ok () next ∧ _
      rw [shown]
      exact ⟨_, rfl, rfl, rfl, rfl, ready.of_same rfl (fun _ => rfl) rfl⟩

/-- Draining applies the queue from its head on, so it ends on the stage at which the world was
going to be settled. -/
private theorem drainUpTo_of_ready {host : Host H} {scope : ScopeId} (count : Nat) {world : World H}
    (ready : world.Ready host scope) (enough : world.channel.pending ≤ count) :
    ∃ applied next, drainUpTo host count world = .ok applied next ∧
      next.stage host.presenter scope = world.settled host.presenter scope ∧
      next.channel.queue = [] ∧ next.alertTitle = world.alertTitle ∧ next.Ready host scope := by
  induction count generalizing world with
  | zero =>
    have empty : world.channel.queue = [] := List.length_eq_zero_iff.mp (Nat.le_zero.mp enough)
    refine ⟨0, world, rfl, ?_, empty, rfl, ready⟩
    simp only [settled, empty, List.foldl_nil]
  | succ count ih =>
    cases queue : world.channel.queue with
    | nil =>
      refine ⟨0, world, drainUpTo_of_nil host _ queue, ?_, queue, rfl, ready⟩
      simp only [settled, queue, List.foldl_nil]
    | cons entry rest =>
      obtain ⟨envelope, rfl, known⟩ := ready.waiting entry (queue ▸ List.mem_cons_self ..)
      have taken :
          (world.mapChannel fun channel => { channel with queue := rest }).Ready host scope :=
        { ready with
          waiting := fun other member =>
            ready.waiting other (queue ▸ List.mem_cons_of_mem _ member) }
      obtain ⟨middle, applied, turned⟩ := apply_of_ready taken known
      have left : middle.channel.queue = rest := congrArg Channel.queue turned.channel
      have fewer : middle.channel.pending ≤ count := by
        simp only [Channel.pending, queue, List.length_cons] at enough
        simp only [Channel.pending, left]
        omega
      obtain ⟨number, last, drained, stage, empty, title, still⟩ := ih turned.ready fewer
      refine ⟨number + 1, last, ?_, ?_, empty, title.trans turned.title, still⟩
      · rw [drainUpTo_of_command host count queue, bind_of_ok applied, bind_of_ok drained]
        rfl
      · rw [stage, settled, left, turned.stage, settled, queue]
        rfl

private theorem drain_of_ready {host : Host H} {scope : ScopeId} {world : World H}
    (ready : world.Ready host scope) :
    ∃ applied next, drain host world = .ok applied next ∧
      next.stage host.presenter scope = world.settled host.presenter scope ∧
      next.channel.queue = [] ∧ next.alertTitle = world.alertTitle ∧ next.Ready host scope := by
  rw [drain_of_unserved host ready.unserved]
  exact drainUpTo_of_ready _ ready (Nat.le_refl _)

private theorem stage_stored (world : World H) (presenter : Presenter) (scope : ScopeId)
    (path : String) (value : Value) :
    (world.stored scope path value).stage presenter scope =
      { world.stage presenter scope with
        data := (world.data scope).write (Path.ofText path) value } := by
  have data := data_stored world scope scope path value
  rw [if_pos rfl] at data
  have alerts : (world.stored scope path value).alertsOf presenter =
      world.alertsOf presenter := by
    unfold stored
    split
    · exact congrArg Stage.alerts (stage_record world presenter scope rfl)
    · cases presenter <;> rfl
  simp only [World.stage, data, routers_stored, alerts]

/-- One instruction changes the stage at which a world will be settled as the reference says,
whatever waits on the channel. -/
private theorem executeInstruction_of_ready {host : Host H} {scope : ScopeId} {world : World H}
    (ready : world.Ready host scope) (router : Option RouterId) (instruction : Instruction) :
    ∃ next, executeInstruction host scope router instruction world = .ok () next ∧
      next.settled host.presenter scope =
        (world.settled host.presenter scope).act world.alertTitle router instruction ∧
      next.alertTitle = world.alertTitle ∧ next.Ready host scope := by
  have reads :
      Expression.reader (world.settled host.presenter scope).data = world.reader scope := by
    rw [data_settled]
    rfl
  change ∃ next, perform host scope router (Effect.ofInstruction world.alertTitle router.isSome
    (world.reader scope) instruction) world = .ok () next ∧ _
  have plain := Effect.plain_ofInstruction world.alertTitle router.isSome (world.reader scope)
    instruction
  simp only [Stage.act, reads]
  cases effect : Effect.ofInstruction world.alertTitle router.isSome (world.reader scope)
    instruction with
  | write path value =>
    refine ⟨_, write_of_silent host ready.unheard path value, ?_,
      alertTitle_stored world scope path value, ?_⟩
    · rw [settled, channel_stored, stage_stored, Stage.foldl_receive_data, data_settled]
      rfl
    · exact ready.of_same (listeners_stored world scope scope path value)
        (fun id => by rw [routers_stored]) (channel_stored world scope path value)
  | send command =>
    rw [effect] at plain
    refine ⟨_, rfl, ?_, rfl, { ready with waiting := ?_ }⟩
    · simp only [settled, mapChannel, Channel.queue_enqueue, List.foldl_append, List.foldl_cons,
        List.foldl_nil]
      rfl
    · intro entry member
      rcases List.mem_append.mp member with earlier | sent
      · exact ready.waiting entry earlier
      · exact ⟨_, List.mem_singleton.mp sent, plain⟩
  | skip notice =>
    rw [effect] at plain
    refine ⟨_, rfl, ?_, rfl, ready.of_same rfl (fun _ => rfl) rfl⟩
    have quiet : [notice].filterMap Notice.alert? = [] := by
      change notice.alert? = none at plain
      simp only [List.filterMap_cons, plain, List.filterMap_nil]
    rw [settled, settled, stage_record world _ _ quiet]
    rfl

end Eff

/-- What happens next while actions are being executed: an instruction, or a drain between two of
them. -/
inductive Turn where
  | step (instruction : Instruction)
  | drain
deriving Inhabited, Repr

/-- The instruction of a turn that is none of the drains. -/
def Turn.instruction? : Turn → Option Instruction
  | .step instruction => some instruction
  | .drain => none

namespace Eff

/-- Takes turns one after another. -/
def follow (host : Host H) (scope : ScopeId) (router : Option RouterId) : List Turn → Eff H Unit
  | [] => return ()
  | .step instruction :: rest => do
    executeInstruction host scope router instruction
    follow host scope router rest
  | .drain :: rest => do
    let _ ← drain host
    follow host scope router rest

theorem follow_append (host : Host H) (scope : ScopeId) (router : Option RouterId)
    (first second : List Turn) :
    follow host scope router (first ++ second) =
      (do follow host scope router first; follow host scope router second) := by
  induction first with
  | nil => rfl
  | cons turn rest ih => cases turn <;> simp only [List.cons_append, follow, ih, bind_assoc]

mutual

/-- Executing an action takes the turns of its instructions, however they are nested. -/
theorem execute_eq_follow (host : Host H) (scope : ScopeId) (router : Option RouterId) :
    (action : Action) →
      execute host scope router action = follow host scope router (action.instructions.map .step)
  | .single instruction => by
    simp only [execute, Action.instructions, List.map_cons, List.map_nil, follow]
    exact (bind_pure _).symm
  | .sequence steps => by
    simp only [execute, Action.instructions]
    exact executeAll_eq_follow host scope router steps

theorem executeAll_eq_follow (host : Host H) (scope : ScopeId) (router : Option RouterId) :
    (steps : List Action) → executeAll host scope router steps =
      follow host scope router ((Action.instructionsOf steps).map .step)
  | [] => rfl
  | step :: rest => by
    simp only [executeAll, Action.instructionsOf, List.map_append, follow_append]
    rw [execute_eq_follow host scope router step, executeAll_eq_follow host scope router rest]

end

private theorem follow_of_ready {host : Host H} {scope : ScopeId} (router : Option RouterId)
    (plan : List Turn) {world : World H} (ready : world.Ready host scope) :
    ∃ next, follow host scope router plan world = .ok () next ∧
      next.settled host.presenter scope =
        (plan.filterMap Turn.instruction?).foldl (Stage.act world.alertTitle router)
          (world.settled host.presenter scope) ∧
      next.Ready host scope := by
  induction plan generalizing world with
  | nil => exact ⟨world, rfl, rfl, ready⟩
  | cons turn rest ih =>
    cases turn with
    | step instruction =>
      obtain ⟨middle, executed, settled, title, still⟩ :=
        executeInstruction_of_ready ready router instruction
      obtain ⟨last, followed, reached, calm⟩ := ih still
      refine ⟨last, ?_, ?_, calm⟩
      · rw [follow, bind_of_ok executed, followed]
      · rw [reached, settled, title]
        rfl
    | drain =>
      obtain ⟨applied, middle, drained, stage, empty, title, still⟩ := drain_of_ready ready
      obtain ⟨last, followed, reached, calm⟩ := ih still
      refine ⟨last, ?_, ?_, calm⟩
      · rw [follow, bind_of_ok drained, followed]
      · have settled :
            middle.settled host.presenter scope = world.settled host.presenter scope := by
          rw [World.settled, empty]
          exact stage
        rw [reached, settled, title]
        rfl

private theorem follow_drained_of_ready {host : Host H} {scope : ScopeId}
    (router : Option RouterId) (plan : List Turn) {world : World H}
    (ready : world.Ready host scope) :
    ∃ last, follow host scope router (plan ++ [.drain]) world = .ok () last ∧
      last.stage host.presenter scope =
        (plan.filterMap Turn.instruction?).foldl (Stage.act world.alertTitle router)
          (world.settled host.presenter scope) := by
  obtain ⟨middle, followed, settled, still⟩ := follow_of_ready router plan ready
  obtain ⟨applied, last, drained, stage, _⟩ := drain_of_ready still
  refine ⟨last, ?_, stage.trans settled⟩
  rw [follow_append, bind_of_ok followed, follow, bind_of_ok drained]
  rfl

/-- Wherever drains are placed between the instructions of some actions, with one more at the
end, a ready world ends on the stage that the reference interpreter reaches: it has what waits
obeyed first and then carries out the actions without a channel. Triggering an action is the
schedule that drains at the end alone. -/
theorem stage_of_schedule (host : Host H) (scope : ScopeId) (world : World H)
    (ready : world.Ready host scope) :
    (∀ (router : RouterId) (actions : List Action) (plan : List Turn),
      plan.filterMap Turn.instruction? = actions.flatMap Action.instructions →
      ∃ last, follow host scope (some router) (plan ++ [.drain]) world = .ok () last ∧
        last.stage host.presenter scope =
          (world.settled host.presenter scope).runAll world.alertTitle (some router) actions) ∧
    ∀ action : Action, ∃ last, trigger host scope action world = .ok () last ∧
      last.stage host.presenter scope =
        (world.settled host.presenter scope).run world.alertTitle (some World.mainRouter)
          action := by
  constructor
  · intro router actions plan placed
    obtain ⟨last, followed, stage⟩ := follow_drained_of_ready (some router) plan ready
    refine ⟨last, followed, stage.trans ?_⟩
    rw [placed, Stage.runAll_eq_foldl, Action.instructionsOf_eq_flatMap]
  · intro action
    obtain ⟨last, followed, stage⟩ := follow_drained_of_ready (some World.mainRouter)
      (action.instructions.map .step) ready
    refine ⟨last, ?_, stage.trans ?_⟩
    · rw [follow_append, ← execute_eq_follow] at followed
      exact followed
    · rw [Stage.run_eq_foldl, List.filterMap_map]
      have all : (Turn.instruction? ∘ Turn.step) = some := rfl
      rw [all, List.filterMap_some]

/-- A form on its second screen, where a command to open the third one still waits. -/
private def formWorld : World Unit :=
  let blank (id : String) : Screen := ⟨id, [], none, .null⟩
  { World.initial [("name", .text "Ana")] "Alerta" [] () with
    routers := fun _ => ⟨[("c", blank "c")], [blank "b", blank "a"], [], []⟩
    channel := ⟨[.command ⟨.navigate "c", some World.mainRouter⟩], [], true, false⟩ }

/-- A greeting whose name changes after it was sent, between two moves. -/
private def greeting : Action :=
  .sequence [.single (.command "navigateBack" []),
    .sequence [.single (.command "showAlert" [("message", .text "Oi $name")]),
      .single (.set "name" (.text "Bia"))],
    .single (.command "navigateBack" [])]

/-- What is left of the form after the greeting. -/
private def Greeted (last : World Unit) : Prop :=
  last.alerts = [(.text "Alerta", .text "Oi Ana")] ∧
    (last.routers World.mainRouter).stack.map Screen.id = ["a"] ∧
    last.data Scopes.main = [("name", .text "Bia")]

private theorem greeted_of_stage {last : World Unit}
    (stage : last.stage (.showing fun _ _ => false) Scopes.main =
      (formWorld.settled (.showing fun _ _ => false) Scopes.main).run "Alerta"
        (some World.mainRouter) greeting) : Greeted last := by
  have alerts := congrArg Stage.alerts stage
  have routers := congrArg Stage.routers stage
  have data := congrArg Stage.data stage
  refine ⟨alerts.trans (by rfl), ?_, data.trans (by rfl)⟩
  exact (congrArg (fun routers => (routers World.mainRouter).stack.map Screen.id) routers).trans
    (by rfl)

/-- A drain after the first move changes nothing about what the greeting says and where it
leads. -/
theorem stage_of_schedule_greeting :
    formWorld.Ready .calm Scopes.main ∧
      (∃ last, follow .calm Scopes.main (some World.mainRouter)
        [.step (.command "navigateBack" []), .drain,
          .step (.command "showAlert" [("message", .text "Oi $name")]),
          .step (.set "name" (.text "Bia")), .step (.command "navigateBack" []), .drain]
        formWorld = .ok () last ∧ Greeted last) ∧
      ∃ last, trigger .calm Scopes.main greeting formWorld = .ok () last ∧ Greeted last := by
  have ready : formWorld.Ready .calm Scopes.main :=
    ⟨rfl, fun _ => rfl, fun _ _ => rfl,
      fun entry member => ⟨_, List.mem_singleton.mp member, trivial⟩, rfl⟩
  obtain ⟨scheduled, triggered⟩ := stage_of_schedule _ Scopes.main formWorld ready
  obtain ⟨last, followed, stage⟩ := scheduled World.mainRouter [greeting]
    [.step (.command "navigateBack" []), .drain,
      .step (.command "showAlert" [("message", .text "Oi $name")]),
      .step (.set "name" (.text "Bia")), .step (.command "navigateBack" [])] rfl
  obtain ⟨last', ran, stage'⟩ := triggered greeting
  exact ⟨ready, ⟨last, followed, greeted_of_stage stage⟩, last', ran, greeted_of_stage stage'⟩

end Eff

end ScreenScript
