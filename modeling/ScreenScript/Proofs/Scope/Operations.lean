import ScreenScript.Proofs.Execution.Independence
import ScreenScript.Proofs.Frame
import ScreenScript.Proofs.Scope.Births

/-! # What is done in a scope

A scope is written to, actions are executed in it, its nodes are tapped and entered into, and it is
forked or rendered. In a silent world, each of these leaves all other scopes as they are; it adds
its writes to the data of its own scope and its commands to the one channel, from which only a tap
takes entries, the first ones first. The scopes that it makes have the data of their parents with
some fields put into them.
-/

namespace ScreenScript

variable {H : Type}

namespace World

/-- What is executed in a scope leaves alone: all other scopes. -/
structure Confined (scope : ScopeId) (before after : World H) : Prop
    extends Undisturbed before after where
  others : ∀ id, id ≠ scope → after.data id = before.data id
  next : after.scopes.next = before.scopes.next

/-- What a drain leaves alone: all scopes, and the entries that it does not take. -/
structure Drained (before after : World H) : Prop extends Undisturbed before after where
  scopes : after.scopes = before.scopes
  title : after.alertTitle = before.alertTitle
  queue : after.channel.queue <:+ before.channel.queue

/-- Scopes came into being, one after another. Each has the data that its parent has, with its
fields put into them, and a parent that was there before has kept its own. -/
structure Born (births : List Birth) (before after : World H) : Prop where
  scopes : births.map Birth.scope = List.range' before.scopes.next births.length
  next : after.scopes.next = before.scopes.next + births.length
  data : ∀ birth ∈ births, birth.parent < birth.scope ∧
    after.data birth.scope = Keyed.merge (after.data birth.parent) birth.fields ∧
    (birth.parent < before.scopes.next → after.data birth.parent = before.data birth.parent)

theorem Born.used {births : List Birth} {before after : World H} (born : Born births before after)
    {id : ScopeId} (used : id < before.scopes.next) : id < after.scopes.next := by
  rw [born.next]
  exact Nat.lt_add_right _ used

theorem Confined.frame (scope : ScopeId) : Frame (Confined (H := H) scope) where
  refl world := { Undisturbed.refl world with others := fun _ _ => rfl, next := rfl }
  trans left right :=
    { left.toUndisturbed.trans right.toUndisturbed with
      others := fun id other => (right.others id other).trans (left.others id other)
      next := right.next.trans left.next }
  silent confined := confined.toUndisturbed.silent

theorem Drained.refl (world : World H) : Drained world world :=
  { Undisturbed.refl world with scopes := rfl, title := rfl, queue := List.suffix_rfl }

theorem Drained.frame : Frame (Drained (H := H)) where
  refl := .refl
  trans left right :=
    { left.toUndisturbed.trans right.toUndisturbed with
      scopes := right.scopes.trans left.scopes
      title := right.title.trans left.title
      queue := right.queue.trans left.queue }
  silent drained := drained.toUndisturbed.silent

end World

namespace Eff

open World

theorem confined_perform (host : Host H) (scope : ScopeId) (router : Option RouterId)
    (effect : Effect) : Within (Confined scope) (perform host scope router effect) := by
  intro world silent
  cases effect with
  | write path value =>
    have undisturbed := undisturbed_write host scope path value world silent
    have written := write_of_silent host (silent.scopes scope) path value
    simp only [perform, after_of_ok written] at undisturbed ⊢
    refine { undisturbed with others := fun id other => ?_, next := ?_ }
    · rw [data_stored, if_neg other]
    · exact next_stored world scope path value
  | send command =>
    exact { undisturbed_send command router world silent with
      others := fun _ _ => rfl, next := rfl }
  | skip notice =>
    exact { (steered_log notice world silent).toUndisturbed with
      others := fun _ _ => rfl, next := rfl }

theorem confined_execute (host : Host H) (scope : ScopeId) (router : Option RouterId)
    (action : Action) : Within (Confined scope) (execute host scope router action) := by
  have frame := Within.compositional (H := H) (Confined.frame scope)
  rw [execute_eq_follow]
  induction action.instructions with
  | nil => exact frame.pure ()
  | cons first rest ih =>
    refine frame.bind (frame.bind (.get (Confined.frame scope)) fun world => ?_) fun _ => ih
    exact confined_perform host scope router _

theorem drained_apply (host : Host H) (envelope : Envelope) :
    Within Drained (apply host envelope) := by
  have steered {before after : World H} (steered : Steered before after)
      (scopes : after.scopes = before.scopes) (title : after.alertTitle = before.alertTitle) :
      Drained before after :=
    { steered.toUndisturbed with
      scopes := scopes, title := title, queue := steered.channel ▸ List.suffix_rfl }
  have handling : Handling host envelope.router fun _ operation => Within Drained operation := {
    Within.compositional Drained.frame with
    move := fun id step _ unpushed world silent => by
      have moved := steered_move host id unpushed world silent
      rw [after_of_ok (move_of_silent host (silent.routers id) step)] at moved ⊢
      exact steered moved (scopes_moved ..) (alertTitle_moved ..)
    record := fun notices _ world silent => { Drained.refl world with }
    present := fun title message world silent => by
      refine steered (steered_present host title message world silent) ?_ ?_
      all_goals
        unfold present
        split
        · rfl
        · split <;> rfl }
  exact handling.apply

theorem drained_take : Within (H := H) Drained take := by
  intro world silent
  have undisturbed := undisturbed_take world silent
  cases queue : world.channel.queue with
  | nil =>
    rw [after_of_ok (take_of_nil queue)]
    exact .refl world
  | cons entry rest =>
    rw [after_of_ok (take_of_cons queue)] at undisturbed ⊢
    exact { undisturbed with
      scopes := rfl, title := rfl, queue := queue ▸ List.suffix_cons entry rest }

theorem drained_drain (host : Host H) : Within Drained (drain host) := by
  have frame := Within.compositional (H := H) Drained.frame
  have upTo (count : Nat) : Within Drained (drainUpTo host count) := by
    induction count with
    | zero => exact frame.pure 0
    | succ count ih =>
      refine frame.bind drained_take fun taken => ?_
      split
      · exact frame.pure 0
      · exact ih
      · exact frame.bind (drained_apply host _) fun _ => frame.bind ih fun _ => frame.pure _
  intro world silent
  cases serving : world.channel.serving with
  | true =>
    rw [after_of_error (drain_of_serving host serving)]
    exact .refl world
  | false =>
    simp only [after, drain_of_unserved host serving]
    exact upTo _ world silent

end Eff

namespace Scopes

open Eff

/-- What may be done in a scope. -/
inductive Operation where
  | set (scope : ScopeId) (path : String) (value : Value)
  | execute (scope : ScopeId) (router : Option RouterId) (action : Action)
  | tap (node : Node)
  | enter (node : Node) (content : Value)
  | fork (scope : ScopeId) (fields : Fields)
  | render (view : View)
  | renderComponent (scope : ScopeId) (router : Option RouterId) (type : String) (props : Fields)

namespace Operation

def scope : Operation → ScopeId
  | .set scope _ _ => scope
  | .execute scope _ _ => scope
  | .tap node => node.home
  | .enter node _ => node.scope
  | .fork scope _ => scope
  | .render view => view.scope
  | .renderComponent scope _ _ _ => scope

/-- Does something in a scope. What rendering answers is left aside. -/
def perform (host : Host H) : Operation → Eff H Unit
  | .set scope path value => write host scope path value
  | .execute scope router action => Eff.execute host scope router action
  | .tap node => Eff.tap host node
  | .enter node content => Eff.enter host node content
  | .fork scope fields =>
    modify fun world => { world with scopes := world.scopes.fork scope fields }
  | .render view => do
    let _ ← Eff.render view
  | .renderComponent scope router type props => do
    let _ ← Eff.renderComponent scope router type props

/-- The router for which an operation sends commands. -/
def router : Operation → Option RouterId
  | .execute _ router _ => router
  | .tap _ => some World.mainRouter
  | _ => none

/-- Whether an operation goes on to apply the commands that wait. -/
def drains : Operation → Bool
  | .tap _ => true
  | _ => false

/-- The effects of an operation, on the data that its scope has then. -/
def effects (alertTitle : String) (data : Fields) : Operation → List Effect
  | .set _ path value => [.write path value]
  | .execute _ router action =>
    Effect.ofInstructions alertTitle router.isSome data action.instructions
  | .tap node =>
    match node.face.action with
    | .null => []
    | action => Effect.ofInstructions alertTitle true data (Action.ofNode action).instructions
  | .enter node content => node.face.bound?.toList.map (.write · content)
  | _ => []

/-- The scopes that are born of an operation. -/
def births (world : World H) : Operation → List Birth
  | .fork scope fields => [⟨world.scopes.next, scope, fields⟩]
  | .render view =>
    match Eff.render view world with
    | .ok nodes _ => Node.birthsOf view.scope nodes
    | .error _ _ => []
  | .renderComponent scope router type props =>
    match Eff.renderComponent scope router type props world with
    | .ok nodes _ => Node.birthsOf scope nodes
    | .error _ _ => []
  | _ => []

def writes (world : World H) (id : ScopeId) (operation : Operation) : List (Path × Value) :=
  if operation.scope = id then
    Effect.writesOf (operation.effects world.alertTitle (world.data id))
  else []

def issued (world : World H) (operation : Operation) : List Entry :=
  (operation.effects world.alertTitle (world.data operation.scope)).filterMap
    (Effect.entry? operation.router)

/-- What one operation in a scope that is in use leaves behind. -/
structure Step (operation : Operation) (world last : World H) : Prop where
  silent : last.Silent
  title : last.alertTitle = world.alertTitle
  data : ∀ id, id < world.scopes.next →
    last.data id = (world.data id).writeAll (operation.writes world id)
  born : World.Born (operation.births world) world last
  queue : ∃ taken, world.channel.queue ++ operation.issued world = taken ++ last.channel.queue ∧
    (operation.drains = false → taken = [])

variable {host : Host H} {operation : Operation} {world middle last : World H}

/-- Effects in a scope, with a drain behind them perhaps. -/
private theorem step_of_underwent (barren : operation.births world = [])
    (silent : world.Silent) (confined : world.Confined operation.scope middle)
    (underwent : World.Underwent operation.scope operation.router
      (operation.effects world.alertTitle (world.data operation.scope)) world middle)
    (drained : middle.Drained last) (undrained : operation.drains = false → middle = last) :
    operation.Step world last where
  silent := drained.silent (confined.silent silent)
  title := drained.title.trans underwent.title
  data id _ := by
    have same : last.data id = middle.data id := by
      rw [World.data, World.data, drained.scopes]
    rw [same, writes]
    by_cases here : operation.scope = id
    · rw [if_pos here, ← here, underwent.data]
    · rw [if_neg here, confined.others id (Ne.symm here)]
      rfl
  born := by
    rw [barren]
    exact ⟨rfl, by rw [drained.scopes, confined.next]; rfl, List.forall_mem_nil _⟩
  queue := by
    obtain ⟨taken, split⟩ := drained.queue
    refine ⟨taken, ?_, fun undrains => ?_⟩
    · rw [split, underwent.queue, issued]
    · rw [undrained undrains] at split
      simpa using split

/-- Forks, one after another. -/
private theorem step_of_forked {births : List Birth} (known : operation.births world = births)
    (idle : ∀ title data, operation.effects title data = [])
    (silent : world.Silent) (forked : Forked world.scopes births last.scopes)
    (routers : last.routers = world.routers) (title : last.alertTitle = world.alertTitle)
    (channel : last.channel = world.channel) : operation.Step world last where
  silent := ⟨forked.listeners_eq silent.scopes, fun id => by rw [routers, silent.routers id]⟩
  title := title
  data id used := by
    have none : operation.writes world id = [] := by
      rw [writes, idle]
      exact ite_self _
    rw [none, World.data, forked.get_eq used]
    rfl
  born := by
    rw [known]
    refine ⟨forked.scopes_eq, forked.next_eq, fun birth member => ?_⟩
    obtain ⟨before, born⟩ := forked.born member
    exact ⟨before, congrArg Scope.data born, fun used => congrArg Scope.data (forked.get_eq used)⟩
  queue := by
    refine ⟨[], ?_, fun _ => rfl⟩
    rw [issued, idle, channel]
    exact List.append_nil _

private theorem underwent_nil (silent : world.Silent) (scope : ScopeId)
    (router : Option RouterId) : World.Underwent scope router [] world world :=
  ⟨silent.scopes scope, rfl, (List.append_nil _).symm, rfl⟩

/-- An operation that writes once, or fails before it does. -/
private theorem step_of_write {scope : ScopeId} (path : String) (value : Value)
    (silent : world.Silent) (here : operation.scope = scope)
    (performed : operation.perform host = write host scope path value)
    (unrouted : operation.router = none) (barren : operation.births world = [])
    (effects : operation.effects world.alertTitle (world.data operation.scope) =
      [.write path value]) :
    operation.Step world (after (operation.perform host) world) := by
  subst here
  obtain ⟨next, written, underwent⟩ :=
    perform_of_unheard host none (.write path value) (silent.scopes operation.scope)
  have confined := confined_perform host operation.scope none (.write path value) world silent
  rw [after_of_ok written] at confined
  have ran : operation.perform host world = .ok () next := by
    rw [performed]
    exact written
  rw [after_of_ok ran]
  refine step_of_underwent barren silent confined ?_ (.refl next) fun _ => rfl
  rw [effects, unrouted]
  exact underwent

/-- An operation that does nothing. -/
private theorem step_of_idle (silent : world.Silent)
    (left : after (operation.perform host) world = world) (barren : operation.births world = [])
    (effects : operation.effects world.alertTitle (world.data operation.scope) = []) :
    operation.Step world (after (operation.perform host) world) := by
  rw [left]
  refine step_of_underwent barren silent ((World.Confined.frame _).refl world) ?_ (.refl world)
    fun _ => rfl
  rw [effects]
  exact underwent_nil silent _ _

private theorem step_of_tap (host : Host H) (node : Node) (silent : world.Silent) :
    (tap node).Step world (after ((tap node).perform host) world) := by
  by_cases idle : node.face.action = .null
  · refine step_of_idle silent ?_ rfl ?_
    · rw [perform, Eff.tap, idle]
      rfl
    · rw [effects, idle]
  · have tapped : Eff.tap host node =
        trigger host node.home (Action.ofNode node.face.action) := by
      unfold Eff.tap
      split
      · contradiction
      · rfl
    have made : (tap node).effects world.alertTitle (world.data node.home) =
        Effect.ofInstructions world.alertTitle true (world.data node.home)
          (Action.ofNode node.face.action).instructions := by
      rw [effects]
      split
      · contradiction
      · rfl
    obtain ⟨middle, executed, underwent⟩ := execute_of_unheard host (some World.mainRouter)
      (Action.ofNode node.face.action) (silent.scopes node.home)
    have confined := confined_execute host node.home (some World.mainRouter)
      (Action.ofNode node.face.action) world silent
    rw [after_of_ok executed] at confined
    have frame := Within.compositional (H := H) World.Drained.frame
    have drained := (frame.bind (drained_drain host) fun _ => frame.pure ()) middle
      (confined.silent silent)
    have left : after ((tap node).perform host) world =
        after (drain host >>= fun _ => pure ()) middle := by
      simp only [after, perform, tapped, trigger, bind_of_ok executed]
      rfl
    rw [left]
    refine step_of_underwent rfl silent confined ?_ drained nofun
    change World.Underwent node.home _ ((tap node).effects _ (world.data node.home)) world middle
    rw [made]
    exact underwent

private theorem step_of_enter (host : Host H) (node : Node) (content : Value)
    (silent : world.Silent) :
    (enter node content).Step world (after ((enter node content).perform host) world) := by
  cases bound : node.face.bound? with
  | none =>
    refine step_of_idle silent ?_ rfl ?_
    · rw [perform, Eff.enter, bound]
      rfl
    · rw [effects, bound]
      rfl
  | some path =>
    refine step_of_write path content silent rfl ?_ rfl rfl ?_
    · rw [perform, Eff.enter, bound]
      rfl
    · rw [effects, bound]
      rfl

/-- What rendering brings to life is forked from the scopes that are there. -/
private theorem exists_forked (scope : ScopeId) (drawing : Drawing (List Layout)) {world : World H}
    (used : scope < world.scopes.next) :
    ∃ nodes last, Eff.place scope drawing world = .ok nodes last ∧
      Forked world.scopes (Node.birthsOf scope nodes) last.scopes ∧
      last.routers = world.routers ∧ last.alertTitle = world.alertTitle ∧
      last.channel = world.channel :=
  ⟨_, _, rfl, forked_placeAll scope _ used, rfl, rfl, rfl⟩

private theorem step_of_rendered {scope : ScopeId} {drawing : Drawing (List Layout)}
    {rendering : Eff H (List Node)} (silent : world.Silent) (used : scope < world.scopes.next)
    (rendered : rendering world = Eff.place scope drawing world)
    (performed : operation.perform host = (do let _ ← rendering))
    (births : ∀ nodes last, rendering world = .ok nodes last →
      operation.births world = Node.birthsOf scope nodes)
    (idle : ∀ title data, operation.effects title data = []) :
    operation.Step world (after (operation.perform host) world) := by
  obtain ⟨nodes, last, placed, forked, routers, title, channel⟩ := exists_forked scope drawing used
  rw [← rendered] at placed
  have left : after (operation.perform host) world = last := by
    rw [performed]
    exact after_of_ok (bind_of_ok placed)
  rw [left]
  exact step_of_forked (births nodes last placed) idle silent forked routers title channel

theorem step_of_perform (host : Host H) (operation : Operation) (silent : world.Silent)
    (used : operation.scope < world.scopes.next) :
    operation.Step world (after (operation.perform host) world) := by
  cases operation with
  | set scope path value => exact step_of_write path value silent rfl rfl rfl rfl rfl
  | execute scope router action =>
    obtain ⟨next, executed, underwent⟩ :=
      execute_of_unheard host router action (silent.scopes scope)
    have confined := confined_execute host scope router action world silent
    rw [after_of_ok executed] at confined
    rw [perform, after_of_ok executed]
    exact step_of_underwent rfl silent confined underwent (.refl next) fun _ => rfl
  | tap node => exact step_of_tap host node silent
  | enter node content => exact step_of_enter host node content silent
  | fork scope fields =>
    exact step_of_forked rfl (fun _ _ => rfl) silent (.fork rfl used (.done _)) rfl rfl rfl
  | render view =>
    refine step_of_rendered silent used (get_bind _ world) rfl (fun nodes last placed => ?_)
      fun _ _ => rfl
    rw [births, placed]
    rfl
  | renderComponent scope router type props =>
    refine step_of_rendered silent used (get_bind _ world) rfl (fun nodes last placed => ?_)
      fun _ _ => rfl
    rw [births, placed]
    rfl

end Operation

end Scopes

end ScreenScript
