import ScreenScript.World.Data
import ScreenScript.World.Delivery

/-! # Outcomes of operations

An operation leaves a world behind whether it succeeds or fails. In a silent world, one in which
nobody listens to a scope or to a router, the host is never called back, so writes and moves
are functions of the world alone, and so are the steps of a drain that take an entry from the
queue. Nothing is assumed here of what a listener would do.
-/

namespace ScreenScript

variable {H : Type} {α β : Type}

/-- The host that does nothing when it is called and shows all alerts. -/
def Host.calm : Host H :=
  ⟨fun _ _ => pure (), .showing fun _ _ => false⟩

namespace Eff

def after (operation : Eff H α) (world : World H) : World H :=
  match operation world with
  | .ok _ next => next
  | .error _ next => next

theorem after_of_ok {operation : Eff H α} {world next : World H} {result : α}
    (ran : operation world = .ok result next) : after operation world = next := by
  simp only [after, ran]

theorem after_of_error {operation : Eff H α} {world next : World H} {failure : Failure}
    (ran : operation world = .error failure next) : after operation world = next := by
  simp only [after, ran]

theorem bind_of_ok {operation : Eff H α} {rest : α → Eff H β} {world next : World H} {result : α}
    (ran : operation world = .ok result next) : (operation >>= rest) world = rest result next := by
  change EStateM.bind operation rest world = _
  simp only [EStateM.bind, ran]

theorem bind_of_error {operation : Eff H α} {rest : α → Eff H β} {world next : World H}
    {failure : Failure} (ran : operation world = .error failure next) :
    (operation >>= rest) world = .error failure next := by
  change EStateM.bind operation rest world = _
  simp only [EStateM.bind, ran]

theorem bind_eq_of_eq {first second : Eff H α} {world : World H}
    (same : first world = second world) (rest : α → Eff H β) :
    (first >>= rest) world = (second >>= rest) world := by
  change EStateM.bind first rest world = EStateM.bind second rest world
  simp only [EStateM.bind, same]

theorem get_bind (rest : World H → Eff H α) (world : World H) :
    (get >>= rest) world = rest world world := rfl

/-- A program succeeds exactly when each of its parts does. -/
theorem bind_eq_ok_iff {operation : Eff H α} {rest : α → Eff H β} {world last : World H}
    {result : β} :
    (operation >>= rest) world = .ok result last ↔
      ∃ first next, operation world = .ok first next ∧ rest first next = .ok result last := by
  cases ran : operation world with
  | ok first next =>
    rw [bind_of_ok ran]
    constructor
    · intro finished
      exact ⟨first, next, rfl, finished⟩
    · rintro ⟨_, _, same, finished⟩
      cases same
      exact finished
  | error failure next =>
    rw [bind_of_error ran]
    constructor
    · intro finished
      cases finished
    · rintro ⟨_, _, same, _⟩
      cases same

end Eff

namespace World

/-- Nobody listens to a scope or to a router. -/
structure Silent (world : World H) : Prop where
  scopes : ∀ id, (world.scopes.get id).listeners = []
  routers : ∀ id, (world.routers id).listeners = []

theorem silent_initial (data : Fields) (alertTitle : String) (registry : Registry) (host : H) :
    (initial data alertTitle registry host).Silent where
  scopes id := by
    change (if id = Scopes.main then Scope.ofData data else Scope.ofData []).listeners = []
    split <;> rfl
  routers _ := rfl

/-- The world after a write that nobody is told of. -/
def stored (world : World H) (scope : ScopeId) (path : String) (value : Value) : World H :=
  match Path.ofText path with
  | [] => world.record [.emptyPath path]
  | key :: rest =>
    world.mapScope scope fun old => { old with data := old.data.write (key :: rest) value }

/-- The world after a move that nobody is told of. -/
def moved (world : World H) (router : RouterId) (step : Move) : World H :=
  match (world.routers router).move? step with
  | none => world
  | some next =>
    (world.mapRouter router fun _ => next).record (Eff.resetNotice (world.routers router) step)

theorem listeners_stored (world : World H) (scope id : ScopeId) (path : String) (value : Value) :
    ((world.stored scope path value).scopes.get id).listeners =
      (world.scopes.get id).listeners := by
  unfold stored
  split
  · rfl
  · by_cases same : id = scope <;> simp [mapScope, Scopes.get_update, same]

/-- A write is seen in its scope and nowhere else. -/
theorem data_stored (world : World H) (scope id : ScopeId) (path : String) (value : Value) :
    (world.stored scope path value).data id =
      if id = scope then (world.data id).write (Path.ofText path) value else world.data id := by
  unfold stored
  split
  next empty =>
    rw [empty]
    by_cases same : id = scope <;> simp [same, Fields.write] <;> rfl
  next key rest cut =>
    rw [cut, data_mapScope]
    rfl

theorem next_stored (world : World H) (scope : ScopeId) (path : String) (value : Value) :
    (world.stored scope path value).scopes.next = world.scopes.next := by
  unfold stored
  split <;> rfl

@[simp] theorem routers_stored (world : World H) (scope : ScopeId) (path : String)
    (value : Value) : (world.stored scope path value).routers = world.routers := by
  unfold stored
  split <;> rfl

@[simp] theorem channel_stored (world : World H) (scope : ScopeId) (path : String)
    (value : Value) : (world.stored scope path value).channel = world.channel := by
  unfold stored
  split <;> rfl

@[simp] theorem views_stored (world : World H) (scope : ScopeId) (path : String)
    (value : Value) : (world.stored scope path value).views = world.views := by
  unfold stored
  split <;> rfl

@[simp] theorem alertTitle_stored (world : World H) (scope : ScopeId) (path : String)
    (value : Value) : (world.stored scope path value).alertTitle = world.alertTitle := by
  unfold stored
  split <;> rfl

theorem routers_moved (world : World H) (router id : RouterId) (step : Move) :
    (world.moved router step).routers id =
      if id = router then ((world.routers router).move? step).getD (world.routers router)
      else world.routers id := by
  unfold moved
  split
  next refused =>
    by_cases same : id = router <;> simp [same, refused]
  next next accepted =>
    by_cases same : id = router <;> simp [same, accepted, record, routers_mapRouter]

theorem listeners_moved (world : World H) (router id : RouterId) (step : Move) :
    ((world.moved router step).routers id).listeners = (world.routers id).listeners := by
  rw [routers_moved]
  split
  next same =>
    subst same
    cases accepted : (world.routers id).move? step with
    | none => rfl
    | some next => exact (Router.move?_keeps accepted).2
  · rfl

theorem cache_moved (world : World H) (router id : RouterId) (step : Move) :
    ((world.moved router step).routers id).cache = (world.routers id).cache := by
  rw [routers_moved]
  split
  next same =>
    subst same
    cases accepted : (world.routers id).move? step with
    | none => rfl
    | some next => exact (Router.move?_keeps accepted).1
  · rfl

@[simp] theorem scopes_moved (world : World H) (router : RouterId) (step : Move) :
    (world.moved router step).scopes = world.scopes := by
  unfold moved
  split <;> rfl

@[simp] theorem channel_moved (world : World H) (router : RouterId) (step : Move) :
    (world.moved router step).channel = world.channel := by
  unfold moved
  split <;> rfl

@[simp] theorem views_moved (world : World H) (router : RouterId) (step : Move) :
    (world.moved router step).views = world.views := by
  unfold moved
  split <;> rfl

@[simp] theorem alertTitle_moved (world : World H) (router : RouterId) (step : Move) :
    (world.moved router step).alertTitle = world.alertTitle := by
  unfold moved
  split <;> rfl

end World

namespace Eff

/-- A write stores the value and then calls those that listen to its scope. -/
theorem write_eq (host : Host H) (scope : ScopeId) (path : String) (value : Value)
    (world : World H) :
    write host scope path value world =
      callAll host (fun _ => .wrote path)
        (if Path.ofText path = [] then [] else (world.scopes.get scope).listeners)
        (world.stored scope path value) := by
  cases cut : Path.ofText path with
  | nil =>
    simp only [write, World.stored, cut]
    rfl
  | cons key rest =>
    simp only [write, World.stored, cut]
    change callAll host _ ((world.mapScope scope _).scopes.get scope).listeners _ = _
    simp only [World.mapScope, Scopes.get_update, ↓reduceIte, reduceCtorEq]

/-- A write to a scope that nobody listens to succeeds and only stores the value. -/
theorem write_of_silent (host : Host H) {world : World H} {scope : ScopeId}
    (silent : (world.scopes.get scope).listeners = []) (path : String) (value : Value) :
    write host scope path value world = .ok () (world.stored scope path value) := by
  rw [write_eq, silent, ite_self]
  rfl

/-- A move of a router that nobody listens to tells whether it succeeded and calls nobody. -/
theorem move_of_silent (host : Host H) {world : World H} {router : RouterId}
    (silent : (world.routers router).listeners = []) (step : Move) :
    move host router step world =
      .ok ((world.routers router).succeeds step) (world.moved router step) := by
  cases accepted : (world.routers router).move? step with
  | none =>
    have failed : (world.routers router).succeeds step = false := by
      cases step <;> simp_all [Router.succeeds, Router.move?]
    simp only [World.moved, accepted, failed]
    rw [move, get_bind, accepted]
    rfl
  | some next =>
    have quiet : next.listeners = [] := (Router.move?_keeps accepted).2.trans silent
    simp only [World.moved, accepted]
    rw [move, get_bind, accepted]
    change (callAll host _ next.listeners >>= fun _ => _) _ = _
    rw [quiet]
    rfl

theorem take_of_nil {world : World H} (empty : world.channel.queue = []) :
    take world = .ok none world := by
  rw [take, get_bind, empty]
  rfl

/-- Taking an entry removes it from the queue before anything is done with it. -/
theorem take_of_cons {world : World H} {entry : Entry} {rest : List Entry}
    (queue : world.channel.queue = entry :: rest) :
    take world = .ok (some entry)
      (world.mapChannel fun channel => { channel with queue := rest }) := by
  rw [take, get_bind, queue]
  rfl

theorem drainUpTo_of_nil (host : Host H) (count : Nat) {world : World H}
    (empty : world.channel.queue = []) : drainUpTo host count world = .ok 0 world := by
  cases count with
  | zero => rfl
  | succ count =>
    rw [drainUpTo, bind_of_ok (take_of_nil empty)]
    rfl

theorem drainUpTo_of_stop (host : Host H) (count : Nat) {world : World H} {rest : List Entry}
    (queue : world.channel.queue = .stop :: rest) :
    drainUpTo host (count + 1) world =
      drainUpTo host count (world.mapChannel fun channel => { channel with queue := rest }) := by
  rw [drainUpTo, bind_of_ok (take_of_cons queue)]

theorem drainUpTo_of_command (host : Host H) (count : Nat) {world : World H} {envelope : Envelope}
    {rest : List Entry} (queue : world.channel.queue = .command envelope :: rest) :
    drainUpTo host (count + 1) world =
      (do
        apply host envelope
        return (← drainUpTo host count) + 1 : Eff H Nat)
      (world.mapChannel fun channel => { channel with queue := rest }) := by
  rw [drainUpTo, bind_of_ok (take_of_cons queue)]

theorem tryCatch_of_ok {operation : Eff H α} {handle : Failure → Eff H α} {world next : World H}
    {result : α} (ran : operation world = .ok result next) :
    (tryCatch operation handle) world = .ok result next := by
  change EStateM.tryCatch operation handle world = _
  delta EStateM.tryCatch
  simp only [ran]

theorem tryCatch_of_error {operation : Eff H α} {handle : Failure → Eff H α}
    {world next : World H} {failure : Failure} (ran : operation world = .error failure next) :
    (tryCatch operation handle) world = handle failure next := by
  change EStateM.tryCatch operation handle world = _
  delta EStateM.tryCatch
  simp only [ran]
  rfl

theorem serveUpTo_of_nil (host : Host H) (count : Nat) {world : World H}
    (empty : world.channel.queue = []) : serveUpTo host count world = .ok () world := by
  cases count with
  | zero => rfl
  | succ count =>
    rw [serveUpTo, bind_of_ok (take_of_nil empty)]
    rfl

/-- A stop entry ends the serving consumer. What waits behind it keeps waiting. -/
theorem serveUpTo_of_stop (host : Host H) (count : Nat) {world : World H} {rest : List Entry}
    (queue : world.channel.queue = .stop :: rest) :
    serveUpTo host (count + 1) world =
      .ok () (world.mapChannel fun channel =>
        { channel with queue := rest, serving := false }) := by
  rw [serveUpTo, bind_of_ok (take_of_cons queue)]
  rfl

theorem serveUpTo_of_handled (host : Host H) (count : Nat) {world next : World H}
    {envelope : Envelope} {rest : List Entry}
    (queue : world.channel.queue = .command envelope :: rest)
    (handled : apply host envelope
      (world.mapChannel fun channel => { channel with queue := rest }) = .ok () next) :
    serveUpTo host (count + 1) world = serveUpTo host count next := by
  rw [serveUpTo, bind_of_ok (take_of_cons queue)]
  exact bind_of_ok (tryCatch_of_ok handled)

/-- A serving consumer logs a failure and goes on. -/
theorem serveUpTo_of_failed (host : Host H) (count : Nat) {world next : World H}
    {envelope : Envelope} {rest : List Entry} {failure : Failure}
    (queue : world.channel.queue = .command envelope :: rest)
    (failed : apply host envelope
      (world.mapChannel fun channel => { channel with queue := rest }) = .error failure next) :
    serveUpTo host (count + 1) world =
      serveUpTo host count (next.record [.applyFailed envelope.command]) := by
  rw [serveUpTo, bind_of_ok (take_of_cons queue)]
  exact bind_of_ok (tryCatch_of_error failed)

/-- Draining a channel that is not served applies what waits at that moment. -/
theorem drain_of_unserved (host : Host H) {world : World H}
    (unserved : world.channel.serving = false) :
    drain host world = drainUpTo host world.channel.pending world := by
  change (if world.channel.serving = true then (throw Failure.consumerServing : Eff H PUnit)
    >>= _ else _ : Eff H Nat) world = _
  rw [unserved]
  rfl

theorem drain_of_serving (host : Host H) {world : World H}
    (serving : world.channel.serving = true) :
    drain host world = .error .consumerServing world := by
  change (if world.channel.serving = true then (throw Failure.consumerServing : Eff H PUnit)
    >>= _ else _ : Eff H Nat) world = _
  rw [if_pos serving]
  rfl

/-- There is nothing to drain when nothing waits. -/
theorem drain_of_empty (host : Host H) {world : World H}
    (unserved : world.channel.serving = false) (empty : world.channel.queue = []) :
    drain host world = .ok 0 world := by
  rw [drain_of_unserved host unserved]
  exact drainUpTo_of_nil host _ empty

theorem sendFromElsewhere_of_bound {world : World H} (bound : world.channel.bound = true)
    (command : Command) (router : Option RouterId) :
    sendFromElsewhere command router world = .ok () (world.mapChannel fun channel =>
      { channel with scheduled := channel.scheduled ++ [⟨command, router⟩] }) := by
  rw [sendFromElsewhere, get_bind, bound]
  rfl

theorem sendFromElsewhere_of_unbound {world : World H} (unbound : world.channel.bound = false)
    (command : Command) (router : Option RouterId) :
    sendFromElsewhere command router world = .error .channelUnbound world := by
  rw [sendFromElsewhere, get_bind, unbound]
  rfl

theorem startServing_of_unserved {world : World H} (unserved : world.channel.serving = false) :
    startServing world = .ok () (world.mapChannel fun channel =>
      { channel with serving := true, bound := true }) := by
  rw [startServing, get_bind, unserved]
  rfl

/-- A channel takes one consumer only. -/
theorem startServing_of_serving {world : World H} (serving : world.channel.serving = true) :
    startServing world = .error .consumerServing world := by
  rw [startServing, get_bind, serving]
  rfl

/-- When the loop runs, what was scheduled enters the queue. -/
theorem runLoop_of_unserved (host : Host H) {world : World H}
    (unserved : world.channel.serving = false) :
    runLoop host world = .ok () (world.mapChannel Channel.collect) := by
  change (if world.channel.serving then _ else _ : Eff H Unit) _ = _
  rw [unserved]
  rfl

theorem runLoop_of_serving (host : Host H) {world : World H}
    (serving : world.channel.serving = true) :
    runLoop host world =
      serveUpTo host world.channel.collect.pending (world.mapChannel Channel.collect) := by
  change (if world.channel.serving then _ else _ : Eff H Unit) _ = _
  rw [serving]
  rfl

end Eff

end ScreenScript
