import ScreenScript.Proofs.Handling
import ScreenScript.Proofs.Scheduling

/-! # Executing only sends

Whatever a node looks like, executing it moves no router and shows no alert: it stores values, it
leaves notices, and it puts commands on the channel. `Errand` lists all that can happen on the way
from one world to another, with the commands that are sent. Only listeners can do more, since they
are called when a value was stored, and nothing is assumed of them in an errand. So each part of the
world that is not stored in, noted or sent to ends as the listeners leave it. Routers are within
their reach, while sending, draining and closing take waiting, which a listener cannot do. The
commands are those of the library, addressed to the router of the execution or to none.
-/

namespace ScreenScript

variable {H : Type} {γ : Type}

/-- A command that executing an action may send: an alert under the configured title, or a move of
the router that the execution was given. -/
inductive Envelope.Sent (title : String) : Option RouterId → Envelope → Prop
  | alert (router : Option RouterId) (message : String) :
      Sent title router ⟨.showAlert title message, router⟩
  | navigate (id : RouterId) (screen : String) : Sent title (some id) ⟨.navigate screen, some id⟩
  | navigateBack (id : RouterId) : Sent title (some id) ⟨.navigateBack, some id⟩
  | reset (id : RouterId) (screen : String) : Sent title (some id) ⟨.reset screen, some id⟩
  | presentModal (id : RouterId) (screen : String) :
      Sent title (some id) ⟨.presentModal screen, some id⟩
  | dismissModal (id : RouterId) : Sent title (some id) ⟨.dismissModal, some id⟩

namespace Effect

variable {title : String} {router : Option RouterId} {name : String} {command : Command}

private theorem sent_route {asked : Command}
    (asks : ∀ id, Envelope.Sent title (some id) ⟨asked, some id⟩)
    (sends : route router.isSome name asked = .send command) :
    Envelope.Sent title router ⟨command, router⟩ := by
  cases router with
  | none => cases sends
  | some id =>
    cases sends
    exact asks id

private theorem sent_routeTo {params : Fields} {asked : String → Command}
    (asks : ∀ id screen, Envelope.Sent title (some id) ⟨asked screen, some id⟩)
    (sends : routeTo router.isSome name params asked = .send command) :
    Envelope.Sent title router ⟨command, router⟩ := by
  unfold routeTo at sends
  split at sends
  next screen _ => exact sent_route (asks · screen) sends
  · cases sends

private theorem sent_ofCommand {read : String → Option Value} {params : Fields}
    (sends : ofCommand title router.isSome read name params = .send command) :
    Envelope.Sent title router ⟨command, router⟩ := by
  unfold ofCommand at sends
  split at sends
  · exact sent_routeTo .navigate sends
  · exact sent_route .navigateBack sends
  · cases sends
    exact .alert router _
  · exact sent_routeTo .presentModal sends
  · exact sent_route .dismissModal sends
  · exact sent_routeTo .reset sends
  · cases sends

/-- What an instruction sends is well formed, however the instruction and the data look. -/
theorem sent_ofInstruction {read : String → Option Value} {instruction : Instruction}
    (sends : ofInstruction title router.isSome read instruction = .send command) :
    Envelope.Sent title router ⟨command, router⟩ := by
  cases instruction with
  | append path value =>
    rw [ofInstruction] at sends
    cases evaluated : Expression.evaluate read value <;> rw [evaluated] at sends <;> cases sends
  | set path value => cases sends
  | command name params => exact sent_ofCommand sends
  | unrecognized reason node => cases sends

end Effect

namespace World

theorem alertsOf_record (world : World H) (presenter : Presenter) {notice : Notice}
    (plain : notice.alert? = none) :
    (world.record [notice]).alertsOf presenter = world.alertsOf presenter := by
  cases presenter with
  | logging => simp [alertsOf, record, plain]
  | showing refuses => rfl

/-- Storing a value shows no alert. -/
theorem alertsOf_stored (world : World H) (presenter : Presenter) (scope : ScopeId)
    (path : String) (value : Value) :
    (world.stored scope path value).alertsOf presenter = world.alertsOf presenter := by
  unfold stored
  split
  · exact world.alertsOf_record presenter rfl
  · cases presenter <;> rfl

end World

namespace Eff

/-- All that happens between two worlds while an action is executed for a router, with the commands
that are sent. -/
inductive Errand (host : Host H) (router : Option RouterId) :
    World H → List Envelope → World H → Prop
  | done (world : World H) : Errand host router world [] world
  /-- A value is stored, or a notice is left if its path has no key. -/
  | store {world last : World H} {sent : List Envelope} (scope : ScopeId) (path : String)
      (value : Value) (later : Errand host router (world.stored scope path value) sent last) :
      Errand host router world sent last
  /-- A listener is told of a write. What it does is its own affair. -/
  | tell {world next last : World H} {sent : List Envelope} {listener path : String}
      (reacted : host.react listener (.wrote path)
        { world with calls := world.calls ++ [⟨listener, .wrote path⟩] } = .ok () next)
      (later : Errand host router next sent last) : Errand host router world sent last
  /-- A notice that is no alert is left. -/
  | note {world last : World H} {sent : List Envelope} (notice : Notice)
      (plain : notice.alert? = none)
      (later : Errand host router (world.record [notice]) sent last) :
      Errand host router world sent last
  /-- A command is sent, with the router. -/
  | send {world last : World H} {sent : List Envelope} {command : Command}
      (formed : Envelope.Sent world.alertTitle router ⟨command, router⟩)
      (later : Errand host router (after (send command router) world) sent last) :
      Errand host router world (⟨command, router⟩ :: sent) last

namespace Errand

variable {host : Host H} {router : Option RouterId} {world middle last : World H}
  {sent early late : List Envelope}

theorem append (first : Errand host router world early middle)
    (second : Errand host router middle late last) :
    Errand host router world (early ++ late) last := by
  induction first with
  | done world => exact second
  | store scope path value _ ih => exact .store scope path value (ih second)
  | tell reacted _ ih => exact .tell reacted (ih second)
  | note notice plain _ ih => exact .note notice plain (ih second)
  | send formed _ ih => exact .send formed (ih second)

/-- What is neither stored in, noted, counted as a call nor part of the channel is left to the
listeners. -/
theorem spared (errand : Errand host router world sent last) {part : World H → γ}
    (stored : ∀ world scope path value, part (world.stored scope path value) = part world)
    (noted : ∀ world notice, notice.alert? = none → part (world.record [notice]) = part world)
    (called : ∀ world calls, part { world with calls := calls } = part world)
    (sends : ∀ world channel, part { world with channel := channel } = part world)
    (listeners : ∀ listener path, Spares part (host.react listener (.wrote path))) :
    part last = part world := by
  induction errand with
  | done world => rfl
  | store scope path value _ ih => exact ih.trans (stored _ scope path value)
  | @tell world next last sent listener path reacted _ ih =>
    exact ih.trans (((listeners listener path).of_ok reacted).trans (called world _))
  | note notice plain _ ih => exact ih.trans (noted _ notice plain)
  | send _ _ ih => exact ih.trans (sends _ _)

/-- The queue grows by what is sent. -/
theorem queue_eq (errand : Errand host router world sent last)
    (listeners : ∀ listener path,
      Spares (fun world => world.channel.queue) (host.react listener (.wrote path))) :
    last.channel.queue = world.channel.queue ++ sent.map .command := by
  induction errand with
  | done world => exact (List.append_nil _).symm
  | store scope path value _ ih =>
    rw [World.channel_stored] at ih
    exact ih
  | @tell world next last sent listener path reacted _ ih =>
    have kept := (listeners listener path).of_ok reacted
    exact ih.trans (congrArg (· ++ sent.map .command) kept)
  | note notice plain _ ih => exact ih
  | @send world last sent command _ _ ih =>
    have entered : (after (Eff.send command router) world).channel.queue =
        world.channel.queue ++ [.command ⟨command, router⟩] := rfl
    rw [ih, entered, List.append_assoc]
    rfl

/-- As long as listeners leave the title alone, all that is sent is formed under the first one. -/
theorem formed (errand : Errand host router world sent last)
    (listeners : ∀ listener path,
      Spares World.alertTitle (host.react listener (.wrote path))) :
    ∀ envelope ∈ sent, envelope.Sent world.alertTitle router := by
  induction errand with
  | done world => exact List.forall_mem_nil _
  | store scope path value _ ih =>
    rw [World.alertTitle_stored] at ih
    exact ih
  | @tell world next last sent listener path reacted _ ih =>
    have kept := (listeners listener path).of_ok reacted
    rw [kept] at ih
    exact ih
  | note notice plain _ ih => exact ih
  | send formed _ ih => exact List.forall_mem_cons.mpr ⟨formed, ih⟩

end Errand

section

variable {host : Host H}
  (returns : ∀ listener path world,
    ∃ next, host.react listener (.wrote path) world = .ok () next)

include returns

private theorem exists_errand_callAll (router : Option RouterId) (path : String)
    (names : List String) (world : World H) :
    ∃ last, callAll host (fun _ => .wrote path) names world = .ok () last ∧
      Errand host router world [] last := by
  induction names generalizing world with
  | nil => exact ⟨world, rfl, .done world⟩
  | cons name rest ih =>
    obtain ⟨next, reacted⟩ := returns name path
      { world with calls := world.calls ++ [⟨name, .wrote path⟩] }
    obtain ⟨last, told, errand⟩ := ih next
    exact ⟨last, (bind_of_ok reacted).trans told, .tell reacted errand⟩

/-- An instruction returns, and sends one command at most. -/
theorem exists_errand_executeInstruction (scope : ScopeId) (router : Option RouterId)
    (instruction : Instruction) (world : World H) :
    ∃ sent last, executeInstruction host scope router instruction world = .ok () last ∧
      Errand host router world sent last := by
  have performed : executeInstruction host scope router instruction world =
      perform host scope router (Effect.ofInstruction world.alertTitle router.isSome
        (world.reader scope) instruction) world := rfl
  have plain := Effect.plain_ofInstruction world.alertTitle router.isSome (world.reader scope)
    instruction
  rw [performed]
  cases effect : Effect.ofInstruction world.alertTitle router.isSome (world.reader scope)
    instruction with
  | write path value =>
    obtain ⟨last, told, errand⟩ := exists_errand_callAll returns router path
      (if Path.ofText path = [] then [] else (world.scopes.get scope).listeners)
      (world.stored scope path value)
    exact ⟨[], last, (write_eq ..).trans told, .store scope path value errand⟩
  | send command =>
    exact ⟨_, _, rfl, .send (Effect.sent_ofInstruction effect) (.done _)⟩
  | skip notice =>
    rw [effect] at plain
    exact ⟨[], _, rfl, .note notice plain (.done _)⟩

/-- Every action returns, however it is nested, and is an errand. -/
theorem exists_errand_execute (scope : ScopeId) (router : Option RouterId) (action : Action)
    (world : World H) :
    ∃ sent last, execute host scope router action world = .ok () last ∧
      Errand host router world sent last := by
  rw [execute_eq_follow]
  induction action.instructions generalizing world with
  | nil => exact ⟨[], world, rfl, .done world⟩
  | cons instruction rest ih =>
    obtain ⟨early, middle, executed, first⟩ :=
      exists_errand_executeInstruction returns scope router instruction world
    obtain ⟨late, last, followed, second⟩ := ih middle
    exact ⟨early ++ late, last, (bind_of_ok executed).trans followed, first.append second⟩

end

/-- Executing any node at all returns, unless listeners fail, and is an errand: nothing but its
commands gets on the channel, no router is moved and no alert is shown, save by listeners. A router
that the listeners leave alone is as it was, and so are the alerts of the presenter if they leave
those alone. If they leave the queue alone, it is what it was with the commands of the errand behind
it; and each of these is well formed, with the configured title if it is an alert, and addressed to
the router of the execution. -/
theorem execute_of_node (host : Host H)
    (returns : ∀ listener path world,
      ∃ next, host.react listener (.wrote path) world = .ok () next)
    (scope : ScopeId) (router : Option RouterId) (node : Value) (world : World H) :
    ∃ sent last, execute host scope router (.ofNode node) world = .ok () last ∧
      Errand host router world sent last ∧
      (∀ id, (∀ listener path,
          Spares (fun world => world.routers id) (host.react listener (.wrote path))) →
        last.routers id = world.routers id) ∧
      ((∀ listener path, Spares (fun world => world.alertsOf host.presenter)
          (host.react listener (.wrote path))) →
        last.alertsOf host.presenter = world.alertsOf host.presenter) ∧
      ((∀ listener path,
          Spares (fun world => world.channel.queue) (host.react listener (.wrote path))) →
        last.channel.queue = world.channel.queue ++ sent.map .command) ∧
      ((∀ listener path, Spares World.alertTitle (host.react listener (.wrote path))) →
        ∀ envelope ∈ sent, envelope.Sent world.alertTitle router) := by
  obtain ⟨sent, last, executed, errand⟩ :=
    exists_errand_execute returns scope router (.ofNode node) world
  refine ⟨sent, last, executed, errand, ?routers, ?alerts, errand.queue_eq, errand.formed⟩
  case routers =>
    intro id listeners
    refine errand.spared ?_ (fun _ _ _ => rfl) (fun _ _ => rfl) (fun _ _ => rfl) listeners
    intro world scope path value
    rw [World.routers_stored]
  case alerts =>
    intro listeners
    exact errand.spared (fun world scope path value => world.alertsOf_stored ..)
      (fun world notice plain => world.alertsOf_record _ plain)
      (fun world calls => by cases host.presenter <;> rfl)
      (fun world channel => by cases host.presenter <;> rfl) listeners

/-- A host whose listeners note in the data that they were told. -/
private def noting : Host Unit :=
  ⟨fun listener _ => modify fun world => world.stored Scopes.main "seen" (.text listener), .logging⟩

private theorem noting_spares {part : World Unit → γ}
    (stored : ∀ world scope path value, part (world.stored scope path value) = part world)
    (listener path : String) : Spares part (noting.react listener (.wrote path)) :=
  fun world => stored world Scopes.main "seen" (.text listener)

/-- A world with a listener, a router that shows a screen, and a channel that was closed. -/
private def closed : World Unit :=
  after (do
      subscribe Scopes.main "log"
      preload World.mainRouter [⟨"home", [], none, .null⟩]
      let _ ← move Host.calm World.mainRouter (.reset (.text "home"))
      close)
    (.initial [] "Alerta" [] ())

/-- Steps of which only the second, the fourth and the last are actions. The last has a malformed
assignment beside its sequence. -/
private def tangled : Value :=
  .mapping [("sequence", .list [.null,
    .mapping [("set", .mapping [("var", .text "a"), ("value", .int 1)])],
    .mapping [("action", .text "reset"), ("params", .mapping [("screen", .int 3)])],
    .mapping [("action", .text "navigateBack"), ("params", .text "home")],
    .mapping [("append", .int 1), ("sequence", .list [
      .mapping [("action", .text "showAlert"), ("params", .list [])]])]])]

/-- Two commands get behind the stop entry, and nothing else happens to the router and to the
alerts. -/
theorem execute_of_node_tangled :
    ∃ sent last, execute noting Scopes.main (some World.mainRouter) (.ofNode tangled) closed =
        .ok () last ∧
      last.data Scopes.main = [("a", .int 1), ("seen", .text "log")] ∧
      last.routers World.mainRouter = closed.routers World.mainRouter ∧
      last.alertsOf .logging = [] ∧
      last.channel.queue = .stop :: sent.map .command ∧
      sent = [⟨.navigateBack, some World.mainRouter⟩,
        ⟨.showAlert "Alerta" "", some World.mainRouter⟩] ∧
      ∀ envelope ∈ sent, envelope.Sent "Alerta" (some World.mainRouter) := by
  obtain ⟨sent, last, executed, _, routers, alerts, queue, formed⟩ :=
    execute_of_node noting (fun listener path world => ⟨_, rfl⟩) Scopes.main
      (some World.mainRouter) tangled closed
  have same : after (execute noting Scopes.main (some World.mainRouter) (.ofNode tangled)) closed =
    last := after_of_ok executed
  have moved := routers World.mainRouter (noting_spares fun world scope path value => by
    rw [World.routers_stored])
  have shown := alerts (noting_spares fun world => world.alertsOf_stored _)
  have waits := queue (noting_spares fun world scope path value => by rw [World.channel_stored])
  have form := formed (noting_spares World.alertTitle_stored)
  refine ⟨sent, last, executed, same ▸ rfl, moved, shown, waits, ?_, form⟩
  rw [← same] at waits
  have sends : [⟨.navigateBack, some World.mainRouter⟩,
      ⟨.showAlert "Alerta" "", some World.mainRouter⟩].map Entry.command =
    sent.map .command := (List.cons.inj waits).2
  exact ((List.map_inj_right fun _ _ => Entry.command.inj).mp sends).symm

end Eff

end ScreenScript
