import ScreenScript.Proofs.Handling

/-! # Serving and draining again and again

The two consumers of a channel treat failures in opposite ways. A serving consumer reports the
failure of a command and goes on behind it. A drain ends with the failure, and what waits behind
the command is left to the next drain. Both come to the same thing: a consumer that serves up to a
stop entry, and drains that are repeated until one succeeds. They differ in the log only, where the
consumer has put one report for each drain that failed.

The two are compared on worlds that are alike, which may differ in their channels and in the
reports of their logs. So listeners must neither look at these nor change the channel.
-/

namespace ScreenScript

variable {H : Type} {α β : Type}

namespace World

/-- A world without its channel and its log. -/
def bare (world : World H) : World H :=
  { world with channel := .empty, notices := [] }

/-- A world on the channel of another one, with the log of that one before its own. -/
def onto (next world : World H) : World H :=
  { next with channel := world.channel, notices := world.notices ++ next.notices }

theorem onto_self (world : World H) : world.bare.onto world = world := by
  simp only [onto, bare, List.append_nil]

theorem onto_onto (last next world : World H) :
    (last.onto next).onto world = last.onto (next.onto world) := by
  simp only [onto, List.append_assoc]

/-- The records that report no failure. -/
def remarks (world : World H) : List Notice :=
  world.notices.filter fun notice => notice.report?.isNone

/-- Two worlds differ in nothing but their channels and the reports of failures. -/
structure Alike (world other : World H) : Prop where
  bare : world.bare = other.bare
  remarks : world.remarks = other.remarks

theorem Alike.onto {world other : World H} (alike : world.Alike other) (next : World H) :
    (next.onto world).Alike (next.onto other) where
  bare := rfl
  remarks := by
    have same : world.notices.filter _ = other.notices.filter _ := alike.remarks
    simp only [World.remarks, World.onto, List.filter_append, same]

theorem Alike.mapChannel {world other : World H} (alike : world.Alike other)
    (change change' : Channel → Channel) :
    (world.mapChannel change).Alike (other.mapChannel change') where
  bare := alike.bare
  remarks := alike.remarks

/-- A report makes no difference. -/
theorem Alike.report {world other : World H} (alike : world.Alike other) (command : Command) :
    (world.record [.applyFailed command]).Alike other where
  bare := alike.bare
  remarks := by
    have same : world.notices.filter _ = other.remarks := alike.remarks
    have dropped : [Notice.applyFailed command].filter (fun notice => notice.report?.isNone) = [] :=
      rfl
    simp only [World.remarks, World.record, List.filter_append, dropped, List.append_nil, same]

theorem reports_report (world : World H) (command : Command) :
    (world.record [.applyFailed command]).reports = world.reports ++ [command] :=
  List.filterMap_append

end World

namespace Eff

/-- An operation neither looks at the channel or the log nor changes the channel. It may add to
the log. -/
def Blind (operation : Eff H α) : Prop :=
  ∀ world, operation world =
    match operation world.bare with
    | .ok result next => .ok result (next.onto world)
    | .error failure next => .error failure (next.onto world)

namespace Blind

theorem of_ok {operation : Eff H α} (blind : Blind operation) {world next : World H} {result : α}
    (ran : operation world.bare = .ok result next) :
    operation world = .ok result (next.onto world) := by
  rw [blind world, ran]

theorem of_error {operation : Eff H α} (blind : Blind operation) {world next : World H}
    {failure : Failure} (ran : operation world.bare = .error failure next) :
    operation world = .error failure (next.onto world) := by
  rw [blind world, ran]

theorem pure (result : α) : Blind (Pure.pure result : Eff H α) :=
  fun world => congrArg (EStateM.Result.ok result) world.onto_self.symm

theorem throw (failure : Failure) : Blind (MonadExcept.throw failure : Eff H α) :=
  fun world => congrArg (EStateM.Result.error failure) world.onto_self.symm

theorem modify {change : World H → World H}
    (changed : ∀ world, change world = (change world.bare).onto world) :
    Blind (modify change : Eff H Unit) :=
  fun world => congrArg (EStateM.Result.ok ()) (changed world)

theorem bind {operation : Eff H α} {rest : α → Eff H β} (first : Blind operation)
    (second : ∀ result, Blind (rest result)) : Blind (operation >>= rest) := by
  intro world
  cases ran : operation world.bare with
  | error failure next => rw [bind_of_error (first.of_error ran), bind_of_error ran]
  | ok result next =>
    rw [bind_of_ok (first.of_ok ran), bind_of_ok ran]
    cases finished : rest result next.bare with
    | ok answer last =>
      have there : rest result (next.onto world) = _ := (second result).of_ok finished
      rw [there, (second result).of_ok finished]
      simp only [World.onto_onto]
    | error failure last =>
      have there : rest result (next.onto world) = _ := (second result).of_error finished
      rw [there, (second result).of_error finished]
      simp only [World.onto_onto]

theorem compositional : Compositional (H := H) fun _ operation => Blind operation where
  pure := pure
  throw := throw
  bind := bind

/-- In worlds that are alike a blind operation does the same, and keeps to the channel of each. -/
theorem alike {operation : Eff H α} (blind : Blind operation) {world other : World H}
    (alike : world.Alike other) :
    ∃ next next', next.Alike next' ∧ next.channel = world.channel ∧
      next'.channel = other.channel ∧
      ((∃ result, operation world = .ok result next ∧ operation other = .ok result next') ∨
        ∃ failure, operation world = .error failure next ∧
          operation other = .error failure next') := by
  cases ran : operation world.bare with
  | ok result next =>
    have ran' : operation other.bare = .ok result next := alike.bare ▸ ran
    exact ⟨next.onto world, next.onto other, alike.onto next, rfl, rfl,
      .inl ⟨result, blind.of_ok ran, blind.of_ok ran'⟩⟩
  | error failure next =>
    have ran' : operation other.bare = .error failure next := alike.bare ▸ ran
    exact ⟨next.onto world, next.onto other, alike.onto next, rfl, rfl,
      .inr ⟨failure, blind.of_error ran, blind.of_error ran'⟩⟩

end Blind

end Eff

open Eff

/-- The listeners of a host do not care for the channel and the log. They may add to the log, but
report no failures of commands there. They may do anything else, and fail. -/
structure Host.Aloof (host : Host H) : Prop where
  blind : ∀ listener event, Blind (host.react listener event)
  reports : ∀ listener event, Spares World.reports (host.react listener event)

/-- Listeners that do nothing, or fail as they always do. -/
theorem aloof_of_failing (fails : String → Event → Option Failure) (presenter : Presenter) :
    Host.Aloof (H := H) ⟨fun listener event => (fails listener event).elim (pure ()) throw,
      presenter⟩ where
  blind listener event := by
    change Blind ((fails listener event).elim (pure ()) throw)
    cases fails listener event with
    | none => exact .pure ()
    | some failure => exact .throw failure
  reports listener event := by
    change Spares World.reports ((fails listener event).elim (pure ()) throw)
    cases fails listener event with
    | none => exact fun _ => rfl
    | some failure => exact fun _ => rfl

namespace Eff

section

variable {host : Host H}

theorem blind_callAll (aloof : host.Aloof) {event : World H → Event}
    (unchanneled : ∀ world, event world.bare = event world) (names : List String) :
    Blind (callAll host event names) := by
  induction names with
  | nil => exact .pure ()
  | cons name rest ih =>
    intro world
    have told (other : World H) (same : event other = event world) :
        callAll host event (name :: rest) other = (do
          modify fun other => { other with calls := other.calls ++ [⟨name, event world⟩] }
          host.react name (event world)
          callAll host event rest : Eff H Unit) other := by
      rw [callAll, get_bind, same]
    rw [told world rfl, told world.bare (unchanneled world)]
    refine Blind.bind (.modify fun other => ?_)
      (fun _ => (aloof.blind name (event world)).bind fun _ => ih) world
    simp only [World.onto, World.bare, List.append_nil]

theorem blind_move (aloof : host.Aloof) (id : RouterId) (step : Move) :
    Blind (move host id step) := by
  intro world
  cases accepted : (world.routers id).move? step with
  | none =>
    have refused (other : World H) (same : other.routers = world.routers) :
        move host id step other = .ok false other := by
      rw [move, get_bind, same, accepted]
      rfl
    rw [refused world rfl, refused world.bare rfl]
    simp only [World.onto_self]
  | some next =>
    have made (other : World H) (same : other.routers = world.routers) :
        move host id step other = (do
          modify fun other => (other.mapRouter id fun _ => next).record
            (resetNotice (world.routers id) step)
          callAll host (fun other => .moved (((other.routers id).current?).map Screen.id))
            next.listeners
          return (world.routers id).succeeds step : Eff H Bool) other := by
      rw [move, get_bind, same, accepted]
    rw [made world rfl, made world.bare rfl]
    refine Blind.bind (.modify fun other => ?_)
      (fun _ => (blind_callAll aloof (fun _ => rfl) _).bind fun _ => .pure _) world
    simp only [World.onto, World.bare, World.mapRouter, World.record, List.nil_append]

theorem blind_record (notices : List Notice) :
    Blind (H := H) (modify fun world => world.record notices) := by
  refine .modify fun world => ?_
  simp only [World.onto, World.bare, World.record, List.nil_append]

theorem blind_present (host : Host H) (title message : Value) :
    Blind (present host title message) := by
  unfold present
  split
  · exact blind_record _
  · split
    · exact .throw _
    · refine .modify fun world => ?_
      simp only [World.onto, World.bare, List.append_nil]

/-- How a command is handled does not depend on what waits behind it or on what was logged. -/
theorem blind_apply (aloof : host.Aloof) (envelope : Envelope) : Blind (apply host envelope) := by
  have handling : Handling host envelope.router fun _ operation => Blind operation := {
    Blind.compositional with
    move := fun id step _ _ => blind_move aloof id step
    record := fun notices _ => blind_record notices
    present := blind_present host }
  exact handling.apply

theorem reports_apply (aloof : host.Aloof) (envelope : Envelope) :
    Spares World.reports (apply host envelope) :=
  spares_apply (beside_reports envelope.router) aloof.reports

end

/-- Drains lead from a world to another when they are repeated until one of them succeeds. So many
of them failed before. -/
inductive DrainsTo (host : Host H) : World H → Nat → World H → Prop
  | done {world last : World H} {applied : Nat} (drained : drain host world = .ok applied last) :
      DrainsTo host world 0 last
  | again {world middle last : World H} {raised : Nat} {failure : Failure}
      (failed : drain host world = .error failure middle)
      (later : DrainsTo host middle raised last) : DrainsTo host world (raised + 1) last

/-- Serves what waits up to a stop entry that is put behind it. -/
def serveToStop (host : Host H) : Eff H Unit := do
  close
  startServing
  serveUpTo host (← get).channel.pending

section

variable {host : Host H} {world next : World H} {envelope : Envelope} {rest : List Entry}

theorem drain_of_command (host : Host H) (unserved : world.channel.serving = false)
    (queue : world.channel.queue = .command envelope :: rest) :
    drain host world =
      (do
        apply host envelope
        return (← drainUpTo host rest.length) + 1 : Eff H Nat)
      (world.mapChannel fun channel => { channel with queue := rest }) := by
  have pending : world.channel.pending = rest.length + 1 := by
    simp only [Channel.pending, queue, List.length_cons]
  rw [drain_of_unserved host unserved, pending, drainUpTo_of_command host _ queue]

/-- A command that succeeds makes no difference to how many drains it takes. -/
theorem DrainsTo.of_handled (unserved : world.channel.serving = false)
    (queue : world.channel.queue = .command envelope :: rest)
    (handled : apply host envelope
      (world.mapChannel fun channel => { channel with queue := rest }) = .ok () next)
    (channel : next.channel = { world.channel with queue := rest })
    {raised : Nat} {last : World H} (later : DrainsTo host next raised last) :
    DrainsTo host world raised last := by
  have begun := drain_of_command host unserved queue
  rw [bind_of_ok handled] at begun
  have remaining : drain host next = drainUpTo host rest.length next := by
    have unserved' : next.channel.serving = false := by rw [channel, unserved]
    have pending : next.channel.pending = rest.length := by rw [channel]; rfl
    rw [drain_of_unserved host unserved', pending]
  cases later with
  | done drained =>
    rw [remaining] at drained
    rw [bind_of_ok drained] at begun
    exact .done begun
  | again failed later =>
    rw [remaining] at failed
    rw [bind_of_error failed] at begun
    exact .again begun later

private theorem exists_envelopes {entries : List Entry}
    (commands : ∀ entry ∈ entries, entry ≠ .stop) :
    ∃ waiting : List Envelope, entries = waiting.map .command := by
  induction entries with
  | nil => exact ⟨[], rfl⟩
  | cons entry rest ih =>
    obtain ⟨waiting, same⟩ := ih fun other member => commands other (.tail entry member)
    cases entry with
    | stop => exact absurd rfl (commands .stop (.head rest))
    | command envelope => exact ⟨envelope :: waiting, congrArg (Entry.command envelope :: ·) same⟩

/-- The simulation. The consumer and the drains have the same commands before them in worlds that
are alike. -/
private theorem serveUpTo_alike_drains (aloof : host.Aloof) (waiting : List Envelope)
    {world other : World H} (alike : world.Alike other)
    (queue : world.channel.queue = waiting.map .command ++ [.stop])
    (queue' : other.channel.queue = waiting.map .command)
    (unserved : other.channel.serving = false) :
    ∃ served drained raised, serveUpTo host (waiting.length + 1) world = .ok () served ∧
      DrainsTo host other raised drained ∧ served.Alike drained ∧
      served.reports.length = world.reports.length + raised ∧ drained.reports = other.reports ∧
      served.channel.queue = [] ∧ drained.channel.queue = [] := by
  induction waiting generalizing world other with
  | nil =>
    have drained : drain host other = .ok 0 other := by
      rw [drain_of_unserved host unserved, drainUpTo_of_nil host _ queue']
    exact ⟨_, other, 0, serveUpTo_of_stop host 0 queue, .done drained,
      alike.mapChannel _ id, rfl, rfl, rfl, queue'⟩
  | cons envelope rest ih =>
    let taken := world.mapChannel fun channel =>
      { channel with queue := rest.map .command ++ [.stop] }
    let taken' := other.mapChannel fun channel => { channel with queue := rest.map .command }
    obtain ⟨next, next', alike', channel, channel', ran⟩ :=
      (blind_apply aloof envelope).alike (alike.mapChannel _ _ : taken.Alike taken')
    have waits : next.channel.queue = rest.map .command ++ [.stop] := by rw [channel]; rfl
    have waits' : next'.channel.queue = rest.map .command := by rw [channel']; rfl
    have unserved' : next'.channel.serving = false := by rw [channel']; exact unserved
    have reports := reports_apply aloof envelope taken
    have reports' := reports_apply aloof envelope taken'
    obtain ⟨done, handled, handled'⟩ | ⟨failure, failed, failed'⟩ := ran
    · rw [after_of_ok handled] at reports
      rw [after_of_ok handled'] at reports'
      obtain ⟨served, drained, raised, ran, drains, ended, counted, kept, empty, empty'⟩ :=
        ih alike' waits waits' unserved'
      refine ⟨served, drained, raised, ?_, drains.of_handled unserved queue' handled' channel',
        ended, ?_, kept.trans reports', empty, empty'⟩
      · rw [List.length_cons, serveUpTo_of_handled host _ queue handled]
        exact ran
      · rw [counted, reports]
        rfl
    · rw [after_of_error failed] at reports
      rw [after_of_error failed'] at reports'
      obtain ⟨served, drained, raised, ran, drains, ended, counted, kept, empty, empty'⟩ :=
        ih (alike'.report envelope.command) waits waits' unserved'
      have stopped := drain_of_command host unserved queue'
      rw [bind_of_error failed'] at stopped
      refine ⟨served, drained, raised + 1, ?_, .again stopped drains, ended, ?_,
        kept.trans reports', empty, empty'⟩
      · rw [List.length_cons, serveUpTo_of_failed host _ queue failed]
        exact ran
      · have before : taken.reports.length = world.reports.length := rfl
        simp only [counted, World.reports_report, reports, List.length_append,
          List.length_singleton, before]
        omega

/-- A serving consumer and repeated drains are two ways to the same end. Whatever commands wait,
whatever the routers show, whichever alerts are refused and whichever listeners fail: serving them
up to a stop entry moves the routers, shows alerts and calls listeners exactly as draining again
and again until a drain succeeds. The consumer reports as many failures as drains failed, and
nothing waits in the end. -/
theorem serveToStop_of_drains (host : Host H) (aloof : host.Aloof) (world : World H)
    (unserved : world.channel.serving = false)
    (commands : ∀ entry ∈ world.channel.queue, entry ≠ .stop) :
    ∃ served drained raised, serveToStop host world = .ok () served ∧
      DrainsTo host world raised drained ∧
      served.routers = drained.routers ∧ served.alerts = drained.alerts ∧
      served.calls = drained.calls ∧ served.remarks = drained.remarks ∧
      served.reports.length = world.reports.length + raised ∧ drained.reports = world.reports ∧
      served.channel.queue = [] ∧ drained.channel.queue = [] := by
  obtain ⟨waiting, queue⟩ := exists_envelopes commands
  let serving := world.mapChannel fun channel =>
    { channel.enqueue .stop with serving := true, bound := true }
  have queue' : serving.channel.queue = waiting.map .command ++ [.stop] :=
    congrArg (· ++ [Entry.stop]) queue
  have pending : serving.channel.pending = waiting.length + 1 := by
    rw [Channel.pending, queue']
    simp
  have begun : serveToStop host world = serveUpTo host (waiting.length + 1) serving := by
    have closed : (world.mapChannel (·.enqueue .stop)).channel.serving = false := unserved
    rw [← pending]
    exact bind_of_ok (startServing_of_unserved closed)
  have alike : serving.Alike world := ⟨rfl, rfl⟩
  obtain ⟨served, drained, raised, ran, drains, ended, counted, kept, empty, empty'⟩ :=
    serveUpTo_alike_drains aloof waiting alike queue' queue unserved
  have routers : served.bare.routers = drained.bare.routers := by rw [ended.bare]
  have alerts : served.bare.alerts = drained.bare.alerts := by rw [ended.bare]
  have calls : served.bare.calls = drained.bare.calls := by rw [ended.bare]
  exact ⟨served, drained, raised, begun.trans ran, drains, routers, alerts, calls, ended.remarks,
    counted, kept, empty, empty'⟩

private def moody : Host Unit :=
  ⟨fun listener _ => (if listener = "bad" then some Failure.listenerFailed else none).elim
    (pure ()) throw, .refusing [.text "x"]⟩

/-- An alert that is refused, a move whose second listener fails, and an alert that is shown. -/
private def attended : World Unit :=
  { World.initial [] "Alerta" [] () with
    routers := fun _ => { Router.empty with listeners := ["good", "bad", "late"] }
    channel := { Channel.empty with
      queue := [.command ⟨.showAlert "Alerta" "x", none⟩,
        .command ⟨.reset "home", some World.mainRouter⟩,
        .command ⟨.showAlert "Alerta" "y", none⟩] } }

theorem serveToStop_of_drains_moody :
    attended.channel.serving = false ∧ (∀ entry ∈ attended.channel.queue, entry ≠ .stop) ∧
      ∃ served drained, serveToStop moody attended = .ok () served ∧
        DrainsTo moody attended 2 drained ∧ drained.alerts = [(.text "Alerta", .text "y")] ∧
        drained.calls = [⟨"good", .moved none⟩, ⟨"bad", .moved none⟩] ∧
        served.routers = drained.routers := by
  have commands : ∀ entry ∈ attended.channel.queue, entry ≠ .stop := by
    simp [attended]
  obtain ⟨served, drained, raised, ran, drains, routers, alerts, calls, _, counted, _⟩ :=
    serveToStop_of_drains moody (aloof_of_failing _ _) attended rfl commands
  have same : after (serveToStop moody) attended = served := after_of_ok ran
  have reported : (after (serveToStop moody) attended).reports.length = 2 := rfl
  have none : attended.reports.length = 0 := rfl
  have twice : raised = 2 := by
    rw [same] at reported
    omega
  rw [twice] at drains
  refine ⟨rfl, commands, served, drained, ran, drains, ?_, ?_, routers⟩
  · rw [← alerts, ← same]
    rfl
  · rw [← calls, ← same]
    rfl

end

end Eff

end ScreenScript
