import ScreenScript.Proofs.Channel.ExactlyOnce

/-! # A channel has one consumer at a time

Any number of tasks may be created to serve one channel, and others send to it, close it and drain
it meanwhile. The tasks start in any order and run in turns: a task that serves takes at most one
entry in its turn, so every interleaving is covered in which it takes more. `Loop.Sound` is the
invariant: at most one task serves, and the channel is marked as served exactly when one does.
A task that is refused as a second consumer leaves the mark alone, since it never set it.
What a task does from the turn on in which it starts to serve is a `Journey`: the entries that it
takes are the commands in front of the first stop entry, and that entry.

Listeners may do anything but change the queue or the mark: sending, closing, draining and serving
take waiting, which a listener cannot do. It can still have commands sent from elsewhere.
-/

namespace ScreenScript

variable {H : Type}

/-- The listeners of a host leave alone what waits on the channel, and whether it is served. -/
def Host.OffQueue (host : Host H) : Prop :=
  ∀ listener event, Eff.Spares (fun world => (world.channel.queue, world.channel.serving))
    (host.react listener event)

namespace Channel

open Eff

/-- Whether an operation is for those who do not serve the channel. -/
def Operation.isVisit : Operation → Bool
  | .startServing | .serve _ | .runLoop => false
  | _ => true

/-- The life of a task that is to serve the channel. -/
inductive Task where
  | created
  | serving
  /-- It failed when it started, since another one was serving. -/
  | refused
  /-- It met a stop entry. -/
  | ended
deriving DecidableEq

/-- A world with the tasks that were created to serve its channel. -/
structure Loop (H : Type) where
  world : World H
  tasks : List Task

/-- Something that happens on a loop. -/
inductive Act where
  /-- Someone who does not serve uses the channel. -/
  | visit (operation : Operation) (visit : operation.isVisit = true)
  | create
  | run (task : Nat)

/-- An act under a host of its own. -/
structure Happening (H : Type) where
  host : Host H
  act : Act

namespace Loop

/-- A task has its turn: it starts to serve, or it takes an entry if one waits. -/
def run (loop : Loop H) (host : Host H) (index : Nat) : Loop H :=
  match loop.tasks[index]? with
  | some .created =>
    match startServing loop.world with
    | .ok _ next => ⟨next, loop.tasks.set index .serving⟩
    | .error _ next => ⟨next, loop.tasks.set index .refused⟩
  | some .serving =>
    ⟨after (serveUpTo host 1) loop.world,
      match loop.world.channel.queue with
      | .stop :: _ => loop.tasks.set index .ended
      | _ => loop.tasks⟩
  | _ => loop

def step (loop : Loop H) (happening : Happening H) : Loop H :=
  match happening.act with
  | .visit operation _ =>
    { loop with world := after (operation.perform happening.host) loop.world }
  | .create => { loop with tasks := loop.tasks ++ [.created] }
  | .run index => loop.run happening.host index

def play (loop : Loop H) (happenings : List (Happening H)) : Loop H :=
  happenings.foldl step loop

/-- A task serves the channel. -/
def Serves (loop : Loop H) (index : Nat) : Prop :=
  loop.tasks[index]? = some .serving

/-- At most one task serves, and the channel is marked as served exactly when one does. -/
structure Sound (loop : Loop H) : Prop where
  unique : ∀ index other, loop.Serves index → loop.Serves other → index = other
  marked : loop.world.channel.serving = true ↔ ∃ index, loop.Serves index

end Loop

section

variable {host : Host H}

/-- Handling a command leaves the queue and the mark alone. -/
private theorem spares_queue_apply (off : host.OffQueue) (envelope : Envelope) :
    Spares (fun world => (world.channel.queue, world.channel.serving)) (apply host envelope) :=
  spares_apply
    (beside_channel (fun channel => (channel.queue, channel.serving)) envelope.router) off

/-- What a turn of a serving task makes of the queue and of the mark. -/
theorem after_serveUpTo_one (off : host.OffQueue) (world : World H) :
    (after (serveUpTo host 1) world).channel.queue = world.channel.queue.tail ∧
      (after (serveUpTo host 1) world).channel.serving =
        match world.channel.queue with
        | .stop :: _ => false
        | _ => world.channel.serving := by
  cases queue : world.channel.queue with
  | nil =>
    rw [after_of_ok (serveUpTo_of_nil host 1 queue)]
    exact ⟨queue, rfl⟩
  | cons entry waiting =>
    cases entry with
    | stop =>
      rw [after_of_ok (serveUpTo_of_stop host 0 queue)]
      exact ⟨rfl, rfl⟩
    | command envelope =>
      have spares := spares_queue_apply off envelope
      cases handled : apply host envelope
        (world.mapChannel fun channel => { channel with queue := waiting }) with
      | ok done next =>
        rw [after_of_ok (serveUpTo_of_handled host 0 queue handled)]
        exact Prod.mk.inj (spares.of_ok handled)
      | error failure next =>
        rw [after_of_ok (serveUpTo_of_failed host 0 queue handled)]
        exact Prod.mk.inj (spares.of_error handled)

private theorem sustains_serving_drainUpTo (off : host.OffQueue) (served : Bool) (count : Nat) :
    Sustains (fun world => world.channel.serving = served) (Eff.drainUpTo host count) :=
  sustains_drainUpTo (fun _ _ same => same)
    (fun envelope world same => (Prod.mk.inj (spares_queue_apply off envelope world)).2.trans same)
    count

/-- What is sent from elsewhere does not get in yet. -/
private theorem spares_queue_sendFromElsewhere (command : Command) (router : Option RouterId) :
    Spares (H := H) (fun world => (world.channel.queue, world.channel.serving))
      (Eff.sendFromElsewhere command router) := by
  intro world
  cases bound : world.channel.bound with
  | true => rw [after_of_ok (sendFromElsewhere_of_bound bound command router)]; rfl
  | false => rw [after_of_error (sendFromElsewhere_of_unbound bound command router)]

/-- Whoever does not serve leaves the mark alone. -/
theorem spares_serving_visit (off : host.OffQueue) {operation : Operation}
    (visit : operation.isVisit = true) :
    Spares (fun world => world.channel.serving) (operation.perform host) := by
  intro world
  have drains {count : Nat} (takes : operation.takes? world.channel = some count) :
      (after (operation.perform host) world).channel.serving = world.channel.serving := by
    have drained := (sustains_serving_drainUpTo off world.channel.serving count).bind
      (fun _ => (Sustains.compositional _).pure ()) world rfl
    have performed := operation.perform_of_takes host takes
    cases serving : world.channel.serving with
    | true =>
      rw [if_pos serving] at performed
      rw [after_of_error performed, serving]
    | false =>
      rw [if_neg (by simp [serving])] at performed
      unfold after at drained ⊢
      rw [performed, ← serving]
      exact drained
  cases operation with
  | send command router => rfl
  | bind => rfl
  | close => rfl
  | sendFromElsewhere command router =>
    exact (Prod.mk.inj (spares_queue_sendFromElsewhere command router world)).2
  | letIn =>
    change world.channel.letIn.serving = world.channel.serving
    unfold letIn
    split <;> rfl
  | drain => exact drains rfl
  | drainUpTo count => exact drains rfl
  | _ => cases visit

/-- While the channel is served, whoever does not serve only lets entries in. -/
theorem queue_visit {operation : Operation} (visit : operation.isVisit = true) {world : World H}
    (served : world.channel.serving = true) :
    (after (operation.perform host) world).channel.queue =
      world.channel.queue ++ operation.enters world.channel := by
  have drains {count : Nat} (takes : operation.takes? world.channel = some count) :
      after (operation.perform host) world = world := by
    have refused := operation.perform_of_takes host takes
    rw [if_pos served] at refused
    exact after_of_error refused
  cases operation with
  | send command router => rfl
  | bind => exact (List.append_nil _).symm
  | close => rfl
  | sendFromElsewhere command router =>
    have spared := spares_queue_sendFromElsewhere command router world
    exact (Prod.mk.inj spared).1.trans (List.append_nil _).symm
  | letIn =>
    change world.channel.letIn.queue = _ ++ (world.channel.scheduled.take 1).map .command
    unfold letIn
    split
    next none => rw [none]; exact (List.append_nil _).symm
    next envelope rest some => rw [some]; rfl
  | drain => rw [drains rfl]; exact (List.append_nil _).symm
  | drainUpTo count => rw [drains rfl]; exact (List.append_nil _).symm
  | _ => cases visit

end

namespace Loop

variable {loop : Loop H} {host : Host H} {index : Nat}

theorem run_of_created (created : loop.tasks[index]? = some .created)
    (unserved : loop.world.channel.serving = false) :
    loop.run host index =
      ⟨loop.world.mapChannel fun channel => { channel with serving := true, bound := true },
        loop.tasks.set index .serving⟩ := by
  rw [run, created, startServing_of_unserved unserved]

/-- A task that starts while another one serves is refused, which changes nothing else. -/
theorem run_of_second (created : loop.tasks[index]? = some .created)
    (served : loop.world.channel.serving = true) :
    loop.run host index = { loop with tasks := loop.tasks.set index .refused } := by
  rw [run, created, startServing_of_serving served]

theorem run_of_serves (serves : loop.Serves index) :
    loop.run host index =
      ⟨after (serveUpTo host 1) loop.world,
        match loop.world.channel.queue with
        | .stop :: _ => loop.tasks.set index .ended
        | _ => loop.tasks⟩ := by
  rw [run, serves]

theorem serves_set {world : World H} {task : Task} {other : Nat}
    (there : index < loop.tasks.length) :
    Serves ⟨world, loop.tasks.set index task⟩ other ↔
      if other = index then task = .serving else loop.Serves other := by
  unfold Serves
  rw [List.getElem?_set]
  by_cases same : index = other
  · subst same
    simp [there]
  · simp [same, Ne.symm same]

/-- A task that is created does not serve yet. -/
theorem serves_create {other : Nat} :
    Serves { loop with tasks := loop.tasks ++ [.created] } other ↔ loop.Serves other := by
  unfold Serves
  by_cases there : other < loop.tasks.length
  · rw [List.getElem?_append_left there]
  · have outside : loop.tasks[other]? = none := List.getElem?_eq_none (Nat.le_of_not_lt there)
    rw [List.getElem?_append_right (Nat.le_of_not_lt there), outside]
    cases other - loop.tasks.length <;> simp

/-- A turn gives the channel neither a second consumer nor a wrong mark. -/
theorem Sound.run (sound : loop.Sound) (off : host.OffQueue) (index : Nat) :
    (loop.run host index).Sound := by
  cases task : loop.tasks[index]? with
  | none =>
    rw [Loop.run, task]
    exact sound
  | some life =>
    have there : index < loop.tasks.length := (List.getElem?_eq_some_iff.mp task).1
    cases life with
    | created =>
      cases serving : loop.world.channel.serving with
      | true =>
        rw [run_of_second task serving]
        have same (other : Nat) :
            Serves ⟨loop.world, loop.tasks.set index .refused⟩ other ↔ loop.Serves other := by
          rw [serves_set there]
          split
          next here => simp [Serves, here, task]
          · rfl
        refine ⟨fun one other first second => ?_, ?_⟩
        · exact sound.unique one other ((same one).mp first) ((same other).mp second)
        · exact sound.marked.trans (exists_congr fun other => (same other).symm)
      | false =>
        rw [run_of_created task serving]
        have alone (other : Nat) : ¬ loop.Serves other := by
          intro serves
          rw [sound.marked.mpr ⟨other, serves⟩] at serving
          cases serving
        have only {world : World H} {other : Nat}
            (serves : Serves ⟨world, loop.tasks.set index .serving⟩ other) : other = index := by
          rw [serves_set there] at serves
          split at serves
          · assumption
          · exact absurd serves (alone other)
        refine ⟨fun one other first second => (only first).trans (only second).symm, ?_⟩
        exact ⟨fun _ => ⟨index, (serves_set there).mpr (by simp)⟩, fun _ => rfl⟩
    | serving =>
      obtain ⟨-, mark⟩ := after_serveUpTo_one off loop.world
      rw [run_of_serves task]
      match queue : loop.world.channel.queue with
      | [] =>
        rw [queue] at mark
        exact ⟨sound.unique, mark.symm ▸ sound.marked⟩
      | .command envelope :: waiting =>
        rw [queue] at mark
        exact ⟨sound.unique, mark.symm ▸ sound.marked⟩
      | .stop :: waiting =>
        rw [queue] at mark
        have idle (world : World H) (other : Nat) :
            ¬ Serves ⟨world, loop.tasks.set index .ended⟩ other := by
          rw [serves_set there]
          split
          · exact Task.noConfusion
          next other => exact fun serves => other (sound.unique _ _ serves task)
        refine ⟨fun one other first => absurd first (idle _ one), fun set => ?_, ?_⟩
        · cases mark.symm.trans set
        · rintro ⟨other, serves⟩
          exact absurd serves (idle _ other)
    | refused =>
      rw [Loop.run, task]
      exact sound
    | ended =>
      rw [Loop.run, task]
      exact sound

/-- Nothing that happens gives the channel a second consumer, or a wrong mark. -/
theorem Sound.step (sound : loop.Sound) {happening : Happening H}
    (off : happening.host.OffQueue) : (loop.step happening).Sound := by
  obtain ⟨host, act⟩ := happening
  cases act with
  | visit operation visit =>
    have spared : (after (operation.perform host) loop.world).channel.serving =
        loop.world.channel.serving := spares_serving_visit off visit loop.world
    exact ⟨sound.unique, spared.symm ▸ sound.marked⟩
  | create =>
    refine ⟨fun index other here there => ?_, ?_⟩
    · exact sound.unique index other (serves_create.mp here) (serves_create.mp there)
    · exact sound.marked.trans (exists_congr fun index => serves_create.symm)
  | run index => exact sound.run off index

theorem Sound.of_new (new : loop.tasks = []) (unserved : loop.world.channel.serving = false) :
    loop.Sound := by
  have idle (index : Nat) : ¬ loop.Serves index := by
    intro serves
    rw [Serves, new] at serves
    cases serves
  refine ⟨fun index other serves => absurd serves (idle index), ?_⟩
  rw [unserved]
  constructor
  · intro marked
    cases marked
  · rintro ⟨index, serves⟩
    exact absurd serves (idle index)

theorem Sound.play {happenings : List (Happening H)} (sound : loop.Sound)
    (off : ∀ happening ∈ happenings, happening.host.OffQueue) : (loop.play happenings).Sound := by
  induction happenings generalizing loop with
  | nil => exact sound
  | cons happening rest ih =>
    obtain ⟨first, later⟩ := List.forall_mem_cons.mp off
    exact ih (sound.step first) later

theorem play_append (loop : Loop H) (early late : List (Happening H)) :
    loop.play (early ++ late) = (loop.play early).play late :=
  List.foldl_append ..

/-- A task that has ended has ended for good. -/
theorem ended_play {happenings : List (Happening H)} (ended : loop.tasks[index]? = some .ended) :
    (loop.play happenings).tasks[index]? = some .ended := by
  induction happenings generalizing loop with
  | nil => exact ended
  | cons happening rest ih =>
    refine ih ?_
    obtain ⟨host, act⟩ := happening
    have there : index < loop.tasks.length := (List.getElem?_eq_some_iff.mp ended).1
    cases act with
    | visit operation visit => exact ended
    | create => exact (List.getElem?_append_left there).trans ended
    | run other =>
      have kept (task : Task) (differ : loop.tasks[other]? ≠ some .ended) :
          (loop.tasks.set other task)[index]? = some .ended := by
        have apart : other ≠ index := fun same => differ (same ▸ ended)
        rw [List.getElem?_set_ne apart, ended]
      change (loop.run host other).tasks[index]? = some .ended
      unfold Loop.run
      split
      next task => split <;> exact kept _ (by simp [task])
      next task =>
        split
        · exact kept _ (by simp [task])
        · exact ended
      · exact ended

end Loop

def Act.enters (channel : Channel) : Act → List Entry
  | .visit operation _ => operation.enters channel
  | _ => []

/-- The deeds on a channel during what happens on a loop, where failures of commands are logged. -/
inductive Journey : Loop H → List (Happening H) → List Deed → Prop
  | rest (loop : Loop H) : Journey loop [] []
  | step {loop : Loop H} {happening : Happening H} {rest : List (Happening H)}
      {now later : List Deed} {outcome : Option Failure}
      (passage : Passage happening.host .logs loop.world now outcome (loop.step happening).world)
      (orderly : Orderly now) (enters : entered now = happening.act.enters loop.world.channel)
      (after : Journey (loop.step happening) rest later) :
      Journey loop (happening :: rest) (now ++ later)

namespace Journey

variable {loop : Loop H} {happenings : List (Happening H)} {deeds : List Deed}

theorem one {happening : Happening H} {outcome : Option Failure}
    (passage : Passage happening.host .logs loop.world deeds outcome (loop.step happening).world)
    (orderly : Orderly deeds) (enters : entered deeds = happening.act.enters loop.world.channel) :
    Journey loop [happening] deeds := by
  have journey := Journey.step passage orderly enters (.rest _)
  rw [List.append_nil] at journey
  exact journey

theorem append {early late : List (Happening H)} {deeds' : List Deed}
    (first : Journey loop early deeds) (second : Journey (loop.play early) late deeds') :
    Journey loop (early ++ late) (deeds ++ deeds') := by
  induction first with
  | rest loop => exact second
  | step passage orderly enters _ ih =>
    rw [List.append_assoc]
    exact .step passage orderly enters (ih second)

theorem flows (journey : Journey loop happenings deeds)
    (off : ∀ happening ∈ happenings, happening.host.OffQueue) :
    Flows loop.world.channel.queue deeds (loop.play happenings).world.channel.queue := by
  induction journey with
  | rest loop => exact .rest _
  | step passage _ _ _ ih =>
    obtain ⟨first, later⟩ := List.forall_mem_cons.mp off
    have now := passage.flows fun listener event world =>
      (Prod.mk.inj (first listener event world)).1
    exact now.append (ih later)

theorem orderly (journey : Journey loop happenings deeds) : Orderly deeds := by
  induction journey with
  | rest loop => exact .none
  | step _ orderly _ _ ih => exact orderly.append ih

end Journey

/-- It makes no difference what becomes of failing commands where no command is handed over. -/
theorem Passage.of_unhanded {host : Host H} {policy other : Policy} {world last : World H}
    {deeds : List Deed} {outcome : Option Failure}
    (passage : Passage host policy world deeds outcome last) (none : handed deeds = []) :
    Passage host other world deeds outcome last := by
  induction passage with
  | rest world => exact .rest world
  | refused world failure => exact .refused world failure
  | enter entry _ ih => exact .enter entry (ih none)
  | take next _ ih => exact .take next (ih none)
  | aside _ same ih => exact .aside (ih none) same
  | hand => cases none
  | abort => cases none
  | survive => cases none

/-- What has become of the task that served. -/
inductive Loop.Onward (loop : Loop H) (index : Nat) (deeds : List Deed) : Prop
  /-- It serves still. If anything was taken, then commands. -/
  | serving (serves : loop.Serves index) (envelopes : List Envelope)
      (takes : taken deeds = envelopes.map .command)
  /-- A stop entry was taken, which ended it and cleared the mark. -/
  | ended (ended : loop.tasks[index]? = some .ended) (takes : taken deeds = [.stop])
      (unserved : loop.world.channel.serving = false)

section

variable {loop : Loop H} {host : Host H} {index : Nat}

/-- In its turn the task that serves takes the entry that is next, if there is one. -/
private theorem exists_journey_turn (serves : loop.Serves index) (off : host.OffQueue) :
    ∃ deeds, Journey loop [⟨host, .run index⟩] deeds ∧
      (loop.run host index).Onward index deeds := by
  obtain ⟨deeds, ⟨passage, orderly⟩, none⟩ := exists_account_serveUpTo host 1 loop.world
  obtain ⟨tail, mark⟩ := after_serveUpTo_one off loop.world
  have ran : loop.run host index = _ := Loop.run_of_serves serves
  have there : index < loop.tasks.length := (List.getElem?_eq_some_iff.mp serves).1
  have takes : taken deeds = loop.world.channel.queue.take 1 := by
    have conserved := (passage.flows fun listener event world =>
      (Prod.mk.inj (off listener event world)).1).conserved
    rw [none, List.append_nil, tail, ← List.drop_one] at conserved
    exact (List.append_cancel_right ((List.take_append_drop 1 _).trans conserved)).symm
  have journey : Journey loop [⟨host, .run index⟩] deeds := by
    have led : (loop.step ⟨host, .run index⟩).world = after (serveUpTo host 1) loop.world :=
      congrArg Loop.world ran
    exact .one (led.symm ▸ passage) orderly none
  refine ⟨deeds, journey, ?_⟩
  rw [ran]
  match queue : loop.world.channel.queue with
  | [] =>
    rw [queue] at takes
    exact .serving serves [] takes
  | .command envelope :: waiting =>
    rw [queue] at takes
    exact .serving serves [envelope] takes
  | .stop :: waiting =>
    rw [queue] at takes mark
    exact .ended (List.getElem?_set_self there) takes mark

/-- A turn of another task changes neither the world nor the task that serves. -/
private theorem run_of_other (host : Host H) (sound : loop.Sound) (serves : loop.Serves index)
    {other : Nat} (differ : other ≠ index) :
    (loop.run host other).world = loop.world ∧ (loop.run host other).Serves index := by
  have served := sound.marked.mpr ⟨index, serves⟩
  cases task : loop.tasks[other]? with
  | none =>
    rw [Loop.run, task]
    exact ⟨rfl, serves⟩
  | some life =>
    cases life with
    | created =>
      rw [Loop.run_of_second task served]
      exact ⟨rfl, (List.getElem?_set_ne differ).trans serves⟩
    | serving => exact absurd (sound.unique other index task serves) differ
    | refused =>
      rw [Loop.run, task]
      exact ⟨rfl, serves⟩
    | ended =>
      rw [Loop.run, task]
      exact ⟨rfl, serves⟩

/-- While a task serves, nobody else takes an entry. -/
private theorem exists_journey_step (sound : loop.Sound) (serves : loop.Serves index)
    {happening : Happening H} (off : happening.host.OffQueue) :
    ∃ deeds, Journey loop [happening] deeds ∧ (loop.step happening).Onward index deeds := by
  obtain ⟨host, act⟩ := happening
  cases act with
  | create =>
    exact ⟨[], .one (.rest _) .none rfl, .serving (Loop.serves_create.mpr serves) [] rfl⟩
  | visit operation visit =>
    obtain ⟨deeds, ⟨passage, orderly⟩, enters⟩ := operation.exists_account host loop.world
    have none : taken deeds = [] := by
      have conserved := (passage.flows fun listener event world =>
        (Prod.mk.inj (off listener event world)).1).conserved
      rw [queue_visit visit (sound.marked.mpr ⟨index, serves⟩), enters] at conserved
      exact List.self_eq_append_left.mp conserved
    have unhanded : handed deeds = [] := by
      rw [orderly.handed_eq, none]
      rfl
    exact ⟨deeds, .one (passage.of_unhanded unhanded) orderly enters, .serving serves [] none⟩
  | run other =>
    by_cases same : other = index
    · subst same
      exact exists_journey_turn serves off
    · obtain ⟨led, onward⟩ := run_of_other host sound serves same
      have passage : Passage host .logs loop.world [] none (loop.step ⟨host, .run other⟩).world :=
        led.symm ▸ .rest loop.world
      exact ⟨[], .one passage .none rfl, .serving onward [] rfl⟩

/-- What happens while a task serves, if it serves still. -/
theorem exists_journey {happenings : List (Happening H)} (sound : loop.Sound)
    (serves : loop.Serves index) (off : ∀ happening ∈ happenings, happening.host.OffQueue)
    (still : (loop.play happenings).Serves index) :
    ∃ deeds, Journey loop happenings deeds ∧
      ∃ envelopes : List Envelope, taken deeds = envelopes.map .command := by
  induction happenings generalizing loop with
  | nil => exact ⟨[], .rest loop, [], rfl⟩
  | cons happening rest ih =>
    obtain ⟨first, later⟩ := List.forall_mem_cons.mp off
    obtain ⟨now, journey, ⟨onward, envelopes, takes⟩ | ⟨ended, -, -⟩⟩ :=
      exists_journey_step sound serves first
    · obtain ⟨deeds, journey', envelopes', takes'⟩ := ih (sound.step first) onward later still
      refine ⟨now ++ deeds, journey.append journey', envelopes ++ envelopes', ?_⟩
      rw [List.map_append, ← takes, ← takes']
      exact List.filterMap_append ..
    · cases (Loop.ended_play ended).symm.trans still

/-- While the channel is served, a drain fails and so does whoever starts to serve, and nothing else
comes of it. -/
structure Loop.Refuses (loop : Loop H) : Prop where
  drain : ∀ host, Eff.drain host loop.world = .error .consumerServing loop.world
  serve : startServing loop.world = .error .consumerServing loop.world
  start : ∀ host index, loop.tasks[index]? = some .created →
    loop.run host index = { loop with tasks := loop.tasks.set index .refused }

/-- While nobody serves the channel, a drain takes what waits, and a task that starts serves. -/
structure Loop.Accepts (loop : Loop H) : Prop where
  drain : ∀ host, Eff.drain host loop.world =
    Eff.drainUpTo host loop.world.channel.pending loop.world
  start : ∀ host index, loop.tasks[index]? = some .created →
    loop.run host index =
      ⟨loop.world.mapChannel fun channel => { channel with serving := true, bound := true },
        loop.tasks.set index .serving⟩

theorem Loop.refuses (served : loop.world.channel.serving = true) : loop.Refuses where
  drain host := drain_of_serving host served
  serve := startServing_of_serving served
  start _ _ created := run_of_second created served

theorem Loop.accepts (unserved : loop.world.channel.serving = false) : loop.Accepts where
  drain host := drain_of_unserved host unserved
  start _ _ created := run_of_created created unserved

end

/-- However tasks that serve a channel and others that use it are interleaved: at every moment at
most one task serves, and the channel is marked as served exactly when one does. As long as it
does, all others are refused and change nothing; otherwise they are accepted. From any moment at
which a task serves to the turn in which it stops doing so, it has handed over, in order, the
commands that waited or got in ahead of the first stop entry, where failures were logged. What is
behind that entry waits still, in order, and a consumer is accepted again. -/
theorem singleConsumer_of_happenings (happenings : List (Happening H))
    (off : ∀ happening ∈ happenings, happening.host.OffQueue) (loop : Loop H)
    (new : loop.tasks = []) (unserved : loop.world.channel.serving = false) :
    (∀ early late, happenings = early ++ late →
      (loop.play early).Sound ∧
        ((loop.play early).world.channel.serving = true → (loop.play early).Refuses) ∧
        ((loop.play early).world.channel.serving = false → (loop.play early).Accepts)) ∧
    ∀ early during finish late index, happenings = early ++ (during ++ finish :: late) →
      let first := loop.play early
      let last := (first.play during).step finish
      first.Serves index → (first.play during).Serves index → ¬ last.Serves index →
      ∃ deeds envelopes, Journey first (during ++ [finish]) deeds ∧
        taken deeds = envelopes.map .command ++ [.stop] ∧ handed deeds = envelopes ∧
        first.world.channel.queue ++ entered deeds =
          envelopes.map .command ++ .stop :: last.world.channel.queue ∧
        last.world.channel.serving = false ∧ last.Accepts := by
  have sound : loop.Sound := .of_new new unserved
  constructor
  · rintro early late rfl
    exact ⟨sound.play fun happening member => off happening (List.mem_append_left _ member),
      Loop.refuses, Loop.accepts⟩
  · rintro early during finish late index rfl first last begins still ends
    obtain ⟨offEarly, offRest⟩ := List.forall_mem_append.mp off
    obtain ⟨offDuring, offLate⟩ := List.forall_mem_append.mp offRest
    obtain ⟨offFinish, -⟩ := List.forall_mem_cons.mp offLate
    have soundFirst : first.Sound := sound.play offEarly
    obtain ⟨deeds, journey, envelopes, takes⟩ := exists_journey soundFirst begins offDuring still
    obtain ⟨now, turn, ⟨onward, -, -⟩ | ⟨-, stops, unmarked⟩⟩ :=
      exists_journey_step (soundFirst.play offDuring) still offFinish
    · exact absurd onward ends
    have whole := journey.append turn
    have takes : taken (deeds ++ now) = envelopes.map .command ++ [.stop] := by
      rw [← takes, ← stops]
      exact List.filterMap_append ..
    refine ⟨deeds ++ now, envelopes, whole, takes, ?_, ?_, unmarked, Loop.accepts unmarked⟩
    · rw [whole.orderly.handed_eq, takes, List.filterMap_append, List.filterMap_map]
      exact (List.append_nil _).trans (List.filterMap_some ..)
    · have offServed : ∀ happening ∈ during ++ [finish], happening.host.OffQueue :=
        List.forall_mem_append.mpr ⟨offDuring, List.forall_mem_singleton.mpr offFinish⟩
      have conserved := (whole.flows offServed).conserved
      rw [takes, List.append_assoc, Loop.play_append] at conserved
      exact conserved

/-- A host that does not show one message. -/
private def picky : Host Unit :=
  ⟨fun _ _ => pure (), .refusing [.text "x"]⟩

/-- A new world with nobody to serve its channel. -/
private def unattended : Loop Unit :=
  ⟨.initial [] "Alerta" [] (), []⟩

/-- Two tasks are created, and the first one gets to serve. -/
private def opening : List (Happening Unit) :=
  [⟨picky, .create⟩, ⟨picky, .create⟩, ⟨picky, .run 0⟩]

/-- An alert that fails gets in, and one more behind a stop entry. Meanwhile the second task and a
drain are refused. -/
private def contest : List (Happening Unit) :=
  [⟨picky, .visit (.send (.showAlert "Alerta" "x") none) rfl⟩, ⟨picky, .visit .close rfl⟩,
    ⟨picky, .run 1⟩, ⟨picky, .visit (.send (.showAlert "Alerta" "y") none) rfl⟩,
    ⟨picky, .run 0⟩, ⟨picky, .visit .drain rfl⟩]

/-- The task that serves survives the failure and ends at the stop entry. The drain behind it shows
what was left. -/
theorem singleConsumer_of_happenings_contest :
    let first := unattended.play opening
    let last := (first.play contest).step ⟨picky, .run 0⟩
    first.Serves 0 ∧ first.Refuses ∧ last.tasks = [.ended, .refused] ∧
      last.world.channel.queue = [.command ⟨.showAlert "Alerta" "y", none⟩] ∧
      (last.step ⟨picky, .visit .drain rfl⟩).world.alerts = [(.text "Alerta", .text "y")] ∧
      ∃ deeds envelopes, Journey first (contest ++ [⟨picky, .run 0⟩]) deeds ∧
        taken deeds = envelopes.map .command ++ [.stop] ∧ handed deeds = envelopes ∧
        entered deeds =
          envelopes.map .command ++ [.stop, .command ⟨.showAlert "Alerta" "y", none⟩] ∧
        last.Accepts := by
  intro first last
  have all : ∀ happening ∈ opening ++ (contest ++ [⟨picky, .run 0⟩]),
      happening.host = picky := by
    simp [opening, contest]
  have off : ∀ happening ∈ opening ++ (contest ++ [⟨picky, .run 0⟩]),
      happening.host.OffQueue := by
    intro happening member
    rw [all happening member]
    exact fun _ _ _ => rfl
  obtain ⟨moments, served⟩ := singleConsumer_of_happenings _ off unattended rfl rfl
  have ends : ¬ last.Serves 0 := by
    have ended : last.tasks[0]? = some .ended := rfl
    intro serves
    cases ended.symm.trans serves
  obtain ⟨deeds, envelopes, journey, takes, hands, waits, -, accepts⟩ :=
    served opening contest ⟨picky, .run 0⟩ [] 0 rfl rfl rfl ends
  exact ⟨rfl, (moments opening _ rfl).2.1 rfl, rfl, rfl, rfl, deeds, envelopes, journey, takes,
    hands, waits, accepts⟩

end Channel

end ScreenScript
