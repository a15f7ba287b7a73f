import ScreenScript.Proofs.Handling

/-! # Every entry is delivered exactly once

A channel is used by those who send, by a loop that lets in what was sent from elsewhere, and by
its consumer, in any order and under hosts that may refuse alerts and whose listeners may fail.
What happens on it meanwhile is a list of deeds: an entry gets in, the next entry is taken, a
command is handed to its handler. `Passage` says which deeds lead from one world to another, with
nothing done between them that could be a deed; it is where the two consumers differ, since a drain
passes on the failure of a handler and a serving consumer logs it. The main statement is that every
use of a channel has such an account, in which all that got in is all that was taken and then what
still waits, and each command that was taken was handed over once, in the same order and with its
router. Listeners that use the channel themselves are excluded.
-/

namespace ScreenScript

variable {H : Type} {α : Type}

/-- The envelope of a command, and nothing for a stop entry. -/
def Entry.envelope? : Entry → Option Envelope
  | .command envelope => some envelope
  | .stop => none

/-- The listeners of a host leave the channel alone. They may do anything else, and fail. -/
def Host.OffChannel (host : Host H) : Prop :=
  ∀ listener event, Eff.Spares World.channel (host.react listener event)

/-- The listeners of a host leave a router alone. -/
def Host.OffRouter (host : Host H) (id : RouterId) : Prop :=
  ∀ listener event, Eff.Spares (fun world => world.routers id) (host.react listener event)

namespace Channel

/-- Something that happens on a channel. -/
inductive Deed where
  | entered (entry : Entry)
  | taken (entry : Entry)
  /-- A command is handed to its handler, which fails if a failure is given. -/
  | handed (envelope : Envelope) (failure : Option Failure)

def Deed.entered? : Deed → Option Entry
  | .entered entry => some entry
  | _ => none

def Deed.taken? : Deed → Option Entry
  | .taken entry => some entry
  | _ => none

def Deed.handed? : Deed → Option Envelope
  | .handed envelope _ => some envelope
  | _ => none

def entered (deeds : List Deed) : List Entry :=
  deeds.filterMap Deed.entered?

def taken (deeds : List Deed) : List Entry :=
  deeds.filterMap Deed.taken?

def handed (deeds : List Deed) : List Envelope :=
  deeds.filterMap Deed.handed?

/-- What waits before and after deeds on a queue of which nothing else is known. -/
inductive Flows : List Entry → List Deed → List Entry → Prop
  | rest (waiting : List Entry) : Flows waiting [] waiting
  | entered {waiting last : List Entry} {deeds : List Deed} {entry : Entry}
      (later : Flows (waiting ++ [entry]) deeds last) :
      Flows waiting (.entered entry :: deeds) last
  | taken {waiting last : List Entry} {deeds : List Deed} {entry : Entry}
      (later : Flows waiting deeds last) : Flows (entry :: waiting) (.taken entry :: deeds) last
  | handed {waiting last : List Entry} {deeds : List Deed} {envelope : Envelope}
      {failure : Option Failure} (later : Flows waiting deeds last) :
      Flows waiting (.handed envelope failure :: deeds) last

namespace Flows

variable {waiting middle last : List Entry} {early late deeds : List Deed}

theorem append (first : Flows waiting early middle) (second : Flows middle late last) :
    Flows waiting (early ++ late) last := by
  induction first with
  | rest waiting => exact second
  | entered _ ih => exact .entered (ih second)
  | taken _ ih => exact .taken (ih second)
  | handed _ ih => exact .handed (ih second)

/-- At every moment there is something that waits, perhaps nothing. -/
theorem split (flows : Flows waiting (early ++ late) last) :
    ∃ middle, Flows waiting early middle ∧ Flows middle late last := by
  induction early generalizing waiting with
  | nil => exact ⟨waiting, .rest waiting, flows⟩
  | cons deed rest ih =>
    cases flows with
    | entered later =>
      obtain ⟨middle, first, second⟩ := ih later
      exact ⟨middle, .entered first, second⟩
    | taken later =>
      obtain ⟨middle, first, second⟩ := ih later
      exact ⟨middle, .taken first, second⟩
    | handed later =>
      obtain ⟨middle, first, second⟩ := ih later
      exact ⟨middle, .handed first, second⟩

/-- What waited and what got in is what was taken and what waits now, in this order. -/
theorem conserved (flows : Flows waiting deeds last) :
    waiting ++ Channel.entered deeds = Channel.taken deeds ++ last := by
  induction flows with
  | rest waiting => exact List.append_nil _
  | @entered waiting last deeds entry _ ih =>
    rw [List.append_assoc] at ih
    exact ih
  | @taken waiting last deeds entry _ ih => exact congrArg (entry :: ·) ih
  | handed _ ih => exact ih

end Flows

/-- Deeds among which each command is handed over at once when it was taken, and no other one is. -/
inductive Orderly : List Deed → Prop
  | none : Orderly []
  | entered {deeds : List Deed} (entry : Entry) (later : Orderly deeds) :
      Orderly (.entered entry :: deeds)
  | stopped {deeds : List Deed} (later : Orderly deeds) : Orderly (.taken .stop :: deeds)
  | handled {deeds : List Deed} (envelope : Envelope) (failure : Option Failure)
      (later : Orderly deeds) :
      Orderly (.taken (.command envelope) :: .handed envelope failure :: deeds)

namespace Orderly

variable {early late deeds : List Deed}

theorem append (first : Orderly early) (second : Orderly late) : Orderly (early ++ late) := by
  induction first with
  | none => exact second
  | entered entry _ ih => exact .entered entry ih
  | stopped _ ih => exact .stopped ih
  | handled envelope failure _ ih => exact .handled envelope failure ih

theorem enterAll (entries : List Entry) (later : Orderly deeds) :
    Orderly (entries.map .entered ++ deeds) := by
  induction entries with
  | nil => exact later
  | cons entry rest ih => exact .entered entry ih

/-- The commands that were handed over are those that were taken. -/
theorem handed_eq (orderly : Orderly deeds) :
    handed deeds = (taken deeds).filterMap Entry.envelope? := by
  induction orderly with
  | none => rfl
  | entered _ _ ih => exact ih
  | stopped _ ih => exact ih
  | handled envelope _ _ ih => exact congrArg (envelope :: ·) ih

/-- A command is the last that was taken when it is handed over. -/
theorem taken_of_handed {envelope : Envelope} {failure : Option Failure}
    (orderly : Orderly (early ++ .handed envelope failure :: late)) :
    ∃ before, taken early = before ++ [.command envelope] := by
  generalize all : early ++ .handed envelope failure :: late = deeds at orderly
  induction orderly generalizing early with
  | none => cases List.append_eq_nil_iff.mp all |>.2
  | entered entry _ ih =>
    obtain - | ⟨deed, rest⟩ := early
    · cases all
    · rw [List.cons_append, List.cons.injEq] at all
      obtain ⟨rfl, all⟩ := all
      obtain ⟨before, same⟩ := ih all
      exact ⟨before, same⟩
  | stopped _ ih =>
    obtain - | ⟨deed, rest⟩ := early
    · cases all
    · rw [List.cons_append, List.cons.injEq] at all
      obtain ⟨rfl, all⟩ := all
      obtain ⟨before, same⟩ := ih all
      exact ⟨.stop :: before, congrArg (Entry.stop :: ·) same⟩
  | handled taken _ _ ih =>
    obtain - | ⟨first, - | ⟨second, rest⟩⟩ := early
    · cases all
    · cases all
      exact ⟨[], rfl⟩
    · rw [List.cons_append, List.cons_append, List.cons.injEq, List.cons.injEq] at all
      obtain ⟨rfl, rfl, all⟩ := all
      obtain ⟨before, same⟩ := ih all
      exact ⟨.command taken :: before, congrArg (Entry.command taken :: ·) same⟩

end Orderly

theorem entered_append (early late : List Deed) :
    entered (early ++ late) = entered early ++ entered late :=
  List.filterMap_append ..

theorem entered_enterAll (entries : List Entry) : entered (entries.map .entered) = entries := by
  induction entries with
  | nil => rfl
  | cons entry rest ih => exact congrArg (entry :: ·) ih

/-- What a consumer does with the failure of a handler. -/
inductive Policy where
  /-- The failure ends the operation and reaches its caller. -/
  | propagates
  /-- The failure is logged and the next entry is taken. -/
  | logs

end Channel

namespace Eff

def failure? (operation : Eff H α) (world : World H) : Option Failure :=
  match operation world with
  | .ok .. => none
  | .error failure _ => some failure

end Eff

namespace Channel

open Eff

/-- Deeds that lead from a world to another, with the failure that reaches the caller in the end, if
any does. -/
inductive Passage (host : Host H) (policy : Policy) :
    World H → List Deed → Option Failure → World H → Prop
  | rest (world : World H) : Passage host policy world [] none world
  | refused (world : World H) (failure : Failure) :
      Passage host policy world [] (some failure) world
  | enter {world last : World H} {deeds : List Deed} {outcome : Option Failure} (entry : Entry)
      (later : Passage host policy (world.mapChannel (·.enqueue entry)) deeds outcome last) :
      Passage host policy world (.entered entry :: deeds) outcome last
  | take {world last : World H} {deeds : List Deed} {outcome : Option Failure} {entry : Entry}
      {waiting : List Entry} (next : world.channel.queue = entry :: waiting)
      (later : Passage host policy
        (world.mapChannel fun channel => { channel with queue := waiting }) deeds outcome last) :
      Passage host policy world (.taken entry :: deeds) outcome last
  /-- A command is handled. -/
  | hand {world middle last : World H} {deeds : List Deed} {outcome : Option Failure}
      {envelope : Envelope} (handled : apply host envelope world = .ok () middle)
      (later : Passage host policy middle deeds outcome last) :
      Passage host policy world (.handed envelope none :: deeds) outcome last
  /-- A command fails, and this is the end. -/
  | abort {world last : World H} {envelope : Envelope} {failure : Failure}
      (propagates : policy = .propagates)
      (failed : apply host envelope world = .error failure last) :
      Passage host policy world [.handed envelope (some failure)] (some failure) last
  /-- A command fails, which is logged. -/
  | survive {world middle last : World H} {deeds : List Deed} {outcome : Option Failure}
      {envelope : Envelope} {failure : Failure} (logs : policy = .logs)
      (failed : apply host envelope world = .error failure middle)
      (later : Passage host policy (middle.record [.applyFailed envelope.command]) deeds outcome
        last) :
      Passage host policy world (.handed envelope (some failure) :: deeds) outcome last
  /-- Flags of the channel and what it has scheduled may change at any time. -/
  | aside {world last : World H} {deeds : List Deed} {outcome : Option Failure} {channel : Channel}
      (later : Passage host policy { world with channel := channel } deeds outcome last)
      (same : channel.queue = world.channel.queue) :
      Passage host policy world deeds outcome last

namespace Passage

variable {host : Host H} {policy : Policy} {world last : World H} {deeds : List Deed}
  {outcome : Option Failure}

/-- Entries get in one after another. -/
theorem enterAll (entries : List Entry)
    (later : Passage host policy
      (world.mapChannel fun channel => { channel with queue := channel.queue ++ entries })
      deeds outcome last) :
    Passage host policy world (entries.map .entered ++ deeds) outcome last := by
  induction entries generalizing world with
  | nil => exact .aside later (List.append_nil _)
  | cons entry rest ih =>
    refine .enter entry (ih ?_)
    have queue : world.channel.queue ++ entry :: rest =
        world.channel.queue ++ [entry] ++ rest := List.append_cons ..
    simp only [World.mapChannel, queue] at later
    exact later

/-- The channel is a queue, whatever its commands do when they are handled. -/
theorem flows
    (off : ∀ listener event, Spares (fun world => world.channel.queue) (host.react listener event))
    (passage : Passage host policy world deeds outcome last) :
    Flows world.channel.queue deeds last.channel.queue := by
  have spares (envelope : Envelope) :
      Spares (fun world => world.channel.queue) (apply host envelope) :=
    spares_apply (beside_channel Channel.queue envelope.router) off
  induction passage with
  | rest world => exact .rest _
  | refused world failure => exact .rest _
  | enter entry _ ih => exact .entered ih
  | take next _ ih =>
    rw [next]
    exact .taken ih
  | @hand world middle last deeds outcome envelope handled _ ih =>
    have same : middle.channel.queue = world.channel.queue := (spares envelope).of_ok handled
    rw [same] at ih
    exact .handed ih
  | @abort world last envelope failure _ failed =>
    have same : last.channel.queue = world.channel.queue := (spares envelope).of_error failed
    rw [same]
    exact .handed (.rest _)
  | @survive world middle last deeds outcome envelope failure _ failed _ ih =>
    have same : middle.channel.queue = world.channel.queue := (spares envelope).of_error failed
    have later : Flows middle.channel.queue deeds last.channel.queue := ih
    rw [same] at later
    exact .handed later
  | @aside world last deeds outcome channel _ same ih =>
    have later : Flows channel.queue deeds last.channel.queue := ih
    rw [same] at later
    exact later

variable {β : Type} {first next : World H} {operation : Eff H α}

theorem of_ok {result : α} (ran : operation world = .ok result next)
    (passage : Passage host policy first deeds none next) :
    Passage host policy first deeds (failure? operation world) (after operation world) := by
  simp only [failure?, after, ran]
  exact passage

theorem of_error {failure : Failure} (ran : operation world = .error failure next)
    (passage : Passage host policy first deeds (some failure) next) :
    Passage host policy first deeds (failure? operation world) (after operation world) := by
  simp only [failure?, after, ran]
  exact passage

/-- What remains of an operation may be carried out in its place. -/
theorem of_same {remaining : Eff H α} (same : operation world = remaining next)
    (passage : Passage host policy first deeds (failure? remaining next) (after remaining next)) :
    Passage host policy first deeds (failure? operation world) (after operation world) := by
  simp only [failure?, after, same]
  exact passage

/-- What is only answered after an operation makes no difference. -/
theorem answered (answer : α → β)
    (passage : Passage host policy first deeds (failure? operation world)
      (after operation world)) :
    Passage host policy first deeds
      (failure? (operation >>= fun result => return answer result) world)
      (after (operation >>= fun result => return answer result) world) := by
  cases ran : operation world with
  | ok result next =>
    simp only [failure?, after, ran] at passage
    exact .of_ok (bind_of_ok ran) passage
  | error failure next =>
    simp only [failure?, after, ran] at passage
    exact .of_error (bind_of_error ran) passage

end Passage

/-- An operation has an account: its deeds lead to where it ends, and each command that was taken
is handed over at once. -/
structure Account (host : Host H) (policy : Policy) (operation : Eff H α) (world : World H)
    (deeds : List Deed) : Prop where
  passage : Passage host policy world deeds (failure? operation world) (after operation world)
  orderly : Orderly deeds

/-- A drain takes one entry after another. It hands over each command and stops at the first
failure. -/
theorem exists_account_drainUpTo (host : Host H) (count : Nat) (world : World H) :
    ∃ deeds, Account host .propagates (drainUpTo host count) world deeds ∧ entered deeds = [] := by
  induction count generalizing world with
  | zero => exact ⟨[], ⟨.rest world, .none⟩, rfl⟩
  | succ count ih =>
    cases queue : world.channel.queue with
    | nil =>
      exact ⟨[], ⟨.of_ok (drainUpTo_of_nil host _ queue) (.rest world), .none⟩, rfl⟩
    | cons entry waiting =>
      cases entry with
      | stop =>
        obtain ⟨deeds, ⟨passage, orderly⟩, none⟩ :=
          ih (world.mapChannel fun channel => { channel with queue := waiting })
        have drained := drainUpTo_of_stop host count queue
        exact ⟨.taken .stop :: deeds,
          ⟨.of_same drained (.take queue passage), .stopped orderly⟩, none⟩
      | command envelope =>
        have drained := drainUpTo_of_command host count queue
        cases handled : apply host envelope
          (world.mapChannel fun channel => { channel with queue := waiting }) with
        | ok done middle =>
          obtain ⟨deeds, ⟨passage, orderly⟩, none⟩ := ih middle
          rw [bind_of_ok handled] at drained
          refine ⟨.taken (.command envelope) :: .handed envelope Option.none :: deeds,
            ⟨.of_same drained ?_, .handled envelope _ orderly⟩, none⟩
          exact .take queue (.hand handled (passage.answered _))
        | error failure last =>
          rw [bind_of_error handled] at drained
          refine ⟨[.taken (.command envelope), .handed envelope (some failure)],
            ⟨.of_error drained ?_, .handled envelope _ .none⟩, rfl⟩
          exact .take queue (.abort rfl handled)

/-- A serving consumer takes one entry after another up to a stop entry. It hands over each command
and logs the failures. -/
theorem exists_account_serveUpTo (host : Host H) (count : Nat) (world : World H) :
    ∃ deeds, Account host .logs (serveUpTo host count) world deeds ∧ entered deeds = [] := by
  induction count generalizing world with
  | zero => exact ⟨[], ⟨.rest world, .none⟩, rfl⟩
  | succ count ih =>
    cases queue : world.channel.queue with
    | nil =>
      exact ⟨[], ⟨.of_ok (serveUpTo_of_nil host _ queue) (.rest world), .none⟩, rfl⟩
    | cons entry waiting =>
      cases entry with
      | stop =>
        have served := serveUpTo_of_stop host count queue
        exact ⟨[.taken .stop],
          ⟨.of_ok served (.take queue (.aside (.rest _) rfl)), .stopped .none⟩, rfl⟩
      | command envelope =>
        cases handled : apply host envelope
          (world.mapChannel fun channel => { channel with queue := waiting }) with
        | ok done middle =>
          obtain ⟨deeds, ⟨passage, orderly⟩, none⟩ := ih middle
          have served := serveUpTo_of_handled host count queue handled
          refine ⟨.taken (.command envelope) :: .handed envelope Option.none :: deeds,
            ⟨.of_same served ?_, .handled envelope _ orderly⟩, none⟩
          exact .take queue (.hand handled passage)
        | error failure middle =>
          obtain ⟨deeds, ⟨passage, orderly⟩, none⟩ :=
            ih (middle.record [.applyFailed envelope.command])
          have served := serveUpTo_of_failed host count queue handled
          refine ⟨.taken (.command envelope) :: .handed envelope (some failure) :: deeds,
            ⟨.of_same served ?_, .handled envelope _ orderly⟩, none⟩
          exact .take queue (.survive rfl handled passage)

/-- The channel after the loop has run the first of the callbacks that are scheduled. -/
def letIn (channel : Channel) : Channel :=
  match channel.scheduled with
  | [] => channel
  | envelope :: rest => { channel.enqueue (.command envelope) with scheduled := rest }

/-- One use of a channel. -/
inductive Operation where
  | send (command : Command) (router : Option RouterId)
  | sendFromElsewhere (command : Command) (router : Option RouterId)
  | bind
  | close
  /-- The loop lets in the first command that was sent from elsewhere. -/
  | letIn
  | drain
  /-- A drain as it stands when it has taken so many entries. -/
  | drainUpTo (count : Nat)
  | startServing
  /-- The consumer, if one is serving, takes so many entries at most. -/
  | serve (count : Nat)
  /-- The loop lets in all that was sent from elsewhere, and a serving consumer takes all. -/
  | runLoop

namespace Operation

/-- Carries out an operation. What it answers is left aside. -/
def perform (host : Host H) : Operation → Eff H Unit
  | .send command router => Eff.send command router
  | .sendFromElsewhere command router => Eff.sendFromElsewhere command router
  | .bind => bindChannel
  | .close => Eff.close
  | .letIn => modify fun world => world.mapChannel Channel.letIn
  | .drain => do
    let _ ← Eff.drain host
  | .drainUpTo count => do
    if (← get).channel.serving then throw .consumerServing
    let _ ← Eff.drainUpTo host count
  | .startServing => Eff.startServing
  | .serve count => do
    if (← get).channel.serving then serveUpTo host count
  | .runLoop => Eff.runLoop host

def policy : Operation → Policy
  | .serve _ | .runLoop => .logs
  | _ => .propagates

def enters (channel : Channel) : Operation → List Entry
  | .send command router => [.command ⟨command, router⟩]
  | .close => [.stop]
  | .letIn => (channel.scheduled.take 1).map .command
  | .runLoop => channel.scheduled.map .command
  | _ => []

def takes? (channel : Channel) : Operation → Option Nat
  | .drain => some channel.pending
  | .drainUpTo count => some count
  | _ => none

/-- A drain is refused while the channel is served. -/
theorem perform_of_takes (host : Host H) {operation : Operation} {world : World H} {count : Nat}
    (takes : operation.takes? world.channel = some count) :
    operation.perform host world =
      if world.channel.serving then .error .consumerServing world
      else (Eff.drainUpTo host count >>= fun _ => return ()) world := by
  cases operation with
  | drain =>
    cases takes
    cases serving : world.channel.serving with
    | true => exact bind_of_error (drain_of_serving host serving)
    | false =>
      change EStateM.bind (Eff.drain host) _ world = EStateM.bind _ _ world
      simp only [EStateM.bind, drain_of_unserved host serving]
  | drainUpTo count =>
    cases takes
    rw [perform, get_bind]
    cases serving : world.channel.serving <;> rfl
  | _ => cases takes

/-- A consumer takes entries while it serves the channel. -/
theorem perform_serve (host : Host H) (count : Nat) (world : World H) :
    perform host (.serve count) world =
      if world.channel.serving then serveUpTo host count world else .ok () world := by
  rw [perform, get_bind]
  cases world.channel.serving <;> rfl

/-- A use of the channel that is refused is no deed. -/
private theorem exists_account_refused (host : Host H) (policy : Policy) {operation : Eff H α}
    {world : World H} {failure : Failure} (refused : operation world = .error failure world) :
    ∃ deeds, Account host policy operation world deeds ∧ entered deeds = [] :=
  ⟨[], ⟨.of_error refused (.refused world failure), .none⟩, rfl⟩

private theorem exists_account_of_takes (host : Host H) {operation : Operation} {world : World H}
    {count : Nat} (takes : operation.takes? world.channel = some count) :
    ∃ deeds, Account host operation.policy (operation.perform host) world deeds ∧
      entered deeds = operation.enters world.channel := by
  have drains : operation.policy = .propagates ∧ operation.enters world.channel = [] := by
    cases operation <;> first | exact ⟨rfl, rfl⟩ | cases takes
  have performed := perform_of_takes host takes
  rw [drains.1, drains.2]
  cases serving : world.channel.serving with
  | true =>
    rw [serving] at performed
    exact exists_account_refused host _ performed
  | false =>
    rw [serving] at performed
    obtain ⟨deeds, ⟨passage, orderly⟩, none⟩ := exists_account_drainUpTo host count world
    exact ⟨deeds, ⟨.of_same performed (passage.answered _), orderly⟩, none⟩

/-- Every operation has an account, of the entries that it lets in. -/
theorem exists_account (host : Host H) (operation : Operation) (world : World H) :
    ∃ deeds, Account host operation.policy (operation.perform host) world deeds ∧
      entered deeds = operation.enters world.channel := by
  cases operation with
  | send command router =>
    refine ⟨[.entered (.command ⟨command, router⟩)], ⟨?_, .entered _ .none⟩, rfl⟩
    exact .enter _ (.aside (.rest _) rfl)
  | sendFromElsewhere command router =>
    cases bound : world.channel.bound with
    | true =>
      have sent := sendFromElsewhere_of_bound bound command router
      exact ⟨[], ⟨.of_ok sent (.aside (.rest _) rfl), .none⟩, rfl⟩
    | false => exact exists_account_refused host _ (sendFromElsewhere_of_unbound bound ..)
  | bind => exact ⟨[], ⟨.aside (.rest _) rfl, .none⟩, rfl⟩
  | close => exact ⟨[.entered .stop], ⟨.enter _ (.rest _), .entered _ .none⟩, rfl⟩
  | letIn =>
    have admitted : perform host .letIn world =
        .ok () (world.mapChannel fun _ => world.channel.letIn) := rfl
    cases scheduled : world.channel.scheduled with
    | nil =>
      have same : world.channel.letIn = world.channel := by rw [Channel.letIn, scheduled]
      have none : enters world.channel .letIn = [] := by rw [enters, scheduled]; rfl
      rw [same] at admitted
      exact ⟨[], ⟨.of_ok admitted (.rest world), .none⟩, none.symm⟩
    | cons envelope rest =>
      have one : enters world.channel .letIn = [.command envelope] := by
        rw [enters, scheduled]
        rfl
      rw [Channel.letIn, scheduled] at admitted
      refine ⟨[.entered (.command envelope)], ⟨.of_ok admitted ?_, .entered _ .none⟩, one.symm⟩
      exact .enter _ (.aside (.rest _) rfl)
  | drain => exact exists_account_of_takes host rfl
  | drainUpTo count => exact exists_account_of_takes host rfl
  | startServing =>
    cases serving : world.channel.serving with
    | true => exact exists_account_refused host _ (startServing_of_serving serving)
    | false =>
      have started := startServing_of_unserved serving
      exact ⟨[], ⟨.of_ok started (.aside (.rest _) rfl), .none⟩, rfl⟩
  | serve count =>
    have performed := perform_serve host count world
    cases serving : world.channel.serving with
    | true =>
      rw [serving] at performed
      obtain ⟨deeds, ⟨passage, orderly⟩, none⟩ := exists_account_serveUpTo host count world
      exact ⟨deeds, ⟨.of_same performed passage, orderly⟩, none⟩
    | false =>
      rw [serving] at performed
      exact ⟨[], ⟨.of_ok performed (.rest world), .none⟩, rfl⟩
  | runLoop =>
    -- All that is scheduled gets in first, under a serving consumer or not.
    let entries : List Entry := world.channel.scheduled.map .command
    have collected {deeds : List Deed} {outcome : Option Failure} {last : World H}
        (later : Passage host .logs (world.mapChannel collect) deeds outcome last) :
        Passage host .logs world (entries.map .entered ++ deeds) outcome last :=
      .enterAll entries (.aside later rfl)
    have all {deeds : List Deed} (none : entered deeds = []) :
        entered (entries.map .entered ++ deeds) = entries := by
      rw [entered_append, entered_enterAll, none, List.append_nil]
    cases serving : world.channel.serving with
    | true =>
      obtain ⟨deeds, ⟨passage, orderly⟩, none⟩ := exists_account_serveUpTo host
        world.channel.collect.pending (world.mapChannel collect)
      have served := runLoop_of_serving host serving
      exact ⟨_, ⟨.of_same served (collected passage), .enterAll entries orderly⟩, all none⟩
    | false =>
      have idle := runLoop_of_unserved host serving
      exact ⟨_, ⟨.of_ok idle (collected (.rest _)), .enterAll entries .none⟩, all rfl⟩

end Operation

/-- An operation that is carried out under a host. Every use may come with a host of its own, so
alerts that were refused once may be shown later. -/
structure Use (H : Type) where
  host : Host H
  operation : Operation

/-- The world after a use, which may have failed. -/
def Use.outcome (use : Use H) (world : World H) : World H :=
  after (use.operation.perform use.host) world

def play (uses : List (Use H)) (world : World H) : World H :=
  uses.foldl (fun world use => use.outcome world) world

/-- The deeds of each use, one after another. -/
inductive Recounted : World H → List (Use H) → List (List Deed) → Prop
  | none (world : World H) : Recounted world [] []
  | use {world : World H} {use : Use H} {rest : List (Use H)} {now : List Deed}
      {later : List (List Deed)}
      (account : Account use.host use.operation.policy (use.operation.perform use.host) world now)
      (enters : entered now = use.operation.enters world.channel)
      (after : Recounted (use.outcome world) rest later) :
      Recounted world (use :: rest) (now :: later)

namespace Recounted

variable {world : World H} {uses : List (Use H)} {recounts : List (List Deed)}

theorem take (recounted : Recounted world uses recounts) (moment : Nat) :
    Recounted world (uses.take moment) (recounts.take moment) := by
  induction recounted generalizing moment with
  | none world =>
    rw [List.take_nil, List.take_nil]
    exact .none world
  | use account enters _ ih =>
    cases moment with
    | zero => exact .none _
    | succ moment => exact .use account enters (ih moment)

/-- The channel is a queue throughout, as long as listeners leave alone what waits. -/
theorem flows_of_spared (recounted : Recounted world uses recounts)
    (spared : ∀ use ∈ uses, ∀ listener event,
      Spares (fun world => world.channel.queue) (use.host.react listener event)) :
    Flows world.channel.queue recounts.flatten (play uses world).channel.queue := by
  induction recounted with
  | none world => exact .rest _
  | @use world use rest now later account _ _ ih =>
    have first := account.passage.flows (spared use List.mem_cons_self)
    exact first.append (ih fun use member => spared use (List.mem_cons_of_mem _ member))

theorem flows (recounted : Recounted world uses recounts)
    (off : ∀ use ∈ uses, use.host.OffChannel) :
    Flows world.channel.queue recounts.flatten (play uses world).channel.queue :=
  recounted.flows_of_spared fun use member listener event world =>
    congrArg queue (off use member listener event world)

theorem orderly (recounted : Recounted world uses recounts) : Orderly recounts.flatten := by
  induction recounted with
  | none world => exact .none
  | use account _ _ ih => exact account.orderly.append ih

end Recounted

theorem exists_recounted (uses : List (Use H)) (world : World H) :
    ∃ recounts, Recounted world uses recounts := by
  induction uses generalizing world with
  | nil => exact ⟨[], .none world⟩
  | cons use rest ih =>
    obtain ⟨now, account, enters⟩ := use.operation.exists_account use.host world
    obtain ⟨later, recounted⟩ := ih (use.outcome world)
    exact ⟨now :: later, .use account enters recounted⟩

/-- However a channel is used, no entry is lost, doubled or overtaken. At every moment all that
got in is all that was taken, followed by what waits. Each command that was taken was handed to
its handler once, in this order, with the router that it was sent with and beside any other. A
command whose handler failed was the last to be taken then, and all that waited behind it was
taken later or waits still. -/
theorem exactlyOnce_of_uses (uses : List (Use H)) (off : ∀ use ∈ uses, use.host.OffChannel)
    (world : World H) :
    ∃ recounts, Recounted world uses recounts ∧
      (∀ moment,
        world.channel.queue ++ entered (recounts.take moment).flatten =
          taken (recounts.take moment).flatten ++
            (play (uses.take moment) world).channel.queue ∧
        handed (recounts.take moment).flatten =
          (taken (recounts.take moment).flatten).filterMap Entry.envelope?) ∧
      (∀ early envelope failure late,
        recounts.flatten = early ++ .handed envelope (some failure) :: late →
        ∃ before waiting, taken early = before ++ [.command envelope] ∧
          world.channel.queue ++ entered early = before ++ .command envelope :: waiting ∧
          waiting ++ entered late = taken late ++ (play uses world).channel.queue) ∧
      ∀ use ∈ uses, ∀ envelope id, use.host.OffRouter id → envelope.router ≠ some id →
        Spares (fun world => world.routers id) (apply use.host envelope) := by
  obtain ⟨recounts, recounted⟩ := exists_recounted uses world
  refine ⟨recounts, recounted, ?moments, ?failures, ?routers⟩
  case moments =>
    intro moment
    have early := recounted.take moment
    have flows := early.flows fun use member => off use (List.mem_of_mem_take member)
    exact ⟨flows.conserved, early.orderly.handed_eq⟩
  case failures =>
    intro early envelope failure late all
    have flows := recounted.flows off
    have orderly := recounted.orderly
    rw [all] at flows orderly
    obtain ⟨before, last⟩ := orderly.taken_of_handed
    obtain ⟨waiting, first, second⟩ := flows.split
    have conserved := first.conserved
    rw [last, List.append_assoc] at conserved
    exact ⟨before, waiting, last, conserved, second.conserved⟩
  case routers =>
    intro use _ envelope id off other
    exact spares_apply (beside_router other) off

/-- A host whose listeners fail when they are called, and which does not show one message. -/
private def fragile : Host Unit :=
  ⟨fun _ _ => throw .listenerFailed, .refusing [.text "x"]⟩

private def watched : World Unit :=
  (World.initial [] "Alerta" [] ()).mapRouter World.mainRouter
    fun router => { router with listeners := ["log"] }

private def interrupted : List (Use Unit) :=
  [.send (.showAlert "Alerta" "x") none, .send (.reset "home") (some World.mainRouter), .close,
    .send (.showAlert "Alerta" "y") none, .drain, .startServing, .drain, .serve 3, .drain].map
      (⟨fragile, ·⟩)

/-- The first drain fails at an alert, the second is refused, the consumer survives a failing
listener and ends at the stop entry, and the last drain shows the alert behind it. -/
theorem exactlyOnce_of_uses_interrupted :
    (∀ use ∈ interrupted, use.host.OffChannel) ∧
      (play interrupted watched).channel.queue = [] ∧
      (play interrupted watched).alerts = [(.text "Alerta", .text "y")] ∧
      ∃ recounts, Recounted watched interrupted recounts ∧
        entered recounts.flatten = taken recounts.flatten ∧
        handed recounts.flatten = (taken recounts.flatten).filterMap Entry.envelope? := by
  have off : ∀ use ∈ interrupted, use.host.OffChannel := by
    intro use member
    obtain ⟨operation, _, rfl⟩ := List.mem_map.mp member
    exact fun _ _ _ => rfl
  have empty : (play interrupted watched).channel.queue = [] := rfl
  obtain ⟨recounts, recounted, moments, _⟩ := exactlyOnce_of_uses interrupted off watched
  obtain ⟨conserved, handed⟩ := moments (interrupted.length + recounts.length)
  rw [List.take_of_length_le (Nat.le_add_left ..)] at conserved handed
  rw [List.take_of_length_le (Nat.le_add_right ..), empty, List.append_nil] at conserved
  exact ⟨off, empty, rfl, recounts, recounted, conserved, handed⟩

end Channel

end ScreenScript
