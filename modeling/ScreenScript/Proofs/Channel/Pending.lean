import Mathlib.Data.List.Infix
import ScreenScript.Proofs.Channel.ExactlyOnce

/-! # What is pending

What a channel reports as pending is the number of its entries. It was meant to be the number of
commands that were sent and that no consumer has taken yet, and to be what a drain will answer. But
a drain does not count the stop entries that it meets, and these are entries too. So both hold as
long as no stop entry waits, and what is pending is too much by the number of those that do: of a
channel that was closed while no consumer was serving it, or closed twice.

Listeners may have commands sent from elsewhere, which is all that they can do with a channel
without waiting. These commands count as sent from then on. They are neither pending nor consumed
until the loop lets them in.
-/

namespace ScreenScript

variable {H : Type}

def Entry.isStop (entry : Entry) : Bool :=
  entry.envelope?.isNone

/-- The listeners of a host may have commands sent from elsewhere. They leave alone what waits, and
what was sent from elsewhere before. -/
def Host.SendsOnly (host : Host H) : Prop :=
  ∀ listener event world,
    (Eff.after (host.react listener event) world).channel.queue = world.channel.queue ∧
      world.channel.scheduled <+:
        (Eff.after (host.react listener event) world).channel.scheduled

namespace Channel

open Eff

def commands (entries : List Entry) : List Envelope :=
  entries.filterMap Entry.envelope?

def stops (entries : List Entry) : Nat :=
  entries.countP Entry.isStop

theorem commands_append (first second : List Entry) :
    commands (first ++ second) = commands first ++ commands second :=
  List.filterMap_append

theorem stops_append (first second : List Entry) :
    stops (first ++ second) = stops first + stops second :=
  List.countP_append

theorem stops_command (envelope : Envelope) (rest : List Entry) :
    stops (.command envelope :: rest) = stops rest :=
  List.countP_cons_of_neg Bool.false_ne_true

theorem stops_stop (rest : List Entry) : stops (.stop :: rest) = stops rest + 1 :=
  List.countP_cons_of_pos rfl

theorem commands_map (envelopes : List Envelope) :
    commands (envelopes.map .command) = envelopes := by
  induction envelopes with
  | nil => rfl
  | cons envelope rest ih => exact congrArg (envelope :: ·) ih

theorem stops_map (envelopes : List Envelope) : stops (envelopes.map .command) = 0 := by
  induction envelopes with
  | nil => rfl
  | cons envelope rest ih => exact (stops_command envelope _).trans ih

/-- Pending are the commands that wait and the stop entries. -/
theorem pending_eq (channel : Channel) :
    channel.pending = (commands channel.queue).length + stops channel.queue := by
  rw [pending]
  induction channel.queue with
  | nil => rfl
  | cons entry rest ih =>
    rw [List.length_cons, ih]
    cases entry with
    | command envelope =>
      rw [stops_command]
      exact Nat.add_right_comm ..
    | stop =>
      rw [stops_stop]
      rfl

/-! ### Draining -/

/-- What comes of waiting entries when the handler of one of their commands fails: this failure. By
then the command and all that waited before it were taken, and what waited behind it is left. -/
def HandlerFails {α : Type} (host : Host H) (waiting : List Entry)
    (outcome : EStateM.Result Failure (World H) α) : Prop :=
  ∃ before envelope behind middle failure last,
    waiting = before ++ .command envelope :: behind ∧ middle.channel.queue = behind ∧
    apply host envelope middle = .error failure last ∧
    outcome = .error failure last ∧ last.channel.queue = behind

section

variable {host : Host H}

/-- A handler that fails later fails behind what comes first. -/
theorem HandlerFails.later {α β : Type} {waiting : List Entry}
    {outcome : EStateM.Result Failure (World H) α} (fails : HandlerFails host waiting outcome)
    (entry : Entry) {outcome' : EStateM.Result Failure (World H) β}
    (same : ∀ failure last, outcome = .error failure last → outcome' = .error failure last) :
    HandlerFails host (entry :: waiting) outcome' := by
  obtain ⟨before, envelope, behind, middle, failure, last, rfl, left, failed, error, rest⟩ := fails
  exact ⟨entry :: before, envelope, behind, middle, failure, last, rfl, left, failed,
    same failure last error, rest⟩

/-- A drain that may take all that waits does so, and its answer is the number of commands; or else
the handler of one of them fails. -/
theorem drainUpTo_cases
    (spared : ∀ listener event,
      Spares (fun world => world.channel.queue) (host.react listener event))
    {count : Nat} {world : World H} (enough : world.channel.queue.length ≤ count) :
    (∃ last, drainUpTo host count world = .ok (commands world.channel.queue).length last ∧
      last.channel.queue = []) ∨
    HandlerFails host world.channel.queue (drainUpTo host count world) := by
  induction count generalizing world with
  | zero =>
    have none : world.channel.queue = [] := List.length_eq_zero_iff.mp (Nat.le_zero.mp enough)
    rw [none]
    exact .inl ⟨world, rfl, none⟩
  | succ count ih =>
    match queue : world.channel.queue with
    | [] => exact .inl ⟨world, drainUpTo_of_nil host _ queue, queue⟩
    | .stop :: waiting =>
      rw [queue, List.length_cons, Nat.succ_le_succ_iff] at enough
      have fewer : (world.mapChannel fun channel =>
          { channel with queue := waiting }).channel.queue.length ≤ count := enough
      rw [drainUpTo_of_stop host count queue]
      exact (ih fewer).imp id fun fails => fails.later .stop fun _ _ error => error
    | .command envelope :: waiting =>
      rw [queue, List.length_cons, Nat.succ_le_succ_iff] at enough
      rw [drainUpTo_of_command host count queue]
      have spares : Spares (fun world => world.channel.queue) (apply host envelope) :=
        spares_apply (beside_channel Channel.queue envelope.router) spared
      cases handled : apply host envelope
        (world.mapChannel fun channel => { channel with queue := waiting }) with
      | error failure last =>
        exact .inr ⟨[], envelope, waiting, _, failure, last, rfl, rfl, handled,
          bind_of_error handled, spares.of_error handled⟩
      | ok done middle =>
        have left : middle.channel.queue = waiting := spares.of_ok handled
        have fewer : middle.channel.queue.length ≤ count := left ▸ enough
        rw [bind_of_ok handled, ← left]
        rcases ih fewer with ⟨last, drained, none⟩ | fails
        · refine .inl ⟨last, ?_, none⟩
          rw [bind_of_ok drained]
          rfl
        · exact .inr (fails.later _ fun _ _ error => bind_of_error error)

/-- A drain of a channel that is not served empties it, and its answer is the number of the commands
that waited; or else the handler of one of them fails. -/
theorem drain_cases
    (spared : ∀ listener event,
      Spares (fun world => world.channel.queue) (host.react listener event))
    {world : World H} (unserved : world.channel.serving = false) :
    (∃ last, drain host world = .ok (commands world.channel.queue).length last ∧
      last.channel.queue = []) ∨
    HandlerFails host world.channel.queue (drain host world) := by
  rw [drain_of_unserved host unserved]
  exact drainUpTo_cases spared (Nat.le_refl _)

end

/-! ### Sending -/

namespace Operation

/-- The commands that an operation sends, or has sent from elsewhere, which takes a channel that is
bound. -/
def sends (channel : Channel) : Operation → List Envelope
  | .send command router => [⟨command, router⟩]
  | .sendFromElsewhere command router => if channel.bound then [⟨command, router⟩] else []
  | _ => []

/-- What is scheduled after an operation, but for what listeners have sent meanwhile. -/
def leaves (channel : Channel) : Operation → List Envelope
  | .sendFromElsewhere command router =>
    channel.scheduled ++ if channel.bound then [⟨command, router⟩] else []
  | .letIn => channel.scheduled.drop 1
  | .runLoop => []
  | _ => channel.scheduled

def closes : Operation → Bool
  | .close => true
  | _ => false

/-- What is sent by an operation or was scheduled before it gets in or is still scheduled. -/
theorem perm_enters (operation : Operation) (channel : Channel) :
    (channel.scheduled ++ operation.sends channel).Perm
      (commands (operation.enters channel) ++ operation.leaves channel) := by
  cases operation with
  | sendFromElsewhere command router => exact List.Perm.refl _
  | letIn =>
    change (channel.scheduled ++ []).Perm
      (commands ((channel.scheduled.take 1).map .command) ++ channel.scheduled.drop 1)
    rw [commands_map, List.take_append_drop, List.append_nil]
  | runLoop =>
    change (channel.scheduled ++ []).Perm (commands (channel.scheduled.map .command) ++ [])
    rw [commands_map]
  | _ => exact List.perm_append_comm

theorem stops_enters (operation : Operation) (channel : Channel) :
    stops (operation.enters channel) = if operation.closes then 1 else 0 := by
  cases operation with
  | letIn | runLoop => exact stops_map _
  | _ => rfl

section

variable {host : Host H} (sendsOnly : host.SendsOnly)

include sendsOnly

/-- While a command is handled, more is scheduled only behind what was. -/
private theorem sustains_scheduled_apply (start : List Envelope) (envelope : Envelope) :
    Sustains (fun world => start <+: world.channel.scheduled) (apply host envelope) :=
  sustains_apply ⟨fun _ _ _ same => same, fun _ _ same => same, fun _ _ same => same,
      fun _ _ _ _ same => same⟩
    fun listener event world same => same.trans (sendsOnly listener event world).2

/-- The same holds of draining. -/
private theorem prefix_scheduled_of_takes {operation : Operation} {world : World H} {count : Nat}
    (takes : operation.takes? world.channel = some count) :
    world.channel.scheduled <+: (after (operation.perform host) world).channel.scheduled := by
  have performed := operation.perform_of_takes host takes
  split at performed
  · rw [after_of_error performed]
  · have drained : Sustains (fun last => world.channel.scheduled <+: last.channel.scheduled)
        (Eff.drainUpTo host count >>= fun _ => return ()) :=
      (sustains_drainUpTo (fun _ _ same => same) (sustains_scheduled_apply sendsOnly _) count).bind
        fun _ _ same => same
    have kept := drained world (List.prefix_refl _)
    unfold after at kept ⊢
    rw [performed]
    exact kept

/-- What an operation leaves scheduled comes before all that listeners have sent meanwhile. -/
theorem leaves_prefix (operation : Operation) (world : World H) :
    operation.leaves world.channel <+:
      (after (operation.perform host) world).channel.scheduled := by
  cases operation with
  | letIn =>
    change world.channel.scheduled.drop 1 <+: world.channel.letIn.scheduled
    unfold Channel.letIn
    split
    next none => rw [none]; exact List.prefix_refl _
    next envelope rest some => rw [some]; exact List.prefix_refl _
  | runLoop => exact List.nil_prefix
  | send command router => exact List.prefix_refl _
  | bind => exact List.prefix_refl _
  | close => exact List.prefix_refl _
  | sendFromElsewhere command router =>
    change (world.channel.scheduled ++ if world.channel.bound then _ else _) <+:
      (after (Eff.sendFromElsewhere command router) world).channel.scheduled
    cases bound : world.channel.bound with
    | true =>
      rw [after_of_ok (sendFromElsewhere_of_bound bound command router)]
      exact List.prefix_refl _
    | false =>
      rw [after_of_error (sendFromElsewhere_of_unbound bound command router), if_neg (by decide),
        List.append_nil]
  | drain => exact prefix_scheduled_of_takes sendsOnly rfl
  | drainUpTo count => exact prefix_scheduled_of_takes sendsOnly rfl
  | startServing =>
    change world.channel.scheduled <+: (after Eff.startServing world).channel.scheduled
    cases serving : world.channel.serving with
    | true =>
      rw [after_of_error (startServing_of_serving serving)]
    | false =>
      rw [after_of_ok (startServing_of_unserved serving)]
      exact List.prefix_refl _
  | serve count =>
    have performed := perform_serve host count world
    split at performed
    · have served := sustains_serveUpTo (fun _ _ same => same)
        (sustains_scheduled_apply sendsOnly world.channel.scheduled) (fun _ _ same => same)
        (fun _ same => same) count world (List.prefix_refl _)
      rw [after, performed]
      exact served
    · rw [after_of_ok performed]
      exact List.prefix_refl _

end

end Operation

/-- The commands that are sent in the course of a use: by the operation and, from elsewhere, by the
listeners that are called meanwhile. -/
def Use.sends (use : Use H) (world : World H) : List Envelope :=
  use.operation.sends world.channel ++
    (use.outcome world).channel.scheduled.drop (use.operation.leaves world.channel).length

/-- The commands that are sent in the course of uses, one use after another. -/
def sends : World H → List (Use H) → List Envelope
  | _, [] => []
  | world, use :: rest => use.sends world ++ sends (use.outcome world) rest

def closings (uses : List (Use H)) : Nat :=
  uses.countP (·.operation.closes)

/-- Whatever is sent in the course of a use or was scheduled before gets in or is scheduled now. -/
theorem Use.perm_sends {use : Use H} (sendsOnly : use.host.SendsOnly) (world : World H) :
    (world.channel.scheduled ++ use.sends world).Perm
      (commands (use.operation.enters world.channel) ++ (use.outcome world).channel.scheduled) := by
  obtain ⟨added, now⟩ := Operation.leaves_prefix sendsOnly use.operation world
  change _ = (use.outcome world).channel.scheduled at now
  rw [Use.sends, ← now, List.drop_left, ← List.append_assoc, ← List.append_assoc]
  exact (use.operation.perm_enters world.channel).append_right added

namespace Recounted

variable {world : World H} {uses : List (Use H)} {recounts : List (List Deed)}

/-- Whatever is sent in the course of uses or was scheduled before gets in or is scheduled now. -/
theorem perm_sends (recounted : Recounted world uses recounts)
    (sendsOnly : ∀ use ∈ uses, use.host.SendsOnly) :
    (world.channel.scheduled ++ sends world uses).Perm
      (commands (entered recounts.flatten) ++ (play uses world).channel.scheduled) := by
  induction recounted with
  | none world => exact List.perm_append_comm
  | @use world use rest now later _ enters _ ih =>
    obtain ⟨first, others⟩ := List.forall_mem_cons.mp sendsOnly
    have here := use.perm_sends first world
    rw [← enters] at here
    rw [List.flatten_cons, entered_append, commands_append, sends, ← List.append_assoc,
      List.append_assoc (commands (entered now))]
    refine (here.append_right _).trans ?_
    rw [List.append_assoc]
    exact (ih others).append_left _

/-- A stop entry gets in for each time that the channel is closed. -/
theorem stops_entered (recounted : Recounted world uses recounts) :
    stops (entered recounts.flatten) = closings uses := by
  induction recounted with
  | none world => rfl
  | @use world use rest now later _ enters _ ih =>
    rw [List.flatten_cons, entered_append, stops_append, enters, Operation.stops_enters, ih,
      closings, closings, List.countP_cons, Nat.add_comm]

end Recounted

/-- From the start on, however a channel is used, the commands that were sent are those that were
handed over, those that wait, and those that the loop still has to let in. Each closing has left a
stop entry, which was taken or waits. Pending are the commands and the stop entries that wait, so
what is pending is the number of commands exactly while no stop entry waits. A drain, where no
consumer serves, leaves nothing pending and answers the number of commands, unless the handler of
one of them fails. -/
theorem pending_of_uses (uses : List (Use H)) (sendsOnly : ∀ use ∈ uses, use.host.SendsOnly)
    (world : World H) (fresh : world.channel = .empty) :
    let channel := (play uses world).channel
    ∃ recounts, Recounted world uses recounts ∧
      (sends world uses).Perm
        (handed recounts.flatten ++ commands channel.queue ++ channel.scheduled) ∧
      closings uses = stops (taken recounts.flatten) + stops channel.queue ∧
      channel.pending = (commands channel.queue).length + stops channel.queue ∧
      (channel.pending = (commands channel.queue).length ↔ stops channel.queue = 0) ∧
      ∀ host : Host H, host.SendsOnly → channel.serving = false →
        (∃ last, drain host (play uses world) = .ok (commands channel.queue).length last ∧
          last.channel.pending = 0) ∨
        HandlerFails host channel.queue (drain host (play uses world)) := by
  intro channel
  obtain ⟨recounts, recounted⟩ := exists_recounted uses world
  have conserved := (recounted.flows_of_spared fun use member listener event before =>
    (sendsOnly use member listener event before).1).conserved
  rw [fresh, show Channel.empty.queue = [] from rfl, List.nil_append] at conserved
  have pending := channel.pending_eq
  refine ⟨recounts, recounted, ?sent, ?closed, pending, ?exact, ?drained⟩
  case sent =>
    have sent := recounted.perm_sends sendsOnly
    rw [fresh, show Channel.empty.scheduled = [] from rfl, List.nil_append, conserved,
      commands_append] at sent
    rw [recounted.orderly.handed_eq]
    exact sent
  case closed =>
    rw [← recounted.stops_entered, conserved, stops_append]
  case exact =>
    rw [pending]
    exact Nat.add_eq_left
  case drained =>
    intro host sendsOnly unserved
    rcases drain_cases (fun listener event before => (sendsOnly listener event before).1) unserved
      with ⟨last, answered, none⟩ | failed
    · exact .inl ⟨last, answered, List.length_eq_zero_iff.mpr none⟩
    · exact .inr failed

/-- A host whose listeners have an alert sent from elsewhere. -/
private def echoing : Host Unit :=
  ⟨fun _ _ => Eff.sendFromElsewhere (.showAlert "Alerta" "moved") none, .showing fun _ _ => false⟩

private theorem echoing_sendsOnly : echoing.SendsOnly := by
  intro listener event world
  let moved : Eff Unit Unit := Eff.sendFromElsewhere (.showAlert "Alerta" "moved") none
  change (after moved world).channel.queue = _ ∧ _ <+: (after moved world).channel.scheduled
  cases bound : world.channel.bound with
  | true =>
    rw [after_of_ok (sendFromElsewhere_of_bound bound _ _)]
    exact ⟨rfl, List.prefix_append ..⟩
  | false =>
    rw [after_of_error (sendFromElsewhere_of_unbound bound _ _)]
    exact ⟨rfl, List.prefix_refl _⟩

private def heard : World Unit :=
  (World.initial [] "Alerta" [] ()).mapRouter World.mainRouter
    fun router => { router with listeners := ["echo"] }

private def closedTwice : List (Use Unit) :=
  [.send (.reset "home") (some World.mainRouter), .close, .close, .startServing, .serve 3, .runLoop,
    .send (.showAlert "Alerta" "bye") none].map (⟨echoing, ·⟩)

/-- The consumer ends at the first of two stop entries, behind which the alert of a listener and a
further one get in. Three entries are pending, but only two of the three commands that were sent
wait, and two is what a drain answers. -/
theorem pending_of_uses_closedTwice :
    (∀ use ∈ closedTwice, use.host.SendsOnly) ∧ heard.channel = .empty ∧
      (play closedTwice heard).channel.scheduled = [] ∧
      (play closedTwice heard).channel.pending = 3 ∧ (sends heard closedTwice).length = 3 ∧
      ∃ recounts, Recounted heard closedTwice recounts ∧ (handed recounts.flatten).length = 1 ∧
        stops (taken recounts.flatten) = 1 ∧
        ∃ last, drain .calm (play closedTwice heard) = .ok 2 last ∧ last.channel.pending = 0 := by
  have sendsOnly : ∀ use ∈ closedTwice, use.host.SendsOnly := by
    intro use member
    obtain ⟨operation, _, rfl⟩ := List.mem_map.mp member
    exact echoing_sendsOnly
  obtain ⟨recounts, recounted, sent, closed, _, _, drained⟩ :=
    pending_of_uses closedTwice sendsOnly heard rfl
  have three : (sends heard closedTwice).length = 3 := rfl
  have two : (commands (play closedTwice heard).channel.queue).length = 2 := rfl
  have none : (play closedTwice heard).channel.scheduled = [] := rfl
  have one : stops (play closedTwice heard).channel.queue = 1 := rfl
  refine ⟨sendsOnly, rfl, none, rfl, three, recounts, recounted, ?_, ?_, ?_⟩
  · have lengths := sent.length_eq
    rw [none, List.append_nil, List.length_append, three, two] at lengths
    omega
  · rw [one, show closings closedTwice = 2 from rfl] at closed
    omega
  · rcases drained .calm (fun _ _ _ => ⟨rfl, List.prefix_refl _⟩) rfl with
      answered | ⟨_, _, _, _, _, _, _, _, _, failed, _⟩
    · exact answered
    · cases failed

end Channel

end ScreenScript
