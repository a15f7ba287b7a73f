import ScreenScript.Proofs.Outcome

/-! # What holds of handling a command

A command is handled by moving the router that it came with, by telling the log, and by presenting
an alert, one after another and perhaps with a failure between. So a property of operations that
sequences inherit from their parts holds of handling a command as soon as it holds of these three.
`Handling` states the obligations once. Keeping a property of worlds is such a property of
operations, and leaving a part of the world alone is the case in which the property fixes that part.
Both consumers keep what taking an entry and handling a command keep. Nothing is assumed about who
listens, only about what listeners keep.
-/

namespace ScreenScript

variable {H : Type} {α β γ : Type}

/-- The command that a record reports to have failed. -/
def Notice.report? : Notice → Option Command
  | .applyFailed command => some command
  | _ => none

def World.reports (world : World H) : List Command :=
  world.notices.filterMap Notice.report?

/-- Records that report no failure. -/
def Remarks (notices : List Notice) : Prop :=
  ∀ notice ∈ notices, notice.report? = none

theorem remarks_nil : Remarks [] :=
  List.forall_mem_nil _

theorem remarks_one {notice : Notice} (remark : notice.report? = none) : Remarks [notice] :=
  List.forall_mem_singleton.mpr remark

theorem Remarks.filterMap_eq {notices : List Notice} (remarks : Remarks notices) :
    notices.filterMap Notice.report? = [] :=
  List.filterMap_eq_nil_iff.mpr remarks

namespace Eff

theorem remarks_resetNotice (router : Router) (step : Move) :
    Remarks (resetNotice router step) := by
  cases step with
  | reset asked =>
    simp only [resetNotice]
    split
    · exact remarks_nil
    · exact remarks_one rfl
  | _ => exact remarks_nil

/-- A property of operations that sequences inherit from their parts. -/
structure Compositional (holds : (α : Type) → Eff H α → Prop) : Prop where
  pure : ∀ {α : Type} (result : α), holds α (Pure.pure result)
  throw : ∀ {α : Type} (failure : Failure), holds α (throw failure)
  bind : ∀ {α β : Type} {operation : Eff H α} {rest : α → Eff H β},
    holds α operation → (∀ result, holds β (rest result)) → holds β (operation >>= rest)

/-- A property that the parts of handling a command for a router have, and sequences of them. -/
structure Handling (host : Host H) (router : Option RouterId)
    (holds : (α : Type) → Eff H α → Prop) : Prop extends Compositional holds where
  move : ∀ (id : RouterId) (step : Move), router = some id → (∀ screen, step ≠ .push screen) →
    holds Bool (move host id step)
  record : ∀ notices, Remarks notices → holds Unit (modify fun world => world.record notices)
  present : ∀ title message, holds Unit (present host title message)

namespace Handling

variable {host : Host H} {router : Option RouterId} {holds : (α : Type) → Eff H α → Prop}

private theorem applyMove (handling : Handling host router holds) {step : Move}
    {refused : List Notice} (remarks : Remarks refused) (unpushed : ∀ screen, step ≠ .push screen) :
    holds Unit (applyMove host router step refused) := by
  cases router with
  | none => exact handling.pure ()
  | some id =>
    refine handling.bind (handling.move id step rfl unpushed) fun succeeded => ?_
    cases succeeded with
    | true => exact handling.pure ()
    | false => exact handling.record refused remarks

private theorem demand (handling : Handling host router holds) (attributes : Fields)
    (name : String) : holds Value (demand attributes name) := by
  unfold Eff.demand
  split
  · exact handling.pure _
  · exact handling.throw _

private theorem key (handling : Handling host router holds) (value : Value) :
    holds Value (key value) := by
  unfold Eff.key
  split
  · exact handling.throw _
  · exact handling.throw _
  · exact handling.pure _

private theorem applyMoveTo (handling : Handling host router holds) (attributes : Fields)
    {step : Value → Move} {refused : Value → List Notice}
    (remarks : ∀ asked, Remarks (refused asked))
    (unpushed : ∀ asked screen, step asked ≠ .push screen) :
    holds Unit (applyMoveTo host router attributes step refused) := by
  unfold Eff.applyMoveTo
  split
  · exact handling.pure ()
  · refine handling.bind (handling.demand attributes _) fun asked => ?_
    refine handling.bind (handling.key asked) fun asked => ?_
    exact handling.applyMove (remarks asked) (unpushed asked)

private theorem applyForeign (handling : Handling host router holds) (attributes : Fields) :
    holds Unit (applyForeign host router attributes) := by
  refine handling.bind (handling.demand attributes _) fun kind => ?_
  refine handling.bind (handling.key kind) fun kind => ?_
  split
  · exact handling.applyMoveTo attributes (fun _ => remarks_one rfl) (by intro _ _ same; cases same)
  · exact handling.applyMove remarks_nil (by intro _ same; cases same)
  · exact handling.applyMoveTo attributes (fun _ => remarks_nil) (by intro _ _ same; cases same)
  · exact handling.applyMoveTo attributes (fun _ => remarks_one rfl) (by intro _ _ same; cases same)
  · exact handling.applyMove remarks_nil (by intro _ same; cases same)
  · refine handling.bind (handling.demand attributes _) fun title => ?_
    refine handling.bind (handling.demand attributes _) fun message => ?_
    exact handling.present title message
  · exact handling.record _ (remarks_one rfl)

/-- What holds of the parts holds of handling a command, whatever the command is. -/
theorem apply {envelope : Envelope} (handling : Handling host envelope.router holds) :
    holds Unit (apply host envelope) := by
  unfold Eff.apply
  split
  · exact handling.applyMove (remarks_one rfl) (by intro _ same; cases same)
  · exact handling.applyMove remarks_nil (by intro _ same; cases same)
  · exact handling.applyMove remarks_nil (by intro _ same; cases same)
  · exact handling.applyMove (remarks_one rfl) (by intro _ same; cases same)
  · exact handling.applyMove remarks_nil (by intro _ same; cases same)
  · exact handling.present _ _
  · exact handling.applyForeign _

end Handling

/-- An operation keeps a property of worlds, whether it succeeds or fails. -/
def Sustains (property : World H → Prop) (operation : Eff H α) : Prop :=
  ∀ world, property world → property (after operation world)

/-- What holds after an operation holds after a sequence that goes on by keeping it, also when the
operation fails and nothing goes on. -/
theorem Sustains.following {property : World H → Prop} {operation : Eff H α} {rest : α → Eff H β}
    {world : World H} (holds : property (after operation world))
    (second : ∀ result, Sustains property (rest result)) :
    property (after (operation >>= rest) world) := by
  cases ran : operation world with
  | ok result middle =>
    rw [after_of_ok ran] at holds
    simp only [after, bind_of_ok ran]
    exact second result middle holds
  | error failure middle =>
    rw [after_of_error ran] at holds
    rw [after_of_error (bind_of_error ran)]
    exact holds

/-- A sequence keeps what its parts keep. -/
theorem Sustains.bind {property : World H → Prop} {operation : Eff H α} {rest : α → Eff H β}
    (first : Sustains property operation) (second : ∀ result, Sustains property (rest result)) :
    Sustains property (operation >>= rest) :=
  fun world holds => Sustains.following (first world holds) second

theorem Sustains.compositional (property : World H → Prop) :
    Compositional fun _ operation => Sustains property operation where
  pure _ _ holds := holds
  throw _ _ holds := holds
  bind := Sustains.bind

theorem Sustains.compositional_all (property : γ → World H → Prop) :
    Compositional fun _ operation => ∀ index, Sustains (property index) operation where
  pure result index := (Sustains.compositional (property index)).pure result
  throw failure index := (Sustains.compositional (property index)).throw failure
  bind first second index := (first index).bind fun result => second result index

/-- An operation leaves a part of the world as it is, whether it succeeds or fails. -/
def Spares (part : World H → γ) (operation : Eff H α) : Prop :=
  ∀ world, part (after operation world) = part world

theorem Spares.of_ok {part : World H → γ} {operation : Eff H α} {world next : World H} {result : α}
    (spares : Spares part operation) (ran : operation world = .ok result next) :
    part next = part world := by
  rw [← spares world, after_of_ok ran]

theorem Spares.of_error {part : World H → γ} {operation : Eff H α} {world next : World H}
    {failure : Failure} (spares : Spares part operation)
    (ran : operation world = .error failure next) : part next = part world := by
  rw [← spares world, after_of_error ran]

/-- Leaving a part alone is keeping whatever value it has. -/
theorem spares_iff {part : World H → γ} {operation : Eff H α} :
    Spares part operation ↔ ∀ value, Sustains (fun world => part world = value) operation :=
  ⟨fun spares _ world same => (spares world).trans same, fun keeps world => keeps _ world rfl⟩

/-- A property of worlds that handling a command for a router cannot change, save for what listeners
do: it speaks neither of that router nor of records, except those of failures. -/
structure Untouched (property : World H → Prop) (router : Option RouterId) : Prop where
  logged : ∀ world notices, Remarks notices → property world → property (world.record notices)
  shown : ∀ world alerts, property world → property { world with alerts := alerts }
  called : ∀ world calls, property world → property { world with calls := calls }
  moved : ∀ world id change, router = some id → property world →
    property (world.mapRouter id change)

/-- A part of the world in which a command for a router cannot be seen to be handled, save for what
listeners do: it holds neither that router nor records, except those of failures. -/
structure Beside (part : World H → γ) (router : Option RouterId) : Prop where
  logged : ∀ world notices, Remarks notices → part (world.record notices) = part world
  shown : ∀ world alerts, part { world with alerts := alerts } = part world
  called : ∀ world calls, part { world with calls := calls } = part world
  moved : ∀ world id change, router = some id → part (world.mapRouter id change) = part world

theorem Beside.untouched {part : World H → γ} {router : Option RouterId}
    (beside : Beside part router) (value : γ) :
    Untouched (fun world => part world = value) router where
  logged world notices remarks same := (beside.logged world notices remarks).trans same
  shown world alerts same := (beside.shown world alerts).trans same
  called world calls same := (beside.called world calls).trans same
  moved world id change routed same := (beside.moved world id change routed).trans same

theorem beside_channel (part : Channel → γ) (router : Option RouterId) :
    Beside (H := H) (fun world => part world.channel) router :=
  ⟨fun _ _ _ => rfl, fun _ _ => rfl, fun _ _ => rfl, fun _ _ _ _ => rfl⟩

/-- That a command failed is reported by those who hand it over, not while it is handled. -/
theorem beside_reports (router : Option RouterId) : Beside (H := H) World.reports router where
  logged world notices remarks := by
    simp only [World.reports, World.record, List.filterMap_append, remarks.filterMap_eq,
      List.append_nil]
  shown _ _ := rfl
  called _ _ := rfl
  moved _ _ _ _ := rfl

theorem beside_router {router : Option RouterId} {id : RouterId} (other : router ≠ some id) :
    Beside (H := H) (fun world => world.routers id) router where
  logged _ _ _ := rfl
  shown _ _ := rfl
  called _ _ := rfl
  moved world moved change same := by
    have differ : id ≠ moved := fun equal => other (equal ▸ same)
    rw [World.routers_mapRouter, if_neg differ]

section

variable {property : World H → Prop} {host : Host H}

/-- Calling listeners keeps what each of those that are called keeps. -/
theorem sustains_callAll_of_mem
    (called : ∀ world calls, property world → property { world with calls := calls })
    {event : World H → Event} {names : List String}
    (listeners : ∀ name ∈ names, ∀ world, Sustains property (host.react name (event world))) :
    Sustains property (callAll host event names) := by
  induction names with
  | nil => exact fun _ holds => holds
  | cons name rest ih =>
    obtain ⟨first, later⟩ := List.forall_mem_cons.mp listeners
    intro world holds
    have reacted := (first world).bind fun _ => ih later
    exact reacted _ (called world _ holds)

/-- Calling listeners keeps what each of them keeps. -/
theorem sustains_callAll
    (called : ∀ world calls, property world → property { world with calls := calls })
    (listeners : ∀ listener event, Sustains property (host.react listener event))
    (event : World H → Event) (names : List String) :
    Sustains property (callAll host event names) :=
  sustains_callAll_of_mem called fun name _ world => listeners name (event world)

theorem sustains_move {router : Option RouterId} (untouched : Untouched property router)
    (listeners : ∀ listener event, Sustains property (host.react listener event)) {id : RouterId}
    (same : router = some id) (step : Move) : Sustains property (move host id step) := by
  intro world holds
  cases accepted : (world.routers id).move? step with
  | none =>
    have refused : move host id step world = .ok false world := by
      rw [move, get_bind, accepted]
      rfl
    rw [after_of_ok refused]
    exact holds
  | some next =>
    have told := (sustains_callAll untouched.called listeners
      (fun world => .moved (((world.routers id).current?).map Screen.id)) next.listeners).bind
      fun _ => (Sustains.compositional property).pure ((world.routers id).succeeds step)
    have made : move host id step world =
        (callAll host (fun world => .moved (((world.routers id).current?).map Screen.id))
          next.listeners >>= fun _ => return (world.routers id).succeeds step)
        ((world.mapRouter id fun _ => next).record (resetNotice (world.routers id) step)) := by
      rw [move, get_bind, accepted]
      rfl
    simp only [after, made]
    exact told _ (untouched.logged _ _ (remarks_resetNotice (world.routers id) step)
      (untouched.moved world id _ same holds))

/-- Handling a command keeps what does not speak of it, unless listeners break it. -/
theorem sustains_apply {envelope : Envelope} (untouched : Untouched property envelope.router)
    (listeners : ∀ listener event, Sustains property (host.react listener event)) :
    Sustains property (apply host envelope) := by
  have handling : Handling host envelope.router fun _ operation => Sustains property operation := {
    Sustains.compositional property with
    move := fun id step same _ => sustains_move untouched listeners same step
    record := fun notices remarks world holds => untouched.logged world notices remarks holds
    present := fun title message world holds => by
      unfold present
      split
      · exact untouched.logged world _ (remarks_one rfl) holds
      · split
        · exact holds
        · exact untouched.shown world _ holds }
  exact handling.apply

end

section

variable {part : World H → γ} {host : Host H}

theorem spares_callAll (called : ∀ world calls, part { world with calls := calls } = part world)
    (listeners : ∀ listener event, Spares part (host.react listener event))
    (event : World H → Event) (names : List String) :
    Spares part (callAll host event names) :=
  spares_iff.mpr fun value => sustains_callAll
    (fun world calls same => (called world calls).trans same)
    (fun listener event => spares_iff.mp (listeners listener event) value) event names

/-- Handling a command is not seen beside the router that it came with, unless listeners make it
seen. -/
theorem spares_apply {envelope : Envelope} (beside : Beside part envelope.router)
    (listeners : ∀ listener event, Spares part (host.react listener event)) :
    Spares part (apply host envelope) :=
  spares_iff.mpr fun value => sustains_apply (beside.untouched value)
    fun listener event => spares_iff.mp (listeners listener event) value

end

section

variable {property : World H → Prop} {host : Host H}

/-- A drain keeps what neither taking an entry nor handling a command breaks. -/
theorem sustains_drainUpTo
    (taken : ∀ world waiting, property world →
      property (world.mapChannel fun channel => { channel with queue := waiting }))
    (handled : ∀ envelope, Sustains property (apply host envelope)) (count : Nat) :
    Sustains property (drainUpTo host count) := by
  induction count with
  | zero => exact fun _ holds => holds
  | succ count ih =>
    have take : Sustains property (take (H := H)) := by
      intro world holds
      cases queue : world.channel.queue with
      | nil => rwa [after_of_ok (take_of_nil queue)]
      | cons entry waiting =>
        rw [after_of_ok (take_of_cons queue)]
        exact taken world waiting holds
    refine take.bind fun entry => ?_
    split
    · exact fun _ holds => holds
    · exact ih
    next envelope => exact (handled envelope).bind fun _ => ih.bind fun _ _ holds => holds

/-- A serving consumer keeps what moreover neither a report of a failure nor its own end breaks. -/
theorem sustains_serveUpTo
    (taken : ∀ world waiting, property world →
      property (world.mapChannel fun channel => { channel with queue := waiting }))
    (handled : ∀ envelope, Sustains property (apply host envelope))
    (reported : ∀ world command, property world → property (world.record [.applyFailed command]))
    (ended : ∀ world, property world →
      property (world.mapChannel fun channel => { channel with serving := false }))
    (count : Nat) : Sustains property (serveUpTo host count) := by
  induction count with
  | zero => exact fun _ holds => holds
  | succ count ih =>
    intro world holds
    match queue : world.channel.queue with
    | [] => rwa [after_of_ok (serveUpTo_of_nil host _ queue)]
    | .stop :: waiting =>
      rw [after_of_ok (serveUpTo_of_stop host count queue)]
      exact ended _ (taken world waiting holds)
    | .command envelope :: waiting =>
      have applied := handled envelope _ (taken world waiting holds)
      cases ran : apply host envelope
        (world.mapChannel fun channel => { channel with queue := waiting }) with
      | ok done middle =>
        rw [after_of_ok ran] at applied
        simp only [after, serveUpTo_of_handled host count queue ran]
        exact ih middle applied
      | error failure middle =>
        rw [after_of_error ran] at applied
        simp only [after, serveUpTo_of_failed host count queue ran]
        exact ih _ (reported middle envelope.command applied)

end

end Eff

end ScreenScript
