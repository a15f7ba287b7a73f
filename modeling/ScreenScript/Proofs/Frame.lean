import ScreenScript.Proofs.Operating

/-! # What operations leave alone in a silent world

A frame is a relation between the worlds before and after an operation that survives sequencing
and keeps a world silent. Commands steer: they move routers among the screens that these hold
already, and touch neither the channel nor the views. Actions and drains leave the views, the
caches and all listeners alone. Both hold whether an operation succeeds or fails half way, since
a failure keeps what was done before it. Rendering and the views of a session are not covered.
-/

namespace ScreenScript

variable {H : Type} {α β : Type}

namespace Scopes

private def Unheard (scopes : Scopes) : Prop :=
  ∀ id, (scopes.get id).listeners = []

private theorem unheard_fork {scopes : Scopes} (silent : Unheard scopes) (scope : ScopeId)
    (fields : Fields) : Unheard (scopes.fork scope fields) := by
  intro id
  rw [get_fork]
  split
  · rfl
  · exact silent id

mutual

private theorem unheard_place (scope : ScopeId) :
    (layout : Layout) → {scopes : Scopes} → Unheard scopes → Unheard (place scope layout scopes).2
  | .component _ rows, _, silent => unheard_placeRows scope rows silent

private theorem unheard_placeAll (scope : ScopeId) :
    (layouts : List Layout) → {scopes : Scopes} → Unheard scopes →
      Unheard (placeAll scope layouts scopes).2
  | [], _, silent => silent
  | layout :: rest, _, silent => unheard_placeAll scope rest (unheard_place scope layout silent)

private theorem unheard_placeRows (scope : ScopeId) :
    (rows : List (Fields × List Layout)) → {scopes : Scopes} → Unheard scopes →
      Unheard (placeRows scope rows scopes).2
  | [], _, silent => silent
  | (fields, layouts) :: rest, _, silent =>
    unheard_placeRows scope rest (unheard_placeAll _ layouts (unheard_fork silent scope fields))

end

end Scopes

/-- A screen that a router can come to show: one on its stacks or in its cache. -/
def Router.Holds (router : Router) (screen : Screen) : Prop :=
  screen ∈ router.stack ∨ screen ∈ router.modals ∨ screen ∈ router.cache.map Prod.snd

theorem Router.holds_of_current? {router : Router} {screen : Screen}
    (current : router.current? = some screen) : router.Holds screen := by
  unfold Router.current? at current
  cases modals : router.modals with
  | nil =>
    rw [modals] at current
    exact .inl (List.mem_of_head? current)
  | cons top rest =>
    rw [modals] at current
    cases current
    exact .inr (.inl (modals ▸ List.mem_cons_self ..))

theorem Router.holds_of_screen? {router : Router} {asked : Value} {screen : Screen}
    (found : router.screen? asked = some screen) : router.Holds screen := by
  obtain ⟨id, _, cached⟩ := Option.bind_eq_some_iff.mp found
  exact .inr (.inr (List.mem_map_of_mem (Keyed.mem_of_get? cached)))

private theorem Router.holds_of_stack {router : Router} {stack : List Screen} {screen : Screen}
    (known : ∀ other ∈ stack, router.Holds other)
    (held : { router with stack := stack }.Holds screen) : router.Holds screen := by
  rcases held with onStack | elsewhere
  · exact known screen onStack
  · exact .inr elsewhere

private theorem Router.holds_of_modals {router : Router} {modals : List Screen} {screen : Screen}
    (known : ∀ other ∈ modals, router.Holds other)
    (held : { router with modals := modals }.Holds screen) : router.Holds screen := by
  rcases held with onStack | modal | cached
  · exact .inl onStack
  · exact known screen modal
  · exact .inr (.inr cached)

/-- A move brings nothing onto the stacks that the router did not hold, save what it pushes. -/
theorem Router.holds_of_move? {router next : Router} {step : Move} {screen : Screen}
    (moved : router.move? step = some next) (held : next.Holds screen) :
    router.Holds screen ∨ step = .push screen := by
  cases step with
  | navigate asked =>
    obtain ⟨found, cached, rfl⟩ := Option.map_eq_some_iff.mp moved
    refine .inl (holds_of_stack (List.forall_mem_cons.mpr ⟨?_, fun _ below => .inl below⟩) held)
    exact holds_of_screen? cached
  | goBack =>
    obtain ⟨cache, stack, modals, listeners⟩ := router
    match stack, moved with
    | top :: below :: rest, moved =>
      cases moved
      exact .inl (holds_of_stack (fun _ onStack => .inl (List.mem_cons_of_mem _ onStack)) held)
  | reset asked =>
    cases moved
    exact .inl (holds_of_stack (fun _ root => holds_of_screen? (Option.mem_toList.mp root)) held)
  | presentModal asked =>
    obtain ⟨found, cached, rfl⟩ := Option.map_eq_some_iff.mp moved
    refine .inl (holds_of_modals (List.forall_mem_cons.mpr ⟨?_, fun _ m => .inr (.inl m)⟩) held)
    exact holds_of_screen? cached
  | push pushed =>
    cases moved
    rcases held with onStack | modal | cached
    · exact .inl (.inl onStack)
    · rcases List.mem_cons.mp modal with rfl | below
      · exact .inr rfl
      · exact .inl (.inr (.inl below))
    · exact .inl (.inr (.inr cached))
  | dismissModal =>
    obtain ⟨cache, stack, modals, listeners⟩ := router
    match modals, moved with
    | top :: rest, moved =>
      cases moved
      refine .inl (holds_of_modals (fun _ modal => ?_) held)
      exact .inr (.inl (List.mem_cons_of_mem _ modal))

theorem Router.holds_of_preload {router : Router} {screens : List Screen} {screen : Screen}
    (held : (router.preload screens).Holds screen) : router.Holds screen ∨ screen ∈ screens := by
  induction screens generalizing router with
  | nil => exact .inl held
  | cons first rest ih =>
    have loaded : ((router.preload [first]).preload rest).Holds screen := held
    rcases ih loaded with earlier | later
    · rcases earlier with onStack | modal | cached
      · exact .inl (.inl onStack)
      · exact .inl (.inr (.inl modal))
      · obtain ⟨entry, member, rfl⟩ := List.mem_map.mp cached
        rcases Keyed.mem_put member with old | new
        · exact .inl (.inr (.inr (List.mem_map_of_mem old)))
        · rw [new]
          exact .inr (List.mem_cons_self ..)
    · exact .inr (List.mem_cons_of_mem _ later)

namespace World

/-- A relation that survives sequencing and keeps a world silent. -/
structure Frame (relation : World H → World H → Prop) : Prop where
  refl : ∀ world, relation world world
  trans : ∀ {first middle last}, relation first middle → relation middle last → relation first last
  silent : ∀ {before after}, relation before after → before.Silent → after.Silent

/-- What actions and drains leave alone: the views, all listeners and all caches. No router comes
to hold a screen that it did not hold. -/
structure Undisturbed (before after : World H) : Prop where
  views : after.views = before.views
  heard : ∀ id, (after.scopes.get id).listeners = (before.scopes.get id).listeners
  listening : ∀ id, (after.routers id).listeners = (before.routers id).listeners
  cached : ∀ id, (after.routers id).cache = (before.routers id).cache
  held : ∀ id screen, (after.routers id).Holds screen → (before.routers id).Holds screen

/-- What applying a command leaves alone besides: the channel. -/
structure Steered (before after : World H) : Prop extends Undisturbed before after where
  channel : after.channel = before.channel

theorem Undisturbed.refl (world : World H) : Undisturbed world world where
  views := rfl
  heard _ := rfl
  listening _ := rfl
  cached _ := rfl
  held _ _ held := held

theorem Undisturbed.trans {first middle last : World H} (left : Undisturbed first middle)
    (right : Undisturbed middle last) : Undisturbed first last where
  views := right.views.trans left.views
  heard id := (right.heard id).trans (left.heard id)
  listening id := (right.listening id).trans (left.listening id)
  cached id := (right.cached id).trans (left.cached id)
  held id screen held := left.held id screen (right.held id screen held)

theorem Undisturbed.silent {before after : World H} (undisturbed : Undisturbed before after)
    (silent : before.Silent) : after.Silent where
  scopes id := (undisturbed.heard id).trans (silent.scopes id)
  routers id := (undisturbed.listening id).trans (silent.routers id)

theorem Undisturbed.frame : Frame (Undisturbed (H := H)) where
  refl := .refl
  trans := .trans
  silent := Undisturbed.silent

theorem Steered.frame : Frame (Steered (H := H)) where
  refl world := { Undisturbed.refl world with channel := rfl }
  trans left right :=
    { left.toUndisturbed.trans right.toUndisturbed with
      channel := right.channel.trans left.channel }
  silent steered := steered.toUndisturbed.silent

end World

namespace Eff

open World

/-- In a silent world an operation keeps to a relation, whether it succeeds or fails. -/
def Within (relation : World H → World H → Prop) (operation : Eff H α) : Prop :=
  ∀ world, world.Silent → relation world (after operation world)

variable {relation : World H → World H → Prop}

theorem Within.mono {other : World H → World H → Prop} {operation : Eff H α}
    (within : Within relation operation)
    (weaker : ∀ {before after}, relation before after → other before after) :
    Within other operation :=
  fun world silent => weaker (within world silent)

theorem Within.get (frame : Frame relation) : Within relation (get : Eff H (World H)) :=
  fun world _ => frame.refl world

/-- A frame passes through a sequence, also when its first part fails. -/
theorem Within.compositional (frame : Frame relation) :
    Compositional (H := H) fun _ operation => Within relation operation where
  pure _ world _ := frame.refl world
  throw _ world _ := frame.refl world
  bind first second := by
    intro world silent
    -- What is carried along is the relation to the first world, which keeps every world silent.
    have carried {γ : Type} {operation : Eff H γ} (within : Within relation operation) :
        Sustains (fun next => relation world next) operation :=
      fun next related => frame.trans related (within next (frame.silent related silent))
    exact (carried first).bind (fun result => carried (second result)) world (frame.refl world)

theorem Within.modify {change : World H → World H}
    (changed : ∀ world, relation world (change world)) :
    Within relation (modify change : Eff H Unit) :=
  fun world _ => changed world

/-- Changes that are not seen in the views, the listeners and the routers. -/
private theorem steered_of_eq {before after : World H} (views : after.views = before.views)
    (scopes : after.scopes = before.scopes) (routers : after.routers = before.routers)
    (channel : after.channel = before.channel) : Steered before after where
  views := views
  heard _ := by rw [scopes]
  listening _ := by rw [routers]
  cached _ := by rw [routers]
  held _ _ held := by rwa [routers] at held
  channel := channel

private theorem undisturbed_mapChannel (world : World H) (change : Channel → Channel) :
    Undisturbed world (world.mapChannel change) :=
  { Undisturbed.refl world with views := rfl }

theorem steered_log (notice : Notice) : Within Steered (log notice : Eff H Unit) :=
  Within.modify fun _ => steered_of_eq rfl rfl rfl rfl

/-- A move that is no push steers. -/
theorem steered_move (host : Host H) (router : RouterId) {step : Move}
    (unpushed : ∀ screen, step ≠ .push screen) : Within Steered (move host router step) := by
  intro world silent
  rw [after_of_ok (move_of_silent host (silent.routers router) step)]
  exact {
    views := views_moved world router step
    heard := fun id => by rw [scopes_moved]
    listening := fun id => listeners_moved world router id step
    cached := fun id => cache_moved world router id step
    held := fun id screen held => by
      rw [routers_moved] at held
      split at held
      next same =>
        subst same
        cases accepted : (world.routers id).move? step with
        | none => rwa [accepted] at held
        | some next =>
          rw [accepted] at held
          exact (Router.holds_of_move? accepted held).resolve_right (unpushed screen)
      · exact held
    channel := channel_moved world router step }

theorem steered_present (host : Host H) (title message : Value) :
    Within Steered (present host title message) := by
  unfold present
  split
  · exact steered_log _
  · split
    · exact (Within.compositional Steered.frame).throw _
    · exact Within.modify fun _ => steered_of_eq rfl rfl rfl rfl

/-- Applying a command steers, whether it succeeds or fails. -/
theorem steered_apply (host : Host H) (envelope : Envelope) :
    Within Steered (apply host envelope) := by
  have handling : Handling host envelope.router fun _ operation => Within Steered operation := {
    Within.compositional Steered.frame with
    move := fun id _ _ unpushed => steered_move host id unpushed
    record := fun _ _ => Within.modify fun _ => steered_of_eq rfl rfl rfl rfl
    present := steered_present host }
  exact handling.apply

theorem undisturbed_take : Within (H := H) Undisturbed take := by
  intro world _
  cases queue : world.channel.queue with
  | nil =>
    rw [after_of_ok (take_of_nil queue)]
    exact .refl world
  | cons entry rest =>
    rw [after_of_ok (take_of_cons queue)]
    exact undisturbed_mapChannel world _

/-- A drain that succeeds leaves nothing on the channel. -/
theorem queue_of_drainUpTo {host : Host H} (count : Nat) {world next : World H} {applied : Nat}
    (silent : world.Silent) (enough : world.channel.pending ≤ count)
    (drained : drainUpTo host count world = .ok applied next) : next.channel.queue = [] := by
  induction count generalizing world applied with
  | zero =>
    cases drained
    exact List.length_eq_zero_iff.mp (Nat.le_zero.mp enough)
  | succ count ih =>
    cases queue : world.channel.queue with
    | nil =>
      rw [drainUpTo_of_nil host _ queue] at drained
      cases drained
      exact queue
    | cons entry rest =>
      have taken : (world.mapChannel fun channel => { channel with queue := rest }).Silent :=
        (undisturbed_mapChannel world _).silent silent
      have fewer : rest.length ≤ count := by
        simp only [Channel.pending, queue, List.length_cons] at enough
        omega
      cases entry with
      | stop =>
        rw [drainUpTo_of_stop host _ queue] at drained
        exact ih taken fewer drained
      | command envelope =>
        rw [drainUpTo_of_command host _ queue] at drained
        obtain ⟨_, middle, applied, drained⟩ := bind_eq_ok_iff.mp drained
        obtain ⟨_, last, drained, finished⟩ := bind_eq_ok_iff.mp drained
        cases finished
        have steered := steered_apply host envelope _ taken
        rw [after_of_ok applied] at steered
        refine ih (steered.silent taken) ?_ drained
        rw [steered.channel]
        exact fewer

theorem queue_of_drain {host : Host H} {world next : World H} {applied : Nat}
    (silent : world.Silent) (drained : drain host world = .ok applied next) :
    next.channel.queue = [] := by
  cases serving : world.channel.serving with
  | true =>
    rw [drain_of_serving host serving] at drained
    cases drained
  | false =>
    rw [drain_of_unserved host serving] at drained
    exact queue_of_drainUpTo _ silent (Nat.le_refl _) drained

theorem undisturbed_write (host : Host H) (scope : ScopeId) (path : String) (value : Value) :
    Within Undisturbed (write host scope path value) := by
  intro world silent
  rw [after_of_ok (write_of_silent host (silent.scopes scope) path value)]
  exact {
    views := views_stored world scope path value
    heard := fun id => listeners_stored world scope id path value
    listening := fun id => by rw [routers_stored]
    cached := fun id => by rw [routers_stored]
    held := fun id screen held => by rwa [routers_stored] at held }

theorem undisturbed_send (command : Command) (router : Option RouterId) :
    Within (H := H) Undisturbed (send command router) :=
  Within.modify fun world => undisturbed_mapChannel world _

/-- Actions and drains leave the views, the caches and the listeners alone, also when they fail half
way. -/
theorem operating_undisturbed (host : Host H) :
    Operating host fun _ operation => Within Undisturbed operation where
  toCompositional := Within.compositional Undisturbed.frame
  get := .get Undisturbed.frame
  log notice := (steered_log notice).mono Steered.toUndisturbed
  write := undisturbed_write host
  send command router _ := undisturbed_send command router
  take := undisturbed_take
  apply envelope := (steered_apply host envelope).mono Steered.toUndisturbed

theorem undisturbed_execute (host : Host H) (scope : ScopeId) (router : Option RouterId)
    (action : Action) : Within Undisturbed (execute host scope router action) :=
  (operating_undisturbed host).execute scope router action

theorem undisturbed_drain (host : Host H) : Within Undisturbed (drain host) :=
  (operating_undisturbed host).drain

theorem executeInstruction_succeeds (host : Host H) (scope : ScopeId) (router : Option RouterId)
    (instruction : Instruction) {world : World H} (silent : world.Silent) :
    ∃ next, executeInstruction host scope router instruction world = .ok () next := by
  change ∃ next, perform host scope router (Effect.ofInstruction world.alertTitle router.isSome
    (world.reader scope) instruction) world = .ok () next
  cases Effect.ofInstruction world.alertTitle router.isSome (world.reader scope) instruction with
  | write path value => exact ⟨_, write_of_silent host (silent.scopes scope) path value⟩
  | send command => exact ⟨_, rfl⟩
  | skip notice => exact ⟨_, rfl⟩

mutual

/-- While nobody listens, every action is executed to its end. -/
theorem execute_succeeds (host : Host H) (scope : ScopeId) (router : Option RouterId) :
    (action : Action) → {world : World H} → world.Silent →
      ∃ next, execute host scope router action world = .ok () next
  | .single instruction, _, silent =>
    executeInstruction_succeeds host scope router instruction silent
  | .sequence steps, _, silent => executeAll_succeeds host scope router steps silent

theorem executeAll_succeeds (host : Host H) (scope : ScopeId) (router : Option RouterId) :
    (steps : List Action) → {world : World H} → world.Silent →
      ∃ next, executeAll host scope router steps world = .ok () next
  | [], world, _ => ⟨world, rfl⟩
  | step :: rest, world, silent => by
    obtain ⟨middle, ran⟩ := execute_succeeds host scope router step silent
    have undisturbed := undisturbed_execute host scope router step world silent
    rw [after_of_ok ran] at undisturbed
    obtain ⟨last, finished⟩ :=
      executeAll_succeeds host scope router rest (undisturbed.silent silent)
    rw [executeAll, bind_of_ok ran]
    exact ⟨last, finished⟩

end

theorem applyMove_succeeds (host : Host H) (router : Option RouterId) (step : Move)
    (refused : List Notice) {world : World H} (silent : world.Silent) :
    ∃ next, applyMove host router step refused world = .ok () next := by
  cases router with
  | none => exact ⟨world, rfl⟩
  | some router =>
    have made := move_of_silent host (silent.routers router) step
    change ∃ next, (move host router step >>= fun succeeded => if succeeded then (return ())
      else modify fun world => world.record refused) world = .ok () next
    rw [bind_of_ok made]
    cases (world.routers router).succeeds step with
    | true => exact ⟨_, rfl⟩
    | false => exact ⟨_, rfl⟩

/-- While nobody listens and no alert is refused, every command of the library can be applied. -/
theorem apply_succeeds {host : Host H} (agreeable : host.presenter.Agreeable) {envelope : Envelope}
    (known : envelope.command.Known) {world : World H} (silent : world.Silent) :
    ∃ next, apply host envelope world = .ok () next := by
  obtain ⟨command, router⟩ := envelope
  cases command with
  | navigate screen => exact applyMove_succeeds host router _ _ silent
  | navigateBack => exact applyMove_succeeds host router _ _ silent
  | reset screen => exact applyMove_succeeds host router _ _ silent
  | presentModal screen => exact applyMove_succeeds host router _ _ silent
  | dismissModal => exact applyMove_succeeds host router _ _ silent
  | foreign attributes => exact known.elim
  | showAlert title message =>
    obtain ⟨react, presenter⟩ := host
    cases presenter with
    | logging => exact ⟨_, rfl⟩
    | showing refuses =>
      have shown : refuses (.text title) (.text message) = false := agreeable _ _
      change ∃ next, (if refuses (.text title) (.text message) then throw .hostGone
        else _ : Eff H Unit) world = .ok () next
      rw [shown]
      exact ⟨_, rfl⟩

/-- Then a drain comes to an end as well. Stop entries do not matter to it. -/
theorem drainUpTo_succeeds {host : Host H} (agreeable : host.presenter.Agreeable) (count : Nat)
    {world : World H} (silent : world.Silent)
    (known : ∀ envelope, .command envelope ∈ world.channel.queue → envelope.command.Known) :
    ∃ applied next, drainUpTo host count world = .ok applied next := by
  induction count generalizing world with
  | zero => exact ⟨0, world, rfl⟩
  | succ count ih =>
    cases queue : world.channel.queue with
    | nil => exact ⟨0, world, drainUpTo_of_nil host _ queue⟩
    | cons entry rest =>
      have taken : (world.mapChannel fun channel => { channel with queue := rest }).Silent :=
        (undisturbed_mapChannel world _).silent silent
      have others : ∀ envelope, .command envelope ∈ rest → envelope.command.Known :=
        fun envelope member => known envelope (queue ▸ List.mem_cons_of_mem _ member)
      cases entry with
      | stop =>
        rw [drainUpTo_of_stop host _ queue]
        exact ih taken others
      | command envelope =>
        obtain ⟨middle, applied⟩ :=
          apply_succeeds agreeable (known envelope (queue ▸ List.mem_cons_self ..)) taken
        have steered := steered_apply host envelope _ taken
        rw [after_of_ok applied] at steered
        obtain ⟨number, last, drained⟩ :=
          ih (steered.silent taken) (steered.channel.symm ▸ others)
        rw [drainUpTo_of_command host _ queue, bind_of_ok applied, bind_of_ok drained]
        exact ⟨number + 1, last, rfl⟩

/-- Rendering only adds the scopes of rows, which nobody listens to yet. -/
theorem undisturbed_render (view : View) : Within (H := H) Undisturbed (render view) := by
  intro world silent
  exact {
    views := rfl
    heard := fun id => (Scopes.unheard_placeAll _ _ silent.scopes id).trans (silent.scopes id).symm
    listening := fun _ => rfl
    cached := fun _ => rfl
    held := fun _ _ held => held }

/-- Rendering leaves the routers as they are. -/
theorem routers_of_render {view : View} {world last : World H} {nodes : List Node}
    (rendered : render view world = .ok nodes last) : last.routers = world.routers := by
  cases rendered
  rfl

end Eff

end ScreenScript
