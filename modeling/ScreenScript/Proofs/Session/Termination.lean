import Mathlib.Data.Finset.Card
import ScreenScript.Proofs.Session.Reached

/-! # Showing comes to an end

A screen that appears may lead to another one, that to a third, and so on in any circle. Showing
them is a loop without a counter: it ends with the first round that starts no action. What runs down
is the set of screen identifiers whose action waits, among the screens that the router holds. A
round that starts an action takes one identifier out for good, since the view that is kept under it
has appeared, and no command can bring one in: commands only move the router among the screens that
it holds. So the bound on the rounds that `showCurrent` carries is never met. While nobody listens
this holds of every world, and so of every session that can be reached; with listeners, who may
bring in screens, nothing is told.
-/

namespace ScreenScript

variable {H : Type}

namespace World

/-- The screens that the router of the session can come to show. -/
def held (world : World H) : List Screen :=
  let router := world.routers mainRouter
  router.cache.map Prod.snd ++ router.stack ++ router.modals

/-- The identifiers of the screens among them whose action for the first appearance waits. Those of
screens without such an action are not counted, nor are those whose view has appeared. -/
def awaiting (world : World H) : Finset String :=
  ((world.held.filter fun screen => (world.viewFor screen).waiting?.isSome).map
    Screen.id).toFinset

theorem mem_held {world : World H} {screen : Screen} :
    screen ∈ world.held ↔ (world.routers mainRouter).Holds screen := by
  unfold held Router.Holds
  simp only [List.mem_append]
  constructor
  · rintro ((cached | onStack) | modal)
    · exact .inr (.inr cached)
    · exact .inl onStack
    · exact .inr (.inl modal)
  · rintro (onStack | modal | cached)
    · exact .inl (.inr onStack)
    · exact .inr modal
    · exact .inl (.inl cached)

theorem mem_awaiting {world : World H} {id : String} :
    id ∈ world.awaiting ↔ ∃ screen, (world.routers mainRouter).Holds screen ∧
      (world.viewFor screen).waiting?.isSome = true ∧ screen.id = id := by
  unfold awaiting
  simp only [List.mem_toFinset, List.mem_map, List.mem_filter, mem_held, and_assoc]

/-- The rounds that showing is given suffice for all identifiers that wait. -/
theorem card_awaiting_lt_showRounds (world : World H) :
    world.awaiting.card < Eff.showRounds world := by
  have listed := List.toFinset_card_le
    ((world.held.filter fun screen => (world.viewFor screen).waiting?.isSome).map Screen.id)
  have filtered := List.length_filter_le
    (fun screen => (world.viewFor screen).waiting?.isSome) world.held
  have counted : world.held.length + 1 = Eff.showRounds world := by
    simp only [held, Eff.showRounds, List.length_append, List.length_map]
  rw [List.length_map] at listed
  change world.awaiting.card ≤ _ at listed
  omega

/-- No action waits in a view that has appeared, and the views of other identifiers are as
before. -/
theorem waiting?_latched (world : World H) (screen other : Screen) :
    ((((world.opened screen).latched screen.id (world.viewFor screen)).viewFor other).waiting?) =
      if screen.id = other.id then none else (world.viewFor other).waiting? := by
  simp only [viewFor, latched, Keyed.get?_put, get?_opened]
  split <;> rfl

/-- Nobody listens, no consumer serves, and what waits are commands of the library, with stop
entries among them perhaps. -/
structure Docile (world : World H) : Prop where
  silent : world.Silent
  unserved : world.channel.serving = false
  known : ∀ envelope, .command envelope ∈ world.channel.queue → envelope.command.Known

namespace Docile

variable {world next : World H}

theorem of_steered (docile : world.Docile) (steered : Steered world next) : next.Docile where
  silent := steered.silent docile.silent
  unserved := steered.channel ▸ docile.unserved
  known := steered.channel ▸ docile.known

theorem opened (docile : world.Docile) (screen : Screen) : (world.opened screen).Docile where
  silent := docile.silent.opened screen
  unserved := by
    rw [channel_opened]
    exact docile.unserved
  known := by
    rw [channel_opened]
    exact docile.known

theorem latched (docile : world.Docile) (id : String) (view : View) :
    (world.latched id view).Docile :=
  ⟨docile.silent.latched id view, docile.unserved, docile.known⟩

end Docile

end World

namespace Eff

open World

variable {host : Host H} {world next : World H} {screen : Screen}

/-- Actions send only commands of the library, and none of them makes anybody listen or serve. -/
theorem operating_docile (host : Host H) :
    Operating host fun _ operation => Sustains Docile operation where
  toCompositional := Sustains.compositional _
  get _ docile := docile
  log notice world docile := docile.of_steered (steered_log notice world docile.silent)
  write scope path value world docile := by
    have silent := (undisturbed_write host scope path value world docile.silent).silent
    rw [after_of_ok (write_of_silent host (docile.silent.scopes scope) path value)] at silent ⊢
    refine ⟨silent docile.silent, ?_, ?_⟩
    · rw [channel_stored]
      exact docile.unserved
    · rw [channel_stored]
      exact docile.known
  send command router known world docile := by
    refine ⟨⟨docile.silent.scopes, docile.silent.routers⟩, docile.unserved, ?_⟩
    intro other member
    rcases List.mem_append.mp member with earlier | sent
    · exact docile.known other earlier
    · cases List.mem_singleton.mp sent
      exact known
  take world docile := by
    cases queue : world.channel.queue with
    | nil =>
      rw [after_of_ok (take_of_nil queue)]
      exact docile
    | cons entry rest =>
      rw [after_of_ok (take_of_cons queue)]
      refine ⟨⟨docile.silent.scopes, docile.silent.routers⟩, docile.unserved, ?_⟩
      intro other member
      exact docile.known other (queue ▸ List.mem_cons_of_mem _ member)
  apply envelope world docile := docile.of_steered (steered_apply host envelope world docile.silent)

/-- A round that starts an action: beside what the action and the drain do, it only keeps that the
view has appeared. -/
theorem undisturbed_showRound {view : View} (silent : world.Silent)
    (ran : showRound host screen world = .ok (view, true) next) :
    (world.viewFor screen).waiting?.isSome = true ∧
      Undisturbed ((world.opened screen).latched screen.id (world.viewFor screen)) next := by
  obtain ⟨rfl, ⟨node, middle, applied, _, waiting, executed, drained⟩ | ⟨unstarted, _, _⟩⟩ :=
    showRound_cases ran
  · refine ⟨waiting ▸ rfl, ?_⟩
    have latched := (silent.opened screen).latched screen.id (world.viewFor screen)
    have acted := undisturbed_execute host (world.viewFor screen).scope
      (world.viewFor screen).router (Action.ofNode node) _ latched
    rw [after_of_ok executed] at acted
    have flushed := undisturbed_drain host middle (acted.silent latched)
    rw [after_of_ok drained] at flushed
    exact acted.trans flushed
  · cases unstarted

/-- A round that starts an action leaves fewer identifiers that wait. -/
theorem awaiting_showRound {view : View} (silent : world.Silent)
    (current : world.current? = some screen)
    (ran : showRound host screen world = .ok (view, true) next) :
    next.Silent ∧ next.awaiting ⊂ world.awaiting := by
  obtain ⟨waits, undisturbed⟩ := undisturbed_showRound silent ran
  have routers : ((world.opened screen).latched screen.id (world.viewFor screen)).routers =
      world.routers := routers_opened world screen
  have waiting (other : Screen) : (next.viewFor other).waiting? =
      if screen.id = other.id then none else (world.viewFor other).waiting? := by
    rw [← waiting?_latched world screen other]
    simp only [World.viewFor, undisturbed.views]
  have still := undisturbed.silent ((silent.opened screen).latched screen.id (world.viewFor screen))
  refine ⟨still, (Finset.ssubset_iff_of_subset ?_).mpr ⟨screen.id, ?_, ?_⟩⟩
  · -- What waits now was held before and waited then.
    intro id member
    obtain ⟨other, held, waits', rfl⟩ := mem_awaiting.mp member
    have before := undisturbed.held mainRouter other held
    rw [routers] at before
    rw [waiting] at waits'
    split at waits'
    · cases waits'
    · exact mem_awaiting.mpr ⟨other, before, waits', rfl⟩
  · exact mem_awaiting.mpr ⟨screen, Router.holds_of_current? current, waits, rfl⟩
  · intro member
    obtain ⟨other, _, waits', same⟩ := mem_awaiting.mp member
    rw [waiting, if_pos same.symm] at waits'
    cases waits'

/-- The loop of showing without any bound on its rounds: how many there are, and what they end
with. -/
inductive Loops (host : Host H) :
    Nat → World H → EStateM.Result Failure (World H) (List Node) → Prop
  | blank {world : World H} (nothing : world.current? = none) : Loops host 1 world (.ok [] world)
  | failed {world last : World H} {screen : Screen} {failure : Failure}
      (current : world.current? = some screen)
      (ran : showRound host screen world = .error failure last) :
      Loops host 1 world (.error failure last)
  /-- The round starts no action, so its view is rendered. -/
  | settled {world next : World H} {screen : Screen} {view : View}
      (current : world.current? = some screen)
      (ran : showRound host screen world = .ok (view, false) next) :
      Loops host 1 world (render view next)
  /-- The round starts an action, so another one follows. -/
  | again {world next : World H} {screen : Screen} {view : View} {rounds : Nat}
      {outcome : EStateM.Result Failure (World H) (List Node)}
      (current : world.current? = some screen)
      (ran : showRound host screen world = .ok (view, true) next)
      (later : Loops host rounds next outcome) : Loops host (rounds + 1) world outcome

variable {rounds : Nat} {outcome : EStateM.Result Failure (World H) (List Node)}

/-- A bound on the rounds that the loop does not exceed is not seen. -/
theorem Loops.showWithin_eq (loops : Loops host rounds world outcome) {bound : Nat}
    (enough : rounds ≤ bound) : showWithin host bound world = outcome := by
  induction loops generalizing bound with
  | blank nothing =>
    obtain ⟨bound, rfl⟩ := Nat.exists_eq_add_of_le' enough
    rw [showWithin_succ, nothing]
  | failed current ran =>
    obtain ⟨bound, rfl⟩ := Nat.exists_eq_add_of_le' enough
    simp only [showWithin_succ, current, bind_of_error ran]
  | settled current ran =>
    obtain ⟨bound, rfl⟩ := Nat.exists_eq_add_of_le' enough
    simp only [showWithin_succ, current, bind_of_ok ran, Bool.false_eq_true, ↓reduceIte]
  | again current ran later ih =>
    cases bound with
    | zero => cases enough
    | succ bound =>
      simp only [showWithin_succ, current, bind_of_ok ran, ↓reduceIte]
      exact ih (Nat.le_of_succ_le_succ enough)

/-- The loop ends, in no more rounds than there are identifiers that wait, and one. -/
theorem exists_loops (host : Host H) (bound : Nat) (silent : world.Silent)
    (few : world.awaiting.card < bound) :
    ∃ rounds outcome, rounds ≤ bound ∧ Loops host rounds world outcome := by
  induction bound generalizing world with
  | zero => cases few
  | succ bound ih =>
    have one : 1 ≤ bound + 1 := Nat.le_add_left 1 bound
    cases current : world.current? with
    | none => exact ⟨1, _, one, .blank current⟩
    | some screen =>
      cases ran : showRound host screen world with
      | error failure last => exact ⟨1, _, one, .failed current ran⟩
      | ok shown next =>
        obtain ⟨view, started⟩ := shown
        cases started with
        | false => exact ⟨1, _, one, .settled current ran⟩
        | true =>
          -- The identifier that this round takes out pays for the round.
          obtain ⟨still, fewer⟩ := awaiting_showRound silent current ran
          have less := Finset.card_lt_card fewer
          obtain ⟨rounds, outcome, within, later⟩ := ih still (by omega)
          exact ⟨rounds + 1, outcome, Nat.succ_le_succ within, .again current ran later⟩

/-- A round in a docile world succeeds unless an alert is refused, and the next world is docile. -/
theorem showRound_succeeds (agreeable : host.presenter.Agreeable) (docile : world.Docile)
    (screen : Screen) :
    ∃ shown next, showRound host screen world = .ok shown next ∧ next.Docile := by
  have opened := docile.opened screen
  have appeared : ∃ started middle,
      appearInSession host screen.id (world.viewFor screen) (world.opened screen) =
        .ok started middle ∧ middle.Docile := by
    cases waiting : (world.viewFor screen).waiting? with
    | none => exact ⟨false, _, appearInSession_of_rested host screen.id waiting, opened⟩
    | some node =>
      have executed := (operating_docile host).execute (world.viewFor screen).scope
        (world.viewFor screen).router (Action.ofNode node) _
        (opened.latched screen.id (world.viewFor screen))
      exact ⟨true, _, appearInSession_of_waiting host screen.id opened.silent waiting, executed⟩
  obtain ⟨started, middle, appeared, still⟩ := appeared
  obtain ⟨applied, next, drained⟩ :=
    drainUpTo_succeeds agreeable middle.channel.pending still.silent still.known
  rw [← drain_of_unserved host still.unserved] at drained
  have kept := (operating_docile host).drain middle still
  rw [after_of_ok drained] at kept
  refine ⟨(world.viewFor screen, started), next, ?_, kept⟩
  rw [showRound, bind_of_ok (viewOf_eq screen world), bind_of_ok appeared]
  exact bind_of_ok drained

/-- The loop ends with nodes in a docile world, unless an alert is refused. -/
theorem Loops.succeeds (agreeable : host.presenter.Agreeable)
    (loops : Loops host rounds world outcome) (docile : world.Docile) :
    ∃ nodes last, outcome = .ok nodes last := by
  induction loops with
  | blank nothing => exact ⟨_, _, rfl⟩
  | @failed _ _ screen _ _ ran =>
    obtain ⟨shown, next, ran', _⟩ := showRound_succeeds agreeable docile screen
    cases ran.symm.trans ran'
  | settled current ran => exact ⟨_, _, rfl⟩
  | @again _ _ screen _ _ _ _ ran later ih =>
    obtain ⟨shown, next, ran', still⟩ := showRound_succeeds agreeable docile screen
    cases ran.symm.trans ran'
    exact ih still

/-- While nobody listens, showing ends after at most as many rounds as there are identifiers of
screens on the stacks and in the cache of the router whose action waits, and one more, wherever the
actions lead and whatever waits on the channel. The bound that `showCurrent` puts on the rounds
changes nothing. What showing ends with are nodes, unless a consumer serves, an alert is refused or
something waits that is no command of the library. -/
theorem showCurrent_terminates (host : Host H) (world : World H) (silent : world.Silent) :
    ∃ rounds outcome, rounds ≤ world.awaiting.card + 1 ∧ Loops host rounds world outcome ∧
      (∀ more, showCurrent host more world = outcome) ∧
      (host.presenter.Agreeable → world.Docile → ∃ nodes last, outcome = .ok nodes last) := by
  obtain ⟨rounds, outcome, within, loops⟩ :=
    exists_loops host (world.awaiting.card + 1) silent (Nat.lt_succ_self _)
  refine ⟨rounds, outcome, within, loops, fun more => ?_, loops.succeeds⟩
  have bounded := card_awaiting_lt_showRounds world
  have enough : rounds ≤ showRounds world + more := by omega
  exact loops.showWithin_eq enough

/-- A screen that leads on as soon as it appears. -/
private def leading (id command screen : String) : Screen :=
  ⟨id, [], none, .mapping [("action", .text command),
    ("params", .mapping [("screen", .text screen)])]⟩

/-- Three screens that lead to each other in a circle, with a stop entry and an alert that wait. -/
private def circle : World Unit :=
  (Session.start [leading "a" "navigate" "b", leading "b" "presentModal" "c",
    leading "c" "navigate" "a"] default Registry.standard ()).mapChannel fun channel =>
      { channel with queue := [.stop, .command ⟨.showAlert "Alerta" "Oi", none⟩] }

/-- The circle is gone round once: each of the screens appears, and then nothing leads on. -/
theorem showCurrent_terminates_circle :
    circle.Silent ∧ circle.awaiting.card = 3 ∧
      ∃ rounds outcome, rounds ≤ 4 ∧ Loops .calm rounds circle outcome ∧
        (∀ more, showCurrent .calm more circle = outcome) ∧
        ∃ nodes last, outcome = .ok nodes last ∧ last.current?.map Screen.id = some "c" ∧
          last.alerts = [(.text "Alerta", .text "Oi")] := by
  have started := (Session.kept_start [leading "a" "navigate" "b", leading "b" "presentModal" "c",
    leading "c" "navigate" "a"] default Registry.standard ()).silent
  have silent : circle.Silent := ⟨started.scopes, started.routers⟩
  have three : circle.awaiting.card = 3 := rfl
  have docile : circle.Docile := by
    refine ⟨silent, rfl, fun envelope member => ?_⟩
    cases member with
    | tail _ later => cases List.mem_singleton.mp later; trivial
  obtain ⟨rounds, outcome, within, loops, shown, succeeds⟩ :=
    showCurrent_terminates .calm circle silent
  rw [three] at within
  obtain ⟨nodes, last, same⟩ := succeeds (fun _ _ => rfl) docile
  have ran : showCurrent .calm 0 circle = .ok nodes last := (shown 0).trans same
  have left : after (showCurrent .calm 0) circle = last := after_of_ok ran
  refine ⟨silent, three, rounds, outcome, within, loops, shown, nodes, last, same, ?_, ?_⟩
  · rw [← left]
    rfl
  · rw [← left]
    rfl

end Eff

end ScreenScript
