import ScreenScript.Proofs.Session.Operation

/-! # Actions for the first appearance are started once

A session keeps one view for each screen identifier, and the view keeps that it has appeared
before its action is executed. Nothing takes that back, also when the action fails half way, so
among all visits of a run there is at most one for each identifier that starts an action. The
invariant says more: an identifier has been started exactly when its view has appeared. That a
visit which starts an action executes it once, and that no other visit executes anything, is
`Visit.make`. Listeners may do whatever they like when they are called, and may fail, except that
of views they only open fresh ones; for a listener cannot wait for an operation of the session. In
which order actions are started, and whether they come to their end, is not told.
-/

namespace ScreenScript

variable {H : Type}

/-- The visit starts the action of the screen with an identifier. -/
def Visit.starts (id : String) (visit : Visit) : Bool :=
  visit.screen.id = id ∧ visit.started.isSome

/-- How often visits have started the action of the screen with an identifier. -/
def startsOf (visits : List Visit) (id : String) : Nat :=
  visits.countP (Visit.starts id)

theorem startsOf_append (visits later : List Visit) (id : String) :
    startsOf (visits ++ later) id = startsOf visits id + startsOf later id :=
  List.countP_append

theorem startsOf_quiet (screen : Screen) (id : String) : startsOf [⟨screen, none⟩] id = 0 := by
  simp only [startsOf, Visit.starts, Option.isSome_none, Bool.false_eq_true, and_false,
    decide_false, not_false_eq_true, List.countP_cons_of_neg, List.countP_nil]

theorem startsOf_start (screen : Screen) (node : Value) (id : String) :
    startsOf [⟨screen, some node⟩] id = if screen.id = id then 1 else 0 := by
  simp only [startsOf, Visit.starts, Option.isSome_some, and_true, List.countP_singleton,
    decide_eq_true_eq]

namespace World

/-- Of views, nothing but fresh ones came in, each for the identifier of its screen. -/
structure Opens (before after : World H) : Prop where
  kept : ∀ {id view}, Keyed.get? before.views id = some view →
    Keyed.get? after.views id = some view
  fresh : ∀ {id view}, Keyed.get? after.views id = some view →
    Keyed.get? before.views id = some view ∨ view.appeared = false ∧ view.screen.id = id

namespace Opens

theorem of_views {before after : World H} (same : after.views = before.views) :
    before.Opens after where
  kept found := by rwa [same]
  fresh found := .inl (by rwa [same] at found)

theorem trans {first middle last : World H} (left : first.Opens middle)
    (right : middle.Opens last) : first.Opens last where
  kept found := right.kept (left.kept found)
  fresh found := by
    rcases right.fresh found with earlier | fresh
    · exact left.fresh earlier
    · exact .inr fresh

/-- Answering the view of a screen opens it, if it is not there. -/
theorem opened (world : World H) (screen : Screen) : world.Opens (world.opened screen) where
  kept {id view} found := by
    rw [get?_opened]
    split
    next same =>
      subst same
      rw [viewFor, found, Option.getD_some]
    · exact found
  fresh {id view} found := by
    rw [get?_opened] at found
    split at found
    next same =>
      subst same
      cases there : Keyed.get? world.views screen.id with
      | some other =>
        rw [viewFor, there, Option.getD_some] at found
        exact .inl found
      | none =>
        rw [viewFor, there, Option.getD_none] at found
        cases found
        exact .inr ⟨rfl, rfl⟩
    · exact .inl found

end Opens

end World

namespace Eff

open World

variable {α : Type}

/-- An operation only opens views, whether it succeeds or fails. -/
def Opening (operation : Eff H α) : Prop :=
  ∀ world : World H, world.Opens (after operation world)

theorem Opening.sustains {operation : Eff H α} (opening : Opening operation) (base : World H) :
    Sustains base.Opens operation :=
  fun world opens => opens.trans (opening world)

theorem Opening.compositional : Compositional (H := H) fun _ operation => Opening operation where
  pure _ _ := .of_views rfl
  throw _ _ := .of_views rfl
  bind first second world :=
    Sustains.following (first world) fun result => (second result).sustains world

end Eff

/-- Of views, listeners open fresh ones at most. -/
def Host.Discreet (host : Host H) : Prop :=
  ∀ listener event, Eff.Opening (host.react listener event)

namespace Eff

open World

variable {host : Host H}

private theorem untouched_opens (base : World H) (router : Option RouterId) :
    Untouched base.Opens router where
  logged _ _ _ opens := opens.trans (.of_views rfl)
  shown _ _ opens := opens.trans (.of_views rfl)
  called _ _ opens := opens.trans (.of_views rfl)
  moved _ _ _ _ opens := opens.trans (.of_views rfl)

/-- Moving a router opens no view, save for what listeners open. -/
theorem opening_move (discreet : host.Discreet) (router : RouterId) (step : Move) :
    Opening (move host router step) :=
  fun world => sustains_move (untouched_opens world (some router))
    (fun listener event => (discreet listener event).sustains world) rfl step world (.of_views rfl)

/-- Actions and drains open no view, save for what listeners open. -/
theorem operating_opening (discreet : host.Discreet) :
    Operating host fun _ operation => Opening operation where
  toCompositional := Opening.compositional
  get _ := .of_views rfl
  log _ _ := .of_views rfl
  write scope path value world := by
    simp only [after, write_eq]
    exact sustains_callAll (fun _ _ opens => opens.trans (.of_views rfl))
      (fun listener event => (discreet listener event).sustains world) _ _ _
      (.of_views (views_stored world scope path value))
  send _ _ _ _ := .of_views rfl
  take world := by
    cases queue : world.channel.queue with
    | nil =>
      rw [after_of_ok (take_of_nil queue)]
      exact .of_views rfl
    | cons entry rest =>
      rw [after_of_ok (take_of_cons queue)]
      exact .of_views rfl
  apply envelope world := sustains_apply (untouched_opens world envelope.router)
    (fun listener event => (discreet listener event).sustains world) world (.of_views rfl)

end Eff

namespace Session

open Eff World

/-- The invariant of a run. Every view is that of its identifier, and it has appeared exactly when
its action was started, once. -/
structure Counted (visits : List Visit) (world : World H) : Prop where
  named : ∀ {id view}, Keyed.get? world.views id = some view → view.screen.id = id
  started : ∀ id, startsOf visits id =
    if (Keyed.get? world.views id).any View.appeared then 1 else 0

namespace Counted

variable {visits : List Visit} {world next : World H}

theorem of_opens (counted : Counted visits world) (opens : world.Opens next) :
    Counted visits next where
  named found := by
    rcases opens.fresh found with earlier | ⟨_, same⟩
    · exact counted.named earlier
    · exact same
  started id := by
    rw [counted.started id]
    cases before : Keyed.get? world.views id with
    | some view => rw [opens.kept before]
    | none =>
      cases later : Keyed.get? next.views id with
      | none => rfl
      | some view =>
        rcases opens.fresh later with earlier | ⟨unseen, _⟩
        · cases before.symm.trans earlier
        · simp only [Option.any_none, Option.any_some, unseen]

/-- A visit that starts nothing. -/
theorem visit (counted : Counted visits world) (screen : Screen) :
    Counted (visits ++ [⟨screen, none⟩]) (world.opened screen) where
  named := (counted.of_opens (.opened world screen)).named
  started id := by
    rw [startsOf_append, startsOf_quiet, Nat.add_zero]
    exact (counted.of_opens (.opened world screen)).started id

/-- A visit that starts the action of the view, which has not appeared then. -/
theorem start (counted : Counted visits world) {screen : Screen} {node : Value}
    (waiting : (world.viewFor screen).waiting? = some node) :
    Counted (visits ++ [⟨screen, some node⟩])
      ((world.opened screen).latched screen.id (world.viewFor screen)) := by
  have opened := counted.of_opens (.opened world screen)
  have answered := get?_opened_self world screen
  refine ⟨fun {id view} found => ?_, fun id => ?_⟩
  · simp only [latched, Keyed.get?_put] at found
    split at found
    next same =>
      cases found
      exact (opened.named answered).trans same
    · exact opened.named found
  · -- An action waits only in a view that has not appeared, so this start is the first one.
    simp only [startsOf_append, startsOf_start, opened.started id, latched, Keyed.get?_put]
    by_cases same : screen.id = id
    · subst same
      simp only [answered, Option.any_some, (View.waiting?_eq_some waiting).1, ↓reduceIte,
        Bool.false_eq_true]
    · simp only [same, ↓reduceIte, Nat.add_zero]

end Counted

/-- The invariant lasts under every host whose listeners open views at most. -/
theorem lasting_counted {host : Host H} (discreet : host.Discreet) :
    Lasting host (fun _ => True) Counted where
  operating := (operating_opening discreet).sustains
    fun opening _ world counted => counted.of_opens (opening world)
  send _ _ _ _ counted := counted.of_opens (.of_views rfl)
  render _ _ _ counted := counted.of_opens (.of_views rfl)
  preload _ _ _ _ counted := counted.of_opens (.of_views rfl)
  move step _ _ world counted := counted.of_opens (opening_move discreet mainRouter step world)
  current _ _ := trivial
  visit counted _ := counted.visit _
  start counted _ waiting := counted.start waiting

/-- A run of a session: it starts with no view, and goes on by operations, under any hosts whose
listeners open views at most, and by whatever else happens beside the session, such as that somebody
starts to listen or that another router is moved. The visits are kept in order. -/
inductive Run : List Visit → World H → Prop
  | start {world : World H} (fresh : world.views = []) : Run [] world
  | step {visits : List Visit} {world : World H} (run : Run visits world) {host : Host H}
      (discreet : host.Discreet) (operation : Operation) :
      Run (visits ++ operation.visits host world) (after (operation.perform host) world)
  | beside {visits : List Visit} {world next : World H} (run : Run visits world)
      (opens : world.Opens next) : Run visits next

/-- The invariant holds throughout every run. -/
theorem counted_of_run {visits : List Visit} {world : World H} (run : Run visits world) :
    Counted visits world := by
  induction run with
  | start fresh =>
    refine ⟨fun found => ?_, fun id => ?_⟩
    · rw [fresh] at found
      cases found
    · rw [fresh]
      rfl
  | step run discreet operation counted =>
    exact (lasting_counted discreet).perform operation (fun _ _ => trivial) counted
  | beside run opens counted => exact counted.of_opens opens

/-- Showing that succeeds either finds no current screen at last, or renders the view of the screen
that it visited last, at which no action waited. -/
theorem rendered_of_showWithin {host : Host H} (discreet : host.Discreet) (rounds : Nat)
    {world last : World H} {nodes : List Node}
    (shown : showWithin host rounds world = .ok nodes last) :
    (last.current? = none ∧ nodes = []) ∨
      ∃ screen view earlier,
        (visitsWithin host rounds world).getLast? = some ⟨screen, none⟩ ∧
        view.waiting? = none ∧ Keyed.get? earlier.views screen.id = some view ∧
        render view earlier = .ok nodes last := by
  induction rounds generalizing world with
  | zero => cases shown
  | succ rounds ih =>
    rw [showWithin_succ] at shown
    rw [visitsWithin]
    cases current : world.current? with
    | none =>
      rw [current] at shown
      cases shown
      exact .inl ⟨current, rfl⟩
    | some screen =>
      rw [current] at shown
      obtain ⟨⟨view, started⟩, next, ran, shown⟩ := bind_eq_ok_iff.mp shown
      simp only [ran]
      obtain ⟨rfl, ⟨_, _, _, rfl, _, _, _⟩ | ⟨rfl, rested, applied, drained⟩⟩ := showRound_cases ran
      · simp only [↓reduceIte] at shown
        rcases ih shown with blank | ⟨other, view, earlier, visited, rest⟩
        · exact .inl blank
        · refine .inr ⟨other, view, earlier, ?_, rest⟩
          simp only [List.getLast?_cons, visited, Option.getD_some]
      · simp only [Bool.false_eq_true, ↓reduceIte] at shown
        have opens := (operating_opening discreet).drain (world.opened screen)
        rw [after_of_ok drained] at opens
        have found := opens.kept (get?_opened_self world screen)
        refine .inr ⟨screen, world.viewFor screen, next, ?_, rested, found, shown⟩
        rw [rested]
        rfl

/-- Throughout a run the action of every screen identifier is started at most once, where
operations execute what is executed at their visits, and nothing else for the appearance of
screens. And whatever showing the current screen renders at the end of a run, be it with an empty
queue and nobody listening or not, has no action for its appearance or had it started exactly
once. -/
theorem startsOf_run {visits : List Visit} {world : World H} (run : Run visits world) :
    (∀ id, startsOf visits id ≤ 1) ∧
      (∀ (host : Host H) (operation : Operation) (world : World H), operation.perform host world =
        operation.replay host (operation.visits host world) world) ∧
      ∀ (host : Host H), host.Discreet → ∀ (more : Nat) (nodes : List Node) (last : World H),
        showCurrent host more world = .ok nodes last →
        (last.current? = none ∧ nodes = []) ∨
          ∃ screen view earlier,
            (visitsWithin host (showRounds world + more) world).getLast? = some ⟨screen, none⟩ ∧
            Keyed.get? last.views screen.id = some view ∧ view.screen.id = screen.id ∧
            render view earlier = .ok nodes last ∧
            (view.screen.onAppear = .null ∨
              startsOf (visits ++ visitsWithin host (showRounds world + more) world)
                screen.id = 1) := by
  have counted := counted_of_run run
  refine ⟨?_, Operation.perform_eq_replay, ?_⟩
  · intro id
    rw [counted.started id]
    split
    · exact Nat.le_refl 1
    · exact Nat.zero_le 1
  · intro host discreet more nodes last shown
    have ended := (lasting_counted discreet).showWithin (showRounds world + more) counted
    have ran : showWithin host (showRounds world + more) world = .ok nodes last := shown
    rw [after_of_ok ran] at ended
    rcases rendered_of_showWithin discreet _ ran with
      blank | ⟨screen, view, earlier, visited, rested, found, rendered⟩
    · exact .inl blank
    · have still : last.views = earlier.views := by
        cases rendered
        rfl
      rw [← still] at found
      refine .inr ⟨screen, view, earlier, visited, found, ended.named found, rendered, ?_⟩
      rcases View.waiting?_eq_none rested with none | seen
      · exact .inl none
      · right
        rw [ended.started, found, Option.any_some, if_pos seen]

/-- A host whose listeners fail when they are told of a write to `x`. -/
private def touchy : Host Unit where
  react _ event := if event = .wrote "x" then throw .listenerFailed else pure ()
  presenter := .logging

/-- A form that writes to `x` when it appears. -/
private def form : Screen :=
  ⟨"form", [], none, .mapping [("set", .mapping [("var", .text "x"), ("value", .int 1)])]⟩

/-- A session on the form, with somebody who listens. -/
private def watched : World Unit :=
  after (subscribe Scopes.main "log") (start [form] default Registry.standard ())

/-- The form after it was shown, which fails while the action for its appearance is executed. -/
private def broken : World Unit :=
  after ((Operation.showCurrent 0).perform touchy) watched

private theorem touchy_discreet : touchy.Discreet := by
  intro listener event world
  simp only [touchy]
  split <;> exact .of_views rfl

/-- The action that failed is not started again when the form is shown later. -/
theorem startsOf_run_broken :
    ∃ visits last, Run visits broken ∧ startsOf visits "form" = 1 ∧
      broken.data Scopes.main = [("x", .int 1)] ∧ showCurrent .calm 0 broken = .ok [] last ∧
      startsOf (visits ++ visitsWithin .calm (showRounds broken + 0) broken) "form" = 1 := by
  have run : Run ([] ++ (Operation.showCurrent 0).visits touchy watched) broken :=
    .step (.beside (.start rfl) (.of_views rfl)) touchy_discreet (.showCurrent 0)
  have calm : (Host.calm : Host Unit).Discreet := fun _ _ _ => .of_views rfl
  let last := after (showCurrent .calm 0) broken
  have shown : showCurrent .calm 0 broken = .ok [] last := rfl
  refine ⟨_, last, run, rfl, rfl, shown, ?_⟩
  rcases (startsOf_run run).2.2 .calm calm 0 [] last shown with
    ⟨blank, _⟩ | ⟨screen, view, earlier, visited, found, _, _, none | once⟩
  · cases blank
  · cases visited
    cases found
    cases none
  · cases visited
    exact once

end Session

end ScreenScript
