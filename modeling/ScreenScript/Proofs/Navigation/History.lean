import Mathlib.Data.List.Induction
import ScreenScript.Proofs.Navigation.Stacks

/-! # The navigation stack tells its history

A router is moved by its host, by the commands of a channel, and by listeners that are called
meanwhile. All that is done to it is one history of operations, and `Traced` says what the
navigation stack tells of it. A screen on the stack was cached under its identifier when it got
there. Only a reset empties the stack or changes its root. Above the root stand the screens that
were navigated to since, without those that were left again: a screen was left if, some time behind
the operation that navigated to it, going back succeeded more often than navigating did.
-/

namespace ScreenScript

variable {H : Type}

namespace Router

def Operation.isReset : Operation → Bool
  | .move (.reset _) => true
  | _ => false

/-- The screen that an operation navigates to. -/
def navigated? (router : Router) : Operation → Option Screen
  | .move (.navigate asked) => router.screen? asked
  | _ => none

/-- What an operation adds to the navigation stack if it succeeds. A reset is not counted. -/
def Operation.weight : Operation → Int
  | .move (.navigate _) => 1
  | .move .goBack => -1
  | _ => 0

/-- What an operation adds to the navigation stack. -/
def gain (router : Router) (operation : Operation) : Int :=
  if router.answer operation = some true then operation.weight else 0

/-- By how much more often operations navigate than they go back, counting those that succeed. -/
def balance (router : Router) : List Operation → Int
  | [] => 0
  | operation :: rest => router.gain operation + (router.next operation).balance rest

/-- Whether the operation right before is undone by the given ones: at some moment they have gone
back more often than navigated. -/
def undone (router : Router) (later : List Operation) : Bool :=
  (List.range (later.length + 1)).any fun moment => router.balance (later.take moment) < 0

/-- The screens that operations navigate to and that none of them undoes, in order. -/
def standing (router : Router) : List Operation → List Screen
  | [] => []
  | operation :: rest =>
    ((router.navigated? operation).filter fun _ => !(router.next operation).undone rest).toList ++
      (router.next operation).standing rest

/-- An operation makes a screen the root of a router: a reset to it, or the first navigation on an
empty stack. -/
inductive Founds (router : Router) : Operation → Screen → Prop
  | reset {asked : Value} {root : Screen} (cached : router.screen? asked = some root) :
      Founds router (.move (.reset asked)) root
  | navigate {asked : Value} {root : Screen} (empty : router.stack = [])
      (cached : router.screen? asked = some root) : Founds router (.move (.navigate asked)) root

/-- What the navigation stack tells of a history from a new router on. -/
structure Traced (history : List Operation) : Prop where
  /-- Each screen on the stack was cached under its identifier when it got there, and something is
  cached under it still. -/
  cached : ∀ above screen below, (empty.play history).stack = above ++ screen :: below →
    ∃ early operation late, history = early ++ operation :: late ∧
      (operation = .move (.navigate (.text screen.id)) ∨
        operation = .move (.reset (.text screen.id))) ∧
      (empty.play early).screen? (.text screen.id) = some screen ∧
      ((empty.play early).next operation).stack = screen :: below ∧
      ((empty.play history).screen? (.text screen.id)).isSome
  /-- Only a reset to a screen that is not cached empties the stack. -/
  emptied : ∀ early operation late, history = early ++ operation :: late →
    (empty.play early).stack ≠ [] → ((empty.play early).next operation).stack = [] →
    ∃ asked, operation = .move (.reset asked) ∧ (empty.play early).screen? asked = none
  /-- Without a reset the root stays. -/
  rooted : ∀ early between late, history = early ++ (between ++ late) →
    (∀ operation ∈ between, operation.isReset = false) → (empty.play early).stack ≠ [] →
    (empty.play (early ++ between)).stack.getLast? = (empty.play early).stack.getLast?
  /-- The stack is its root with what was navigated to since and not undone, from the bottom up. -/
  grown : (empty.play history).stack ≠ [] →
    ∃ early founder root since, history = early ++ founder :: since ∧
      Founds (empty.play early) founder root ∧
      (∀ operation ∈ since, operation.isReset = false) ∧
      (empty.play history).stack.reverse =
        root :: ((empty.play early).next founder).standing since

/-- What an operation makes of the navigation stack. -/
inductive Restacked (router : Router) : Operation → List Screen → Prop
  | pushed {asked : Value} {screen : Screen} (cached : router.screen? asked = some screen) :
      Restacked router (.move (.navigate asked)) (screen :: router.stack)
  | popped {top below : Screen} {rest : List Screen} (stack : router.stack = top :: below :: rest) :
      Restacked router (.move .goBack) (below :: rest)
  | reset (asked : Value) :
      Restacked router (.move (.reset asked)) (router.screen? asked).toList
  | kept {operation : Operation} (apart : operation.isReset = false)
      (unmoved : router.navigated? operation = none) (even : router.gain operation = 0) :
      Restacked router operation router.stack

theorem restacked_next (router : Router) (operation : Operation) :
    Restacked router operation (router.next operation).stack := by
  cases operation with
  | preload screens => exact .kept rfl rfl rfl
  | listen listener => exact .kept rfl rfl rfl
  | unlisten listener => exact .kept rfl rfl rfl
  | move step =>
    have aside (modal : step.layer = .modals) :
        Restacked router (.move step) (router.next (.move step)).stack := by
      have differ : step.layer ≠ .navigation := by
        rw [modal]
        decide
      have same : (router.next (.move step)).stack = router.stack := (Alike.skip differ).pile
      rw [same]
      cases step <;> first | contradiction | exact .kept rfl rfl (ite_self 0)
    cases step with
    | navigate asked =>
      cases cached : router.screen? asked with
      | none =>
        have same : router.next (.move (.navigate asked)) = router := by
          simp [next, move?, cached]
        rw [same]
        exact .kept rfl cached (by simp [gain, answer, Move.report, succeeds, move?, cached])
      | some screen =>
        have same : (router.next (.move (.navigate asked))).stack = screen :: router.stack := by
          simp [next, move?, cached]
        rw [same]
        exact .pushed cached
    | goBack =>
      obtain ⟨cache, - | ⟨top, - | ⟨below, rest⟩⟩, modals, listeners⟩ := router
      · exact .kept rfl rfl rfl
      · exact .kept rfl rfl rfl
      · exact .popped rfl
    | reset asked => exact .reset asked
    | _ => exact aside rfl

/-- The height of the stack is kept account of, as long as there is no reset. -/
theorem length_next (router : Router) {operation : Operation} (apart : operation.isReset = false) :
    ((router.next operation).stack.length : Int) =
      router.stack.length + router.gain operation := by
  have restacked := router.restacked_next operation
  generalize (router.next operation).stack = stack at restacked
  cases restacked with
  | @pushed asked screen cached =>
    have gained : router.gain (.move (.navigate asked)) = 1 := by
      simp [gain, answer, Move.report, succeeds, move?, cached, Operation.weight]
    rw [gained]
    rfl
  | popped stack =>
    have gained : router.gain (.move .goBack) = -1 := by
      simp [gain, answer, Move.report, succeeds, move?, stack, Operation.weight]
    rw [gained, stack]
    simp only [List.length_cons]
    omega
  | reset asked => cases apart
  | kept _ _ even => simp [even]

section

variable {router : Router} {operation : Operation} {operations : List Operation}

/-- Without a reset a stack that is not empty does not become empty. -/
theorem stack_next_ne_nil (apart : operation.isReset = false) (filled : router.stack ≠ []) :
    (router.next operation).stack ≠ [] := by
  have restacked := router.restacked_next operation
  generalize (router.next operation).stack = stack at restacked
  cases restacked with
  | pushed _ => exact List.cons_ne_nil _ _
  | popped _ => exact List.cons_ne_nil _ _
  | reset asked => cases apart
  | kept => exact filled

/-- Without a reset the root stays. -/
theorem getLast?_next (apart : operation.isReset = false) (filled : router.stack ≠ []) :
    (router.next operation).stack.getLast? = router.stack.getLast? := by
  have restacked := router.restacked_next operation
  generalize (router.next operation).stack = stack at restacked
  cases restacked with
  | pushed _ => exact List.getLast?_cons_of_ne_nil filled
  | popped same => simp [same]
  | reset asked => cases apart
  | kept => rfl

theorem getLast?_play (apart : ∀ operation ∈ operations, operation.isReset = false)
    (filled : router.stack ≠ []) :
    (router.play operations).stack.getLast? = router.stack.getLast? := by
  induction operations generalizing router with
  | nil => rfl
  | cons operation rest ih =>
    obtain ⟨first, later⟩ := List.forall_mem_cons.mp apart
    exact (ih later (stack_next_ne_nil first filled)).trans (getLast?_next first filled)

theorem length_play (router : Router)
    (apart : ∀ operation ∈ operations, operation.isReset = false) :
    ((router.play operations).stack.length : Int) =
      router.stack.length + router.balance operations := by
  induction operations generalizing router with
  | nil => exact (Int.add_zero _).symm
  | cons operation rest ih =>
    obtain ⟨first, later⟩ := List.forall_mem_cons.mp apart
    rw [play_cons, ih _ later, length_next router first, balance]
    omega

/-- The lowest height of the stack during operations. -/
def low (router : Router) : List Operation → Nat
  | [] => router.stack.length
  | operation :: rest => min router.stack.length ((router.next operation).low rest)

theorem low_le (router : Router) (operations : List Operation) :
    router.low operations ≤ router.stack.length := by
  cases operations with
  | nil => exact Nat.le_refl _
  | cons operation rest => exact Nat.min_le_left _ _

theorem low_lt_iff {height : Nat} :
    router.low operations < height ↔
      ∃ moment ≤ operations.length,
        (router.play (operations.take moment)).stack.length < height := by
  induction operations generalizing router with
  | nil => simp [low]
  | cons operation rest ih =>
    have split : router.low (operation :: rest) < height ↔
        router.stack.length < height ∨ (router.next operation).low rest < height := by
      rw [low]
      omega
    rw [split, ih]
    constructor
    · rintro (now | ⟨moment, within, later⟩)
      · exact ⟨0, Nat.zero_le _, now⟩
      · exact ⟨moment + 1, Nat.succ_le_succ within, later⟩
    · rintro ⟨- | moment, within, lower⟩
      · exact .inl lower
      · exact .inr ⟨moment, Nat.le_of_succ_le_succ within, lower⟩

/-- What was navigated to is undone when the stack gets lower than it was then. -/
theorem undone_iff (router : Router) (apart : ∀ operation ∈ operations, operation.isReset = false) :
    router.undone operations = true ↔ router.low operations < router.stack.length := by
  have resets (moment : Nat) :
      ∀ operation ∈ operations.take moment, operation.isReset = false :=
    fun operation member => apart operation (List.mem_of_mem_take member)
  rw [low_lt_iff, undone, List.any_eq_true]
  constructor
  · rintro ⟨moment, within, lower⟩
    have height := length_play router (resets moment)
    have negative := of_decide_eq_true lower
    exact ⟨moment, Nat.le_of_lt_succ (List.mem_range.mp within), by omega⟩
  · rintro ⟨moment, within, lower⟩
    have height := length_play router (resets moment)
    exact ⟨moment, List.mem_range.mpr (Nat.lt_succ_of_le within), decide_eq_true (by omega)⟩

/-- What is left of the stack lies below the lowest height, and above it stands what was navigated
to and not undone. -/
theorem reverse_play (apart : ∀ operation ∈ operations, operation.isReset = false) :
    (router.play operations).stack.reverse =
      router.stack.reverse.take (router.low operations) ++ router.standing operations := by
  induction operations generalizing router with
  | nil =>
    rw [low, standing, List.append_nil, List.take_of_length_le (by simp)]
    rfl
  | cons operation rest ih =>
    obtain ⟨first, later⟩ := List.forall_mem_cons.mp apart
    have bound := (router.next operation).low_le rest
    have undone := undone_iff (router.next operation) later
    have restacked := router.restacked_next operation
    rw [play_cons, ih later, low, standing]
    generalize height : (router.next operation).low rest = lowest at bound undone ⊢
    generalize same : (router.next operation).stack = stack at bound undone restacked ⊢
    cases restacked with
    | @pushed asked screen cached =>
      have navigated : router.navigated? (.move (.navigate asked)) = some screen := cached
      rw [navigated, List.reverse_cons]
      by_cases left : lowest < (screen :: router.stack).length
      · have below : lowest ≤ router.stack.length := Nat.le_of_lt_succ left
        rw [Option.filter_some, undone.mpr left, Nat.min_eq_right below,
          List.take_append_of_le_length (by simpa)]
        rfl
      · have stays : (router.next (.move (.navigate asked))).undone rest = false :=
          Bool.eq_false_iff.mpr (left ∘ undone.mp)
        have above : router.stack.length + 1 ≤ lowest := Nat.le_of_not_lt left
        rw [Option.filter_some, stays, Nat.min_eq_left (Nat.le_of_succ_le above),
          List.take_of_length_le (by simpa), List.take_of_length_le (by simp),
          List.append_assoc]
        rfl
    | @popped top below others stack =>
      have within : lowest ≤ router.stack.length := by
        rw [stack]
        exact Nat.le_succ_of_le bound
      rw [Nat.min_eq_right within, stack, List.reverse_cons (a := top),
        List.take_append_of_le_length (by simpa using bound)]
      rfl
    | reset asked => cases first
    | kept _ unmoved _ =>
      rw [unmoved, Nat.min_eq_right bound]
      rfl

theorem low_pos (apart : ∀ operation ∈ operations, operation.isReset = false)
    (filled : router.stack ≠ []) : 0 < router.low operations := by
  refine Nat.pos_of_ne_zero fun flat => ?_
  obtain ⟨moment, _, lower⟩ := low_lt_iff.mp (flat ▸ Nat.one_pos : router.low operations < 1)
  have resets : ∀ operation ∈ operations.take moment, operation.isReset = false :=
    fun operation member => apart operation (List.mem_of_mem_take member)
  have root := getLast?_play resets filled
  rw [List.eq_nil_of_length_eq_zero (Nat.lt_one_iff.mp lower)] at root
  exact filled (List.getLast?_eq_none_iff.mp root.symm)

theorem Founds.stack_next {root : Screen} (founds : Founds router operation root) :
    (router.next operation).stack = [root] := by
  cases founds with
  | reset cached => simp [next, move?, cached]
  | navigate empty cached => simp [next, move?, cached, empty]

/-- What holds of every cache into which screens are put holds of the cache of a router. -/
theorem cache_play (holds : List (String × Screen) → Prop)
    (put : ∀ cache screen, holds cache → holds (Keyed.put cache screen.id screen))
    (start : holds router.cache) (operations : List Operation) :
    holds (router.play operations).cache := by
  induction operations generalizing router with
  | nil => exact start
  | cons operation rest ih =>
    refine ih ?_
    cases operation with
    | preload screens =>
      have filled (cache : List (String × Screen)) (there : holds cache) :
          holds (screens.foldl (fun cache screen => Keyed.put cache screen.id screen) cache) := by
        induction screens generalizing cache with
        | nil => exact there
        | cons screen rest ih => exact ih _ (put cache screen there)
      exact filled router.cache start
    | move step =>
      rw [next]
      cases accepted : router.move? step with
      | none => exact start
      | some after => exact (move?_keeps accepted).1 ▸ start
    | listen listener => exact start
    | unlisten listener => exact start

/-- A screen is cached under its own identifier, so this is what it is asked for by. -/
theorem eq_text_of_screen? {asked : Value} {screen : Screen}
    (cached : (empty.play operations).screen? asked = some screen) : asked = .text screen.id := by
  have named : ∀ name screen,
      Keyed.get? (empty.play operations).cache name = some screen → screen.id = name := by
    refine cache_play (fun cache =>
      ∀ name screen, Keyed.get? cache name = some screen → screen.id = name) ?_ ?_ operations
    · intro cache screen named name found get
      rw [Keyed.get?_put] at get
      split at get
      next same =>
        cases get
        exact same
      · exact named name found get
    · intro name screen found
      cases found
  cases asked with
  | text name => rw [named name screen cached]
  | _ => cases cached

/-- What is cached under an identifier may be replaced, but something stays there. -/
theorem screen?_play_isSome {name : String} (cached : (router.screen? (.text name)).isSome)
    (operations : List Operation) : ((router.play operations).screen? (.text name)).isSome := by
  refine cache_play (fun cache => (Keyed.get? cache name).isSome) ?_ cached operations
  intro cache screen there
  rw [Keyed.get?_put]
  split
  · rfl
  · exact there

end

theorem play_concat (router : Router) (history : List Operation) (operation : Operation) :
    router.play (history ++ [operation]) = (router.play history).next operation :=
  play_append ..

/-- At some moment of a history a screen that was cached under its identifier got on top of the
stack, by navigating to it or by a reset. -/
def Pushed (history : List Operation) (screen : Screen) (below : List Screen) : Prop :=
  ∃ early operation late, history = early ++ operation :: late ∧
    (operation = .move (.navigate (.text screen.id)) ∨
      operation = .move (.reset (.text screen.id))) ∧
    (empty.play early).screen? (.text screen.id) = some screen ∧
    ((empty.play early).next operation).stack = screen :: below

/-- At some moment of a history a screen was made the root, and there was no reset since. -/
def Founded (history : List Operation) : Prop :=
  ∃ early founder root since, history = early ++ founder :: since ∧
    Founds (empty.play early) founder root ∧
    ∀ operation ∈ since, operation.isReset = false

section

variable {history : List Operation} {operation : Operation} {above below : List Screen}
  {screen : Screen}

theorem Pushed.concat (pushed : Pushed history screen below) (operation : Operation) :
    Pushed (history ++ [operation]) screen below := by
  obtain ⟨early, pushing, late, rfl, pushed⟩ := pushed
  exact ⟨early, pushing, late ++ [operation], by simp, pushed⟩

theorem Founded.concat (founded : Founded history) (apart : operation.isReset = false) :
    Founded (history ++ [operation]) := by
  obtain ⟨early, founder, root, since, rfl, founds, resets⟩ := founded
  refine ⟨early, founder, root, since ++ [operation], by simp, founds, ?_⟩
  exact List.forall_mem_append.mpr ⟨resets, List.forall_mem_singleton.mpr apart⟩

/-- A screen on the stack was pushed onto what is below it. -/
theorem pushed_of_stack (stack : (empty.play history).stack = above ++ screen :: below) :
    Pushed history screen below := by
  induction history using List.reverseRecOn generalizing above with
  | nil => cases (List.append_eq_nil_iff.mp stack.symm).2
  | append_singleton history operation ih =>
    rw [play_concat] at stack
    have restacked := (empty.play history).restacked_next operation
    generalize same : ((empty.play history).next operation).stack = last at stack restacked
    -- Unless the last operation has pushed the screen, it was there before.
    cases restacked with
    | pushed cached =>
      cases above with
      | nil =>
        cases stack
        obtain rfl := eq_text_of_screen? cached
        exact ⟨history, _, [], rfl, .inl rfl, cached, same⟩
      | cons top above => exact (ih (List.cons.inj stack).2).concat _
    | @popped top _ _ before =>
      have there : (empty.play history).stack = (top :: above) ++ screen :: below := by
        rw [before, stack]
        rfl
      exact (ih there).concat _
    | reset asked =>
      cases cached : (empty.play history).screen? asked with
      | none =>
        rw [cached] at stack
        cases (List.append_eq_nil_iff.mp stack.symm).2
      | some root =>
        rw [cached] at stack same
        cases above with
        | nil =>
          cases stack
          obtain rfl := eq_text_of_screen? cached
          exact ⟨history, _, [], rfl, .inr rfl, cached, same⟩
        | cons top above => cases (List.append_eq_nil_iff.mp (List.cons.inj stack).2.symm).2
    | kept => exact (ih stack).concat operation

/-- A stack that is not empty was founded. -/
theorem founded_of_stack (filled : (empty.play history).stack ≠ []) : Founded history := by
  induction history using List.reverseRecOn with
  | nil => exact absurd rfl filled
  | append_singleton history operation ih =>
    rw [play_concat] at filled
    have restacked := (empty.play history).restacked_next operation
    generalize ((empty.play history).next operation).stack = last at filled restacked
    cases restacked with
    | @pushed asked root cached =>
      by_cases first : (empty.play history).stack = []
      · exact ⟨history, _, root, [], rfl, .navigate first cached, List.forall_mem_nil _⟩
      · exact (ih first).concat rfl
    | popped before =>
      have there : (empty.play history).stack ≠ [] := by
        rw [before]
        exact List.cons_ne_nil _ _
      exact (ih there).concat rfl
    | reset asked =>
      cases cached : (empty.play history).screen? asked with
      | none => exact absurd (by rw [cached]; rfl) filled
      | some root => exact ⟨history, _, root, [], rfl, .reset cached, List.forall_mem_nil _⟩
    | kept apart _ _ => exact (ih filled).concat apart

end

/-- Every history is told by the stack. -/
theorem traced (history : List Operation) : Traced history where
  cached above screen below stack := by
    obtain ⟨early, operation, late, rfl, asked, cached, pushed⟩ := pushed_of_stack stack
    refine ⟨early, operation, late, rfl, asked, cached, pushed, ?_⟩
    rw [play_append]
    exact screen?_play_isSome (by rw [cached]; rfl) _
  emptied early operation late _ filled emptied := by
    have restacked := (empty.play early).restacked_next operation
    generalize ((empty.play early).next operation).stack = last at emptied restacked
    cases restacked with
    | pushed _ => cases emptied
    | popped _ => cases emptied
    | reset asked => exact ⟨asked, rfl, Option.toList_eq_nil_iff.mp emptied⟩
    | kept => exact absurd emptied filled
  rooted early between late _ apart filled := by
    rw [play_append]
    exact getLast?_play apart filled
  grown filled := by
    obtain ⟨early, founder, root, since, rfl, founds, apart⟩ := founded_of_stack filled
    refine ⟨early, founder, root, since, rfl, founds, apart, ?_⟩
    have founded := founds.stack_next
    have kept := low_pos apart (by rw [founded]; exact List.cons_ne_nil _ _)
    have all : [root].reverse.length ≤ ((empty.play early).next founder).low since := kept
    rw [play_append, play_cons, reverse_play apart, founded, List.take_of_length_le all]
    rfl

end Router

namespace World

/-- From one world to another a router was moved as was asked, and by operations of a kind that came
in between. -/
def Woven (id : RouterId) (allowed : Router.Operation → Prop) (world : World H)
    (asked : List Router.Operation) (last : World H) : Prop :=
  ∃ told history, (∀ operation ∈ told, allowed operation) ∧ Interleaves asked told history ∧
    last.routers id = (world.routers id).play history

namespace Woven

variable {id : RouterId} {allowed : Router.Operation → Prop} {world middle last : World H}
  {asked early late : List Router.Operation}

theorem of_dealt (dealt : Dealt id allowed ((world.routers id).play asked) last) :
    Woven id allowed world asked last := by
  obtain ⟨told, all, played⟩ := dealt
  refine ⟨told, asked ++ told, all, ?_, by rw [played, Router.play_append]⟩
  have woven := (Interleaves.of_left asked).append (Interleaves.of_left told).symm
  rw [List.append_nil, List.nil_append] at woven
  exact woven

theorem of_same (same : last.routers id = world.routers id) : Woven id allowed world [] last :=
  of_dealt ⟨[], List.forall_mem_nil _, same⟩

theorem append (first : Woven id allowed world early middle)
    (second : Woven id allowed middle late last) :
    Woven id allowed world (early ++ late) last := by
  obtain ⟨told, history, all, woven, played⟩ := first
  obtain ⟨told', history', all', woven', played'⟩ := second
  refine ⟨told ++ told', history ++ history', List.forall_mem_append.mpr ⟨all, all'⟩,
    woven.append woven', ?_⟩
  rw [played', played, Router.play_append]

end Woven

end World

namespace Channel

open World

/-- What happens on a channel moves a router as the commands ask that are handed over. -/
theorem Passage.woven {host : Host H} {id : RouterId} {allowed : Router.Operation → Prop}
    (deals : host.Deals id allowed) {policy : Policy} {world last : World H} {deeds : List Deed}
    {outcome : Option Failure} (passage : Passage host policy world deeds outcome last) :
    Woven id allowed world ((handed deeds).flatMap (Envelope.asks id)) last := by
  have applied (envelope : Envelope) (world : World H) :
      Woven id allowed world (envelope.asks id) (Eff.after (Eff.apply host envelope) world) :=
    .of_dealt (Eff.dealt_apply deals envelope world)
  induction passage with
  | rest world => exact .of_same rfl
  | refused world failure => exact .of_same rfl
  | enter entry _ ih => exact ih
  | take next _ ih => exact ih
  | aside _ same ih => exact ih
  | @hand world middle last deeds outcome envelope handled _ ih =>
    have first := applied envelope world
    rw [Eff.after_of_ok handled] at first
    exact first.append ih
  | @abort world last envelope failure _ failed =>
    have first := applied envelope world
    rw [Eff.after_of_error failed] at first
    exact first.append (.of_same rfl)
  | @survive world middle last deeds outcome envelope failure _ failed _ ih =>
    have first := applied envelope world
    rw [Eff.after_of_error failed] at first
    exact first.append ih

end Channel

/-- Something that is done where there is a router, each time under a host of its own. -/
inductive Occasion (H : Type) where
  /-- The host carries out an operation on the router. -/
  | direct (host : Host H) (operation : Router.Operation)
  /-- The channel is used, on which commands may be for the router. -/
  | channel (use : Channel.Use H)

namespace Occasion

def host : Occasion H → Host H
  | .direct host _ => host
  | .channel use => use.host

/-- The world after an occasion. -/
def outcome (id : RouterId) (world : World H) : Occasion H → World H
  | .direct host operation => Eff.after (Eff.operate host id operation) world
  | .channel use => use.outcome world

/-- What is asked of a router on occasions, in order: the operations of the host, and those of the
commands that a consumer hands over. -/
inductive Chronicle (id : RouterId) : World H → List (Occasion H) → List Router.Operation → Prop
  | none (world : World H) : Chronicle id world [] []
  | direct {world : World H} {host : Host H} {operation : Router.Operation}
      {rest : List (Occasion H)} {asked : List Router.Operation}
      (later : Chronicle id (outcome id world (.direct host operation)) rest asked) :
      Chronicle id world (.direct host operation :: rest) (operation :: asked)
  | channel {world : World H} {use : Channel.Use H} {rest : List (Occasion H)}
      {deeds : List Channel.Deed} {asked : List Router.Operation}
      (account : Channel.Account use.host use.operation.policy
        (use.operation.perform use.host) world deeds)
      (later : Chronicle id (outcome id world (.channel use)) rest asked) :
      Chronicle id world (.channel use :: rest)
        ((Channel.handed deeds).flatMap (Envelope.asks id) ++ asked)

theorem exists_chronicle (id : RouterId) (occasions : List (Occasion H)) (world : World H) :
    ∃ asked, Chronicle id world occasions asked := by
  induction occasions generalizing world with
  | nil => exact ⟨[], .none world⟩
  | cons occasion rest ih =>
    obtain ⟨asked, later⟩ := ih (occasion.outcome id world)
    cases occasion with
    | direct host operation => exact ⟨operation :: asked, .direct later⟩
    | channel use =>
      obtain ⟨deeds, account, _⟩ := use.operation.exists_account use.host world
      exact ⟨_, .channel account later⟩

theorem Chronicle.woven {id : RouterId} {allowed : Router.Operation → Prop} {world : World H}
    {occasions : List (Occasion H)} {asked : List Router.Operation}
    (chronicle : Chronicle id world occasions asked)
    (deals : ∀ occasion ∈ occasions, occasion.host.Deals id allowed) :
    World.Woven id allowed world asked (occasions.foldl (outcome id) world) := by
  induction chronicle with
  | none world => exact .of_same rfl
  | @direct world host operation rest asked _ ih =>
    obtain ⟨first, later⟩ := List.forall_mem_cons.mp deals
    have now : World.Woven id allowed world [operation]
        (outcome id world (.direct host operation)) :=
      .of_dealt (Eff.dealt_operate first operation world)
    exact now.append (ih later)
  | @channel world use rest deeds asked account _ ih =>
    obtain ⟨first, later⟩ := List.forall_mem_cons.mp deals
    exact (account.passage.woven first).append (ih later)

/-- Whatever is done to a new router, by its host, by the commands of a channel, and by listeners
that come in between, is one history: it has what was asked, in order, and the operations of the
listeners. At every moment of it the navigation stack tells what has happened so far. -/
theorem traced_of_occasions {id : RouterId} {allowed : Router.Operation → Prop}
    (occasions : List (Occasion H))
    (deals : ∀ occasion ∈ occasions, occasion.host.Deals id allowed) (world : World H)
    (new : world.routers id = .empty) :
    ∃ asked told history, Chronicle id world occasions asked ∧
      (∀ operation ∈ told, allowed operation) ∧ Interleaves asked told history ∧
      (occasions.foldl (outcome id) world).routers id = Router.empty.play history ∧
      ∀ past future, history = past ++ future → Router.Traced past := by
  obtain ⟨asked, chronicle⟩ := exists_chronicle id occasions world
  obtain ⟨told, history, all, woven, played⟩ := chronicle.woven deals
  rw [new] at played
  exact ⟨asked, told, history, chronicle, all, woven, played, fun past _ _ => Router.traced past⟩

private def leaf (id : String) : Screen :=
  ⟨id, [], none, .null⟩

/-- A host whose listeners fetch one more screen when they are told that `b` is shown. -/
private def fetching : Host Unit :=
  ⟨fun _ event =>
    if event = .moved (some "b") then Eff.preload World.mainRouter [leaf "c"] else pure (),
    .logging⟩

private theorem deals_fetching :
    fetching.Deals World.mainRouter (· = .preload [leaf "c"]) := by
  intro listener event base world dealt
  obtain ⟨told, all, played⟩ := dealt
  simp only [fetching]
  split
  · refine ⟨told ++ [.preload [leaf "c"]], ?_, ?_⟩
    · exact List.forall_mem_append.mpr ⟨all, List.forall_mem_singleton.mpr rfl⟩
    · rw [Router.play_concat, ← played]
      rfl
  · exact ⟨told, all, played⟩

/-- Two screens are navigated to through the channel, the second is left again, and the one that the
listener has fetched meanwhile is navigated to directly. -/
private def browsing : List (Occasion Unit) :=
  [.direct fetching (.listen "log"), .direct fetching (.preload [leaf "a", leaf "b"]),
    .channel ⟨fetching, .send (.navigate "a") (some World.mainRouter)⟩,
    .channel ⟨fetching, .send (.navigate "b") (some World.mainRouter)⟩,
    .channel ⟨fetching, .drain⟩, .direct fetching (.move .goBack),
    .direct fetching (.move (.navigate (.text "c")))]

/-- The screen that was left does not stand above the root, but the one that was fetched does. -/
theorem traced_of_occasions_browsing :
    let last := browsing.foldl (outcome World.mainRouter) (.initial [] "Alerta" [] ())
    (last.routers World.mainRouter).stack = [leaf "c", leaf "a"] ∧
      ∃ asked told history early founder since,
        Chronicle World.mainRouter (.initial [] "Alerta" [] ()) browsing asked ∧
          (∀ operation ∈ told, operation = .preload [leaf "c"]) ∧ Interleaves asked told history ∧
          last.routers World.mainRouter = Router.empty.play history ∧
          history = early ++ founder :: since ∧
          Router.Founds (Router.empty.play early) founder (leaf "a") ∧
          ((Router.empty.play early).next founder).standing since = [leaf "c"] := by
  intro last
  have stack : (last.routers World.mainRouter).stack = [leaf "c", leaf "a"] := rfl
  have deals : ∀ occasion ∈ browsing,
      occasion.host.Deals World.mainRouter (· = .preload [leaf "c"]) := by
    simp only [browsing, List.forall_mem_cons, host]
    exact ⟨deals_fetching, deals_fetching, deals_fetching, deals_fetching, deals_fetching,
      deals_fetching, deals_fetching, List.forall_mem_nil _⟩
  obtain ⟨asked, told, history, chronicle, all, woven, played, traced⟩ :=
    traced_of_occasions browsing deals (.initial [] "Alerta" [] ()) rfl
  have shown := (congrArg Router.stack played).symm.trans stack
  have filled : (Router.empty.play history).stack ≠ [] := by
    rw [shown]
    exact List.cons_ne_nil _ _
  obtain ⟨early, founder, root, since, split, founds, -, grown⟩ :=
    (traced history [] (List.append_nil _).symm).grown filled
  rw [shown] at grown
  obtain ⟨rfl, above⟩ := List.cons.inj grown
  exact ⟨stack, asked, told, history, early, founder, since, chronicle, all, woven, played, split,
    founds, above.symm⟩

end Occasion

end ScreenScript
