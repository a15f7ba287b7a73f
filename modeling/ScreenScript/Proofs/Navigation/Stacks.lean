import ScreenScript.Proofs.Navigation.Operation

/-! # The two stacks of a router do not depend on each other

Every move belongs to one of the two stacks, and filling a router or listening to it belongs to
neither. Whether a move of a stack succeeds and what it makes of the stack is determined by the
cache and by that stack alone, and it changes neither the cache nor the other stack. So a run of
operations does to a stack what is left of the run does to it once the moves of the other stack are
dropped, and the moves that are left answer the same.
-/

namespace ScreenScript

variable {H : Type}

/-- One of the two stacks of a router. -/
inductive Layer where
  | navigation
  | modals
deriving DecidableEq

def Router.pile (router : Router) : Layer → List Screen
  | .navigation => router.stack
  | .modals => router.modals

def Move.layer : Move → Layer
  | .navigate _ | .goBack | .reset _ => .navigation
  | .presentModal _ | .push _ | .dismissModal => .modals

namespace Router

def Operation.layer? : Operation → Option Layer
  | .move step => some step.layer
  | _ => none

/-- Whether an operation is anything but a move of the other stack. -/
def Operation.concerns (layer : Layer) (operation : Operation) : Bool :=
  operation.layer?.all (· = layer)

/-- Two routers with the same screens to show have the same on one of their stacks. -/
structure Alike (layer : Layer) (router other : Router) : Prop where
  cache : router.cache = other.cache
  pile : router.pile layer = other.pile layer

namespace Alike

variable {layer : Layer} {router other last : Router}

theorem refl (layer : Layer) (router : Router) : Alike layer router router :=
  ⟨rfl, rfl⟩

theorem trans (first : Alike layer router other) (second : Alike layer other last) :
    Alike layer router last :=
  ⟨first.cache.trans second.cache, first.pile.trans second.pile⟩

theorem symm (alike : Alike layer router other) : Alike layer other router :=
  ⟨alike.cache.symm, alike.pile.symm⟩

/-- A move of the other stack is not seen on this one. -/
theorem skip {step : Move} (differ : step.layer ≠ layer) :
    Alike layer (router.next (.move step)) router := by
  rw [next]
  cases accepted : router.move? step with
  | none => exact refl layer router
  | some after =>
    refine ⟨(move?_keeps accepted).1, ?_⟩
    unfold move? at accepted
    split at accepted
    case h_1 | h_4 =>
      obtain ⟨screen, _, rfl⟩ := Option.map_eq_some_iff.mp accepted
      cases layer <;> first | rfl | exact absurd rfl differ
    case h_2 | h_6 =>
      split at accepted
      · cases accepted
        cases layer <;> first | rfl | exact absurd rfl differ
      · cases accepted
    case h_3 | h_5 =>
      cases accepted
      cases layer <;> first | rfl | exact absurd rfl differ

/-- What a move of a stack makes of it, and what it answers, is determined by the cache and the
stack. -/
theorem move {step : Move} (alike : Alike step.layer router other) :
    Alike step.layer (router.next (.move step)) (other.next (.move step)) ∧
      router.answer (.move step) = other.answer (.move step) := by
  obtain ⟨cache, stack, modals, listeners⟩ := router
  obtain ⟨_, stack', modals', listeners'⟩ := other
  obtain ⟨rfl, pile⟩ := alike
  cases step with
  | navigate asked =>
    cases pile
    simp only [Router.next, answer, Move.report, succeeds, move?, screen?]
    cases asked.text?.bind (Keyed.get? cache) <;> exact ⟨⟨rfl, rfl⟩, rfl⟩
  | goBack =>
    cases pile
    obtain - | ⟨top, - | ⟨below, rest⟩⟩ := stack <;> exact ⟨⟨rfl, rfl⟩, rfl⟩
  | reset asked =>
    cases pile
    exact ⟨⟨rfl, rfl⟩, rfl⟩
  | presentModal asked =>
    cases pile
    simp only [Router.next, answer, Move.report, succeeds, move?, screen?]
    cases asked.text?.bind (Keyed.get? cache) <;> exact ⟨⟨rfl, rfl⟩, rfl⟩
  | push screen =>
    cases pile
    exact ⟨⟨rfl, rfl⟩, rfl⟩
  | dismissModal =>
    cases pile
    cases modals <;> exact ⟨⟨rfl, rfl⟩, rfl⟩

theorem next (alike : Alike layer router other) (operation : Operation) :
    Alike layer (router.next operation) (other.next operation) := by
  cases operation with
  | preload screens =>
    refine ⟨?_, by cases layer <;> exact alike.pile⟩
    rw [Router.next, preload, alike.cache]
    rfl
  | listen listener => exact ⟨alike.cache, by cases layer <;> exact alike.pile⟩
  | unlisten listener => exact ⟨alike.cache, by cases layer <;> exact alike.pile⟩
  | move step =>
    by_cases same : step.layer = layer
    · subst same
      exact alike.move.1
    · exact (skip same).trans (alike.trans (skip same).symm)

/-- What an operation that belongs to a stack answers is determined likewise. -/
theorem answer_eq (alike : Alike layer router other) {operation : Operation}
    (belongs : operation.layer? = some layer) :
    router.answer operation = other.answer operation := by
  cases operation with
  | move step =>
    obtain rfl : step.layer = layer := Option.some.inj belongs
    exact alike.move.2
  | _ => cases belongs

end Alike

/-- What does not concern a stack is a move of the other one. -/
theorem Operation.exists_move {layer : Layer} {operation : Operation}
    (aside : operation.concerns layer = false) :
    ∃ step : Move, operation = .move step ∧ step.layer ≠ layer := by
  cases operation with
  | move step => exact ⟨step, rfl, of_decide_eq_false aside⟩
  | _ => cases aside

end Router

namespace Eff

open Router

variable {host : Host H} {id : RouterId}

/-- Runs that differ by moves of the other stack at most keep a stack alike, and the moves of this
stack end alike if listeners do not fail. -/
private theorem alike_operateAll (off : host.OffRouter id) {layer : Layer}
    (operations : List Operation) {world other : World H}
    (alike : Alike layer (world.routers id) (other.routers id)) :
    Alike layer ((operateAll host id operations world).routers id)
        ((operateAll host id (operations.filter (·.concerns layer)) other).routers id) ∧
      ((∀ listener current world,
          ∃ next, host.react listener (.moved current) world = .ok () next) →
        (answers host id operations world).filter (·.1.layer? = some layer) =
          (answers host id (operations.filter (·.concerns layer)) other).filter
            (·.1.layer? = some layer)) := by
  induction operations generalizing world other with
  | nil => exact ⟨alike, fun _ => rfl⟩
  | cons operation rest ih =>
    have here := routers_operate off operation world
    cases concerns : operation.concerns layer with
    | true =>
      have there := routers_operate off operation other
      have next : Alike layer ((after (operate host id operation) world).routers id)
          ((after (operate host id operation) other).routers id) := by
        rw [here, there]
        exact alike.next operation
      obtain ⟨ends, answer⟩ := ih next
      rw [List.filter_cons_of_pos concerns]
      refine ⟨ends, fun returns => ?_⟩
      rw [answers, answers, result_operate returns, result_operate returns]
      by_cases belongs : operation.layer? = some layer
      · rw [List.filter_cons_of_pos (by simpa), List.filter_cons_of_pos (by simpa),
          alike.answer_eq belongs, answer returns]
      · rw [List.filter_cons_of_neg (by simpa), List.filter_cons_of_neg (by simpa),
          answer returns]
    | false =>
      obtain ⟨step, rfl, differ⟩ := Operation.exists_move concerns
      have next : Alike layer ((after (operate host id (.move step)) world).routers id)
          (other.routers id) := by
        rw [here]
        exact (Alike.skip differ).trans alike
      obtain ⟨ends, answer⟩ := ih next
      rw [List.filter_cons_of_neg (by simp [concerns])]
      refine ⟨ends, fun returns => ?_⟩
      rw [answers, List.filter_cons_of_neg (by simpa [Operation.layer?] using differ),
        answer returns]

/-- A run of moves into which moves of the other stack are interleaved leaves a stack as it leaves
it without them. -/
private theorem pile_interleaved (off : host.OffRouter id) {layer : Layer}
    {own foreign moves : List Move} (belong : ∀ step ∈ own, step.layer = layer)
    (apart : ∀ step ∈ foreign, step.layer ≠ layer) (interleaved : Interleaves own foreign moves)
    (world : World H) :
    ((operateAll host id (moves.map .move) world).routers id).pile layer =
      ((operateAll host id (own.map .move) world).routers id).pile layer := by
  have only : (moves.map Operation.move).filter (·.concerns layer) = own.map Operation.move := by
    refine (interleaved.map Operation.move).filter_eq ?_ ?_
    · intro operation member
      obtain ⟨step, there, rfl⟩ := List.mem_map.mp member
      exact decide_eq_true (belong step there)
    · intro operation member
      obtain ⟨step, there, rfl⟩ := List.mem_map.mp member
      exact decide_eq_false (apart step there)
  have alike := (alike_operateAll off (moves.map .move)
    (Alike.refl layer (world.routers id))).1
  rw [only] at alike
  exact alike.pile

/-- Whatever is done to a router: each of its stacks ends as it does without the moves of the other
one, and its own moves answer the same without them, as long as listeners do not fail. So if a run
of moves between screens and a run of modal ones are interleaved in two ways, both stacks end the
same, and so does the screen that is shown. Listeners may do anything but touch the router. -/
theorem operateAll_of_layer (off : host.OffRouter id) (world : World H) :
    (∀ operations layer,
      ((operateAll host id operations world).routers id).pile layer =
          ((operateAll host id (operations.filter (·.concerns layer)) world).routers id).pile
            layer ∧
        ((∀ listener current world,
            ∃ next, host.react listener (.moved current) world = .ok () next) →
          (answers host id operations world).filter (·.1.layer? = some layer) =
            (answers host id (operations.filter (·.concerns layer)) world).filter
              (·.1.layer? = some layer))) ∧
    ∀ between modal first second : List Move, (∀ step ∈ between, step.layer = .navigation) →
      (∀ step ∈ modal, step.layer = .modals) →
      Interleaves between modal first → Interleaves between modal second →
      let router := (operateAll host id (first.map .move) world).routers id
      let other := (operateAll host id (second.map .move) world).routers id
      router.stack = other.stack ∧ router.modals = other.modals ∧
        router.current? = other.current? := by
  constructor
  · intro operations layer
    obtain ⟨ends, answer⟩ := alike_operateAll off operations
      (Alike.refl layer (world.routers id))
    exact ⟨ends.pile, answer⟩
  · intro between modal first second navigates presents weaves weaves' router other
    have stack : router.stack = other.stack := by
      have apart : ∀ step ∈ modal, step.layer ≠ .navigation := by
        intro step member same
        cases (presents step member).symm.trans same
      exact (pile_interleaved off navigates apart weaves world).trans
        (pile_interleaved off navigates apart weaves' world).symm
    have modals : router.modals = other.modals := by
      have apart : ∀ step ∈ between, step.layer ≠ .modals := by
        intro step member same
        cases (navigates step member).symm.trans same
      exact (pile_interleaved off presents apart weaves.symm world).trans
        (pile_interleaved off presents apart weaves'.symm world).symm
    exact ⟨stack, modals, by rw [current?, current?, stack, modals]⟩

/-- A host that counts the calls of its listeners. -/
private def counting : Host Nat :=
  ⟨fun _ _ => modify fun world => { world with host := world.host + 1 }, .logging⟩

private def page (id : String) : Screen :=
  ⟨id, [], none, .null⟩

/-- A world whose router shows a screen and is listened to. -/
private def shown : World Nat :=
  operateAll counting World.mainRouter
    [.listen "log", .preload [page "a", page "b"], .move (.navigate (.text "a"))]
    (.initial [] "Alerta" [] 0)

/-- Moves of both stacks. Two of them ask for a screen that is cached only later, and one of them
goes back from the root. -/
private def mixed : List Operation :=
  [.move (.presentModal (.text "b")), .move (.navigate (.text "b")), .move (.push (page "c")),
    .move (.navigate (.text "c")), .move .goBack, .move (.presentModal (.text "c")),
    .preload [page "c"], .move (.reset (.text "c")), .move .dismissModal, .move .goBack]

/-- The screen that is cached in between is found by the reset, with the modal moves and without
them. -/
theorem operateAll_of_layer_mixed :
    ((operateAll counting World.mainRouter mixed shown).routers World.mainRouter).stack =
        [page "c"] ∧
      ((operateAll counting World.mainRouter mixed shown).routers World.mainRouter).modals =
        [page "b"] ∧
      ((operateAll counting World.mainRouter [.move (.navigate (.text "b")),
          .move (.navigate (.text "c")), .move .goBack, .preload [page "c"],
          .move (.reset (.text "c")), .move .goBack] shown).routers World.mainRouter).stack =
        [page "c"] ∧
      (answers counting World.mainRouter mixed shown).filter (·.1.layer? = some .modals) =
        [(.move (.presentModal (.text "b")), .ok (some true)),
          (.move (.push (page "c")), .ok none),
          (.move (.presentModal (.text "c")), .ok (some false)),
          (.move .dismissModal, .ok (some true))] ∧
      ((operateAll counting World.mainRouter [.move .goBack, .move (.presentModal (.text "b")),
          .move (.navigate (.text "b"))] shown).routers World.mainRouter).current? =
        some (page "b") := by
  have off : counting.OffRouter World.mainRouter := fun _ _ _ => rfl
  have returns : ∀ listener current world,
      ∃ next, counting.react listener (.moved current) world = .ok () next :=
    fun _ _ _ => ⟨_, rfl⟩
  obtain ⟨independent, interleaved⟩ := operateAll_of_layer off shown
  obtain ⟨stack, -⟩ := independent mixed .navigation
  obtain ⟨modals, answer⟩ := independent mixed .modals
  have current := interleaved [.goBack, .navigate (.text "b")] [.presentModal (.text "b")]
    [.goBack, .presentModal (.text "b"), .navigate (.text "b")]
    [.goBack, .navigate (.text "b"), .presentModal (.text "b")]
    (by decide) (by decide)
    (.left _ (.right _ (.left _ .none))) (.left _ (.left _ (.right _ .none)))
  exact ⟨stack.trans rfl, modals.trans rfl, stack.symm.trans rfl, (answer returns).trans rfl,
    current.2.2.trans rfl⟩

end Eff

end ScreenScript
