import ScreenScript.Proofs.Handling
import ScreenScript.Proofs.Scheduling

/-! # Nested sequences run like their instructions

Sequences nest to any depth, and some of their steps may be no actions at all. An execution shows
nothing of this: the instructions run one after another in document order, up to the first one
that fails. Only an instruction that writes can fail, in a listener that is told of the write. The
failure then ends all sequences around the instruction at once. What was done before it stays done,
and so does the write, since the listener is called behind it. Nothing is assumed of listeners: they
may change the world in any way before they fail, and what they change is all that sets the world at
the end apart from the world after the write. A node is executed as the action that is read from it,
so all this holds of nodes too. Draining between the instructions is not covered.
-/

namespace ScreenScript

variable {H : Type} {γ : Type}

namespace Eff

/-- Instructions were executed one after another, each of them to its end. -/
inductive Ran (host : Host H) (scope : ScopeId) (router : Option RouterId) :
    List Instruction → World H → World H → Prop
  | none (world : World H) : Ran host scope router [] world world
  | step {instruction : Instruction} {rest : List Instruction} {world middle last : World H}
      (executed : executeInstruction host scope router instruction world = .ok () middle)
      (later : Ran host scope router rest middle last) :
      Ran host scope router (instruction :: rest) world last

/-- An instruction writes, and a listener that is told of the write fails. -/
structure Interrupted (host : Host H) (scope : ScopeId) (router : Option RouterId)
    (instruction : Instruction) (path : String) (value : Value) (world : World H)
    (failure : Failure) (last : World H) : Prop where
  effect : Effect.ofInstruction world.alertTitle router.isSome (world.reader scope) instruction =
    .write path value
  addressed : Path.ofText path ≠ []
  failed : callAll host (fun _ => .wrote path) (world.scopes.get scope).listeners
    (world.stored scope path value) = .error failure last

section

variable {host : Host H} {scope : ScopeId} {router : Option RouterId}
  {instruction : Instruction} {failure : Failure} {world last : World H}

/-- What the listeners leave alone is as the write left it. -/
theorem Interrupted.spared {path : String} {value : Value}
    (interrupted : Interrupted host scope router instruction path value world failure last)
    {part : World H → γ} (called : ∀ world calls, part { world with calls := calls } = part world)
    (listeners : ∀ listener event, Spares part (host.react listener event)) :
    part last = part (world.stored scope path value) := by
  have spared := spares_callAll called listeners (fun _ => .wrote path)
    (world.scopes.get scope).listeners (world.stored scope path value)
  rw [after_of_error interrupted.failed] at spared
  exact spared

/-- An instruction fails exactly when it writes and a listener fails. -/
theorem executeInstruction_eq_error_iff :
    executeInstruction host scope router instruction world = .error failure last ↔
      ∃ path value,
        Interrupted host scope router instruction path value world failure last := by
  have performed : executeInstruction host scope router instruction world =
      perform host scope router (Effect.ofInstruction world.alertTitle router.isSome
        (world.reader scope) instruction) world := rfl
  rw [performed]
  constructor
  · intro failed
    cases effect : Effect.ofInstruction world.alertTitle router.isSome (world.reader scope)
      instruction with
    | write path value =>
      rw [effect, perform, write_eq] at failed
      by_cases empty : Path.ofText path = []
      · -- Nobody is told of a write without a key.
        rw [if_pos empty] at failed
        cases failed
      · rw [if_neg empty] at failed
        exact ⟨path, value, effect, empty, failed⟩
    | send command =>
      rw [effect] at failed
      cases failed
    | skip notice =>
      rw [effect] at failed
      cases failed
  · rintro ⟨path, value, interrupted⟩
    rw [interrupted.effect, perform, write_eq, if_neg interrupted.addressed]
    exact interrupted.failed

/-- Instructions succeed together exactly when each of them does. -/
theorem follow_eq_ok_iff {instructions : List Instruction} {world last : World H} :
    follow host scope router (instructions.map .step) world = .ok () last ↔
      Ran host scope router instructions world last := by
  induction instructions generalizing world with
  | nil =>
    constructor
    · intro followed
      cases followed
      exact .none _
    · intro ran
      cases ran
      rfl
  | cons instruction rest ih =>
    rw [List.map_cons, follow, bind_eq_ok_iff]
    constructor
    · rintro ⟨_, middle, executed, followed⟩
      exact .step executed (ih.mp followed)
    · intro ran
      cases ran with
      | step executed later => exact ⟨(), _, executed, ih.mpr later⟩

/-- Instructions fail together exactly when one of them does and those before it do not. -/
theorem follow_eq_error_iff {instructions : List Instruction} {world last : World H} :
    follow host scope router (instructions.map .step) world = .error failure last ↔
      ∃ early instruction late middle, instructions = early ++ instruction :: late ∧
        Ran host scope router early world middle ∧
        executeInstruction host scope router instruction middle = .error failure last := by
  induction instructions generalizing world with
  | nil =>
    constructor
    · intro followed
      cases followed
    · rintro ⟨early, instruction, late, _, all, _⟩
      cases (List.append_eq_nil_iff.mp all.symm).2
  | cons first rest ih =>
    rw [List.map_cons, follow]
    cases executed : executeInstruction host scope router first world with
    | error failure' last' =>
      rw [bind_of_error executed]
      constructor
      · intro same
        cases same
        exact ⟨[], first, rest, world, rfl, .none world, executed⟩
      · rintro ⟨early, instruction, late, middle, all, ran, failed⟩
        cases ran with
        | none =>
          cases all
          exact executed.symm.trans failed
        | step executed' _ =>
          cases all
          cases executed.symm.trans executed'
    | ok done next =>
      rw [bind_of_ok executed, ih]
      constructor
      · rintro ⟨early, instruction, late, middle, rfl, ran, failed⟩
        exact ⟨first :: early, instruction, late, middle, rfl, .step executed ran, failed⟩
      · rintro ⟨early, instruction, late, middle, all, ran, failed⟩
        cases ran with
        | none =>
          cases all
          cases executed.symm.trans failed
        | step executed' later =>
          cases all
          cases executed.symm.trans executed'
          exact ⟨_, instruction, late, middle, rfl, later, failed⟩

end

/-- An action succeeds exactly when all its instructions do, one after another, and it ends where
they end. It fails exactly when one of them writes and a listener fails. Those before it were
executed then, those behind it were not, and the write is done: whatever the listeners leave alone
is as the instructions before and the write have left it. -/
theorem execute_iff_instructions (host : Host H) (scope : ScopeId) (router : Option RouterId)
    (action : Action) (world : World H) :
    (∀ last, execute host scope router action world = .ok () last ↔
      Ran host scope router action.instructions world last) ∧
    (∀ failure last, execute host scope router action world = .error failure last ↔
      ∃ early instruction late middle path value,
        action.instructions = early ++ instruction :: late ∧
        Ran host scope router early world middle ∧
        Interrupted host scope router instruction path value middle failure last) ∧
    ∀ instruction path value middle failure last,
      Interrupted host scope router instruction path value middle failure last →
      ∀ part : World H → γ, (∀ world calls, part { world with calls := calls } = part world) →
        (∀ listener event, Spares part (host.react listener event)) →
        part last = part (middle.stored scope path value) := by
  rw [execute_eq_follow]
  refine ⟨fun last => follow_eq_ok_iff, fun failure last => ?_, ?_⟩
  · rw [follow_eq_error_iff]
    constructor
    · rintro ⟨early, instruction, late, middle, all, ran, failed⟩
      obtain ⟨path, value, interrupted⟩ := executeInstruction_eq_error_iff.mp failed
      exact ⟨early, instruction, late, middle, path, value, all, ran, interrupted⟩
    · rintro ⟨early, instruction, late, middle, path, value, all, ran, interrupted⟩
      have failed := executeInstruction_eq_error_iff.mpr ⟨path, value, interrupted⟩
      exact ⟨early, instruction, late, middle, all, ran, failed⟩
  · intro instruction path value middle failure last interrupted part called listeners
    exact interrupted.spared called listeners

/-- A host whose listeners fail when they are told of a write to `b`. -/
private def fragile : Host Unit where
  react _ event := if event = .wrote "b" then throw .listenerFailed else pure ()
  presenter := .logging

/-- A world with one listener and no data. -/
private def listened : World Unit :=
  after (subscribe Scopes.main "log") (.initial [] "Alerta" [] ())

/-- Two instructions and a step that is no action, in front of the write that fails. -/
private def ahead : List Instruction :=
  [.set "a" (.int 1), .command "showAlert" [("message", .text "Oi")],
    .unrecognized (Action.notMapping .null) .null]

/-- A sequence in a sequence, with the write that fails in the middle of the inner one. -/
private def cutShort : Action :=
  .sequence [.single (.set "a" (.int 1)),
    .sequence [.single (.command "showAlert" [("message", .text "Oi")]),
      .single (.unrecognized (Action.notMapping .null) .null),
      .single (.set "b" (.int 2)), .single (.set "c" (.int 3))],
    .single (.command "navigateBack" [])]

/-- The world in which the listener fails. -/
private def failing : World Unit :=
  after (execute fragile Scopes.main (some World.mainRouter) (.sequence (ahead.map .single)))
    listened

/-- The write to `b` and the alert before it stay; there is no write to `c`, and no command to go
back. -/
theorem execute_iff_instructions_cutShort :
    ∃ last, execute fragile Scopes.main (some World.mainRouter) cutShort listened =
        .error .listenerFailed last ∧
      last.data Scopes.main = [("a", .int 1), ("b", .int 2)] ∧
      last.channel.queue =
        [.command ⟨.showAlert "Alerta" "Oi", some World.mainRouter⟩] ∧
      last.calls = [⟨"log", .wrote "a"⟩, ⟨"log", .wrote "b"⟩] := by
  have ran : Ran fragile Scopes.main (some World.mainRouter) ahead listened failing :=
    .step rfl (.step rfl (.step rfl (.none _)))
  let last := after (callAll fragile (fun _ => .wrote "b") ["log"])
    (failing.stored Scopes.main "b" (.int 2))
  have interrupted : Interrupted fragile Scopes.main (some World.mainRouter)
      (.set "b" (.int 2)) "b" (.int 2) failing .listenerFailed last :=
    ⟨rfl, by decide, rfl⟩
  have spared : ∀ listener event,
      Spares (fun world => world.data Scopes.main) (fragile.react listener event) := by
    intro listener event world
    simp only [fragile]
    split <;> rfl
  obtain ⟨-, fails, stays⟩ := @execute_iff_instructions Unit Fields fragile Scopes.main
    (some World.mainRouter) cutShort listened
  have failed := (fails .listenerFailed last).mpr
    ⟨ahead, .set "b" (.int 2), [.set "c" (.int 3), .command "navigateBack" []], failing, "b",
      .int 2, rfl, ran, interrupted⟩
  have written := stays _ _ _ _ _ _ interrupted (fun world => world.data Scopes.main)
    (fun _ _ => rfl) spared
  exact ⟨last, failed, written, rfl, rfl⟩

end Eff

end ScreenScript
