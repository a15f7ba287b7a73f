import ScreenScript.Proofs.Handling
import ScreenScript.Proofs.Scheduling

/-! # What holds of executing actions and of draining

Actions are executed by writing, sending and logging, and a drain takes entries and applies their
commands. So a property of operations that sequences inherit from their parts holds of all that is
done to a node or a scope as soon as it holds of these. `Executing` and `Operating` state the
obligations once; frames and invariants are instances of them. Showing a screen, which also deals
with views, is not covered.
-/

namespace ScreenScript

variable {H γ : Type}

namespace Eff

/-- A property that the parts of executing actions have, and sequences of them. Execution sends no
other commands than those of the library. -/
structure Executing (host : Host H) (holds : (α : Type) → Eff H α → Prop) : Prop
    extends Compositional holds where
  get : holds (World H) get
  log : ∀ notice, holds Unit (log notice)
  write : ∀ scope path value, holds Unit (write host scope path value)
  send : ∀ command router, command.Known → holds Unit (send command router)

namespace Executing

variable {host : Host H} {holds : (α : Type) → Eff H α → Prop}

theorem executeInstruction (executing : Executing host holds) (scope : ScopeId)
    (router : Option RouterId) (instruction : Instruction) :
    holds Unit (executeInstruction host scope router instruction) := by
  refine executing.bind executing.get fun world => ?_
  have plain := Effect.plain_ofInstruction world.alertTitle router.isSome (world.reader scope)
    instruction
  cases effect : Effect.ofInstruction world.alertTitle router.isSome (world.reader scope)
    instruction with
  | write path value => exact executing.write scope path value
  | send command =>
    rw [effect] at plain
    exact executing.send command router plain
  | skip notice => exact executing.log notice

/-- What holds of every instruction holds of every action, however it is nested. -/
theorem execute (executing : Executing host holds) (scope : ScopeId) (router : Option RouterId)
    (action : Action) : holds Unit (execute host scope router action) := by
  rw [execute_eq_follow]
  induction action.instructions with
  | nil => exact executing.pure ()
  | cons instruction rest ih =>
    exact executing.bind (executing.executeInstruction scope router instruction) fun _ => ih

end Executing

/-- A property that the parts of executing actions and of draining have, and sequences of them. -/
structure Operating (host : Host H) (holds : (α : Type) → Eff H α → Prop) : Prop
    extends Executing host holds where
  take : holds (Option Entry) take
  apply : ∀ envelope, holds Unit (apply host envelope)

namespace Operating

variable {host : Host H} {holds : (α : Type) → Eff H α → Prop}

theorem drainUpTo (operating : Operating host holds) (count : Nat) :
    holds Nat (drainUpTo host count) := by
  induction count with
  | zero => exact operating.pure 0
  | succ count ih =>
    refine operating.bind operating.take fun taken => ?_
    split
    · exact operating.pure 0
    · exact ih
    · refine operating.bind (operating.apply _) fun _ => ?_
      exact operating.bind ih fun _ => operating.pure _

theorem drain (operating : Operating host holds) : holds Nat (drain host) := by
  refine operating.bind operating.get fun world => ?_
  change holds Nat (if world.channel.serving = true
    then (throw .consumerServing : Eff H PUnit) >>=
      fun _ => Eff.drainUpTo host world.channel.pending
    else Eff.drainUpTo host world.channel.pending)
  split
  · exact operating.bind (operating.throw _) fun _ => operating.drainUpTo _
  · exact operating.drainUpTo _

theorem trigger (operating : Operating host holds) (scope : ScopeId) (action : Action) :
    holds Unit (trigger host scope action) :=
  operating.bind (operating.execute scope _ action) fun _ =>
    operating.bind operating.drain fun _ => operating.pure ()

theorem tap (operating : Operating host holds) (node : Node) : holds Unit (tap host node) := by
  unfold Eff.tap
  split
  · exact operating.pure ()
  · exact operating.trigger _ _

theorem enter (operating : Operating host holds) (node : Node) (content : Value) :
    holds Unit (enter host node content) := by
  unfold Eff.enter
  split
  · exact operating.write _ _ content
  · exact operating.throw _

/-- Operations keep whatever the given property makes each of them keep. -/
theorem sustains (operating : Operating host holds) {property : γ → World H → Prop}
    (keeps : ∀ {α : Type} {operation : Eff H α}, holds α operation →
      ∀ index, Sustains (property index) operation) :
    Operating host fun _ operation => ∀ index, Sustains (property index) operation where
  toCompositional := Sustains.compositional_all property
  get := keeps operating.get
  log notice := keeps (operating.log notice)
  write scope path value := keeps (operating.write scope path value)
  send command router known := keeps (operating.send command router known)
  take := keeps operating.take
  apply envelope := keeps (operating.apply envelope)

end Operating

end Eff

end ScreenScript
