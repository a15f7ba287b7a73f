import ScreenScript.Action.Check
import ScreenScript.World.Execution

/-! # Actions that are written and read again

An action is written by its kind with all of its fields, and what is written so is checked to be the
same action. Values that an action carries are passed through as they are, so it does not matter
whether they look like actions themselves. An action that was read in this way takes the place of
the node that it was first read from, wherever that node is executed.
-/

namespace ScreenScript

namespace Action

/-- An instruction that was written is read with the fields it had. -/
theorem check_toValue_single (instruction : Instruction) :
    check (toValue (.single instruction)) = .valid (.single instruction) := by
  cases instruction <;> simp only [toValue, check, Keyed.get?] <;> rfl

mutual

/-- An action that was written is read as it was. The recursion is that on the action and on the
steps of a sequence, of which each is checked under its own position. -/
theorem check_toValue : ∀ action : Action, check action.toValue = .valid action
  | .single instruction => check_toValue_single instruction
  | .sequence steps => by
    have same := checkItems_toValues 0 steps
    simp only [toValue, check, Keyed.get?, checkSteps, checkList, same]
    rfl

theorem checkItems_toValues : ∀ (position : Nat) (steps : List Action),
    checkItems position (toValues steps) = .valid steps
  | _, [] => rfl
  | position, step :: rest => by
    have first := check_toValue step
    have later := checkItems_toValues (position + 1) rest
    simp only [toValues, checkItems, first, later]
    rfl

end

/-- What a node describes can be written and read again: the action that comes back is the one that
the node describes, it describes itself, and to execute it is to execute the node, in every scope of
every world, whoever listens there and whether there is a router or not. -/
theorem restored_of_written (node : Value) :
    ∃ restored, check (toValue (ofNode node)) = .valid restored ∧ restored = ofNode node ∧
      (Description.read restored).action = restored ∧
      ∀ {H : Type} (host : Host H) (scope : ScopeId) (router : Option RouterId) (world : World H),
        Eff.executeDescribed host scope router (.read restored) world =
          Eff.executeDescribed host scope router (.node node) world := by
  refine ⟨ofNode node, check_toValue _, rfl, rfl, ?_⟩
  intro H host scope router world
  rfl

/-- A step that carries what looks like another action, and one that is none. -/
example :
    check (toValue (ofNode (.mapping [("sequence", .list [.text "?", .mapping [("set", .mapping
      [("var", .text "a"), ("value", .mapping [("kind", .text "command")])])]])]))) =
    .valid (.sequence [.single (.unrecognized "action node must be a mapping, got str" (.text "?")),
      .single (.set "a" (.mapping [("kind", .text "command")]))]) := rfl

end Action

end ScreenScript
