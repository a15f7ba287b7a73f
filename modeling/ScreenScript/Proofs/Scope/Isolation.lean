import ScreenScript.Proofs.Scope.Operations

/-! # What is done in one scope stays in it

Scopes share nothing but the channel. Things are done in many scopes, in any order, and further
scopes are forked and rendered in between. The data of a scope are then those that it was born with
and all that was written in it since, in its order, so whatever was done in other scopes may be left
out. The commands that are issued go to the one channel, no matter in which scope. Nobody listens
here.
-/

namespace ScreenScript

variable {H : Type}

namespace Scopes

open Eff

/-- The world after operations, one after another. One that fails keeps what it did before. -/
def play (host : Host H) : List Operation → World H → World H
  | [], world => world
  | operation :: rest, world => play host rest (after (operation.perform host) world)

/-- Each operation is in a scope that is in use by then. -/
def Addressed (host : Host H) : List Operation → World H → Prop
  | [], _ => True
  | operation :: rest, world =>
    operation.scope < world.scopes.next ∧
      Addressed host rest (after (operation.perform host) world)

/-- What operations write to a scope. -/
def writesTo (host : Host H) (id : ScopeId) : List Operation → World H → List (Path × Value)
  | [], _ => []
  | operation :: rest, world =>
    operation.writes world id ++ writesTo host id rest (after (operation.perform host) world)

/-- What operations put on the channel. -/
def issuedBy (host : Host H) : List Operation → World H → List Entry
  | [], _ => []
  | operation :: rest, world =>
    operation.issued world ++ issuedBy host rest (after (operation.perform host) world)

variable (host : Host H) {world other : World H}

theorem play_append (early late : List Operation) (world : World H) :
    play host (early ++ late) world = play host late (play host early world) := by
  induction early generalizing world with
  | nil => rfl
  | cons operation rest ih => exact ih _

theorem addressed_append (early late : List Operation) (world : World H) :
    Addressed host (early ++ late) world ↔
      Addressed host early world ∧ Addressed host late (play host early world) := by
  induction early generalizing world with
  | nil => simp only [List.nil_append, Addressed, play, true_and]
  | cons operation rest ih =>
    rw [List.cons_append, Addressed, Addressed, ih, play, and_assoc]

theorem silent_play {operations : List Operation} (silent : world.Silent)
    (addressed : Addressed host operations world) : (play host operations world).Silent := by
  induction operations generalizing world with
  | nil => exact silent
  | cons operation rest ih =>
    have step := Operation.step_of_perform host operation silent addressed.1
    exact ih step.silent addressed.2

/-- A scope has the data that it had and what was written to it since. -/
theorem data_play {operations : List Operation} (silent : world.Silent)
    (addressed : Addressed host operations world) {id : ScopeId} (used : id < world.scopes.next) :
    (play host operations world).data id =
      (world.data id).writeAll (writesTo host id operations world) := by
  induction operations generalizing world with
  | nil => rfl
  | cons operation rest ih =>
    have step := Operation.step_of_perform host operation silent addressed.1
    rw [play, ih step.silent addressed.2 (step.born.used used), step.data id used, writesTo,
      Fields.writeAll_append]

/-- What is done in other scopes may be left out, and done to a world that agrees on one scope. -/
theorem data_play_filter {operations : List Operation} {id : ScopeId} (silent : world.Silent)
    (quiet : other.Silent) (addressed : Addressed host operations world)
    (used : id < world.scopes.next) (there : id < other.scopes.next)
    (title : other.alertTitle = world.alertTitle) (data : other.data id = world.data id) :
    (play host (operations.filter fun operation => operation.scope = id) other).data id =
      (play host operations world).data id := by
  induction operations generalizing world other with
  | nil => exact data
  | cons operation rest ih =>
    have step := Operation.step_of_perform host operation silent addressed.1
    have stays := step.born.used used
    by_cases here : operation.scope = id
    · -- It is done in both worlds, and writes the same in both.
      have step' := Operation.step_of_perform host operation quiet (here ▸ there)
      have stays' := step'.born.used there
      rw [List.filter_cons_of_pos (by simpa using here)]
      refine ih step.silent step'.silent addressed.2 stays stays' ?_ ?_
      · rw [step'.title, step.title, title]
      · rw [step'.data id there, step.data id used, Operation.writes, Operation.writes, title, data]
    · -- It is left out of one world, and writes nothing in the other.
      rw [List.filter_cons_of_neg (by simpa using here)]
      refine ih step.silent quiet addressed.2 stays there (title.trans step.title.symm) ?_
      rw [step.data id used, Operation.writes, if_neg here, data]
      rfl

/-- What is issued goes to the end of the channel, and drains take from the front of it. -/
theorem queue_play {operations : List Operation} (silent : world.Silent)
    (addressed : Addressed host operations world) :
    ∃ taken, world.channel.queue ++ issuedBy host operations world =
        taken ++ (play host operations world).channel.queue ∧
      ((∀ operation ∈ operations, operation.drains = false) → taken = []) := by
  induction operations generalizing world with
  | nil => exact ⟨[], List.append_nil _, fun _ => rfl⟩
  | cons operation rest ih =>
    have step := Operation.step_of_perform host operation silent addressed.1
    obtain ⟨first, split, none⟩ := step.queue
    obtain ⟨second, split', none'⟩ := ih step.silent addressed.2
    refine ⟨first ++ second, ?_, fun undrained => ?_⟩
    · rw [issuedBy, ← List.append_assoc, split, List.append_assoc, split', List.append_assoc]
      rfl
    · rw [none (undrained _ List.mem_cons_self),
        none' fun operation later => undrained operation (List.mem_cons_of_mem _ later)]
      rfl

/-- In a run of operations, each in a scope that is in use by then, a scope has the data that it
had at any earlier time and what was written to it since; they are the same when all that was done
in other scopes since then is left out. A scope that an operation makes has, right after it, the
data of its parent with some fields put into them, and the operation does not change those of the
parent. What is issued, in any scope, goes to the channel in the order in which it is issued. -/
theorem isolated_of_play (operations : List Operation) (silent : world.Silent)
    (addressed : Addressed host operations world) :
    (∀ early late, operations = early ++ late →
      ∀ id, id < (play host early world).scopes.next →
        (play host operations world).data id =
          ((play host early world).data id).writeAll
            (writesTo host id late (play host early world)) ∧
        (play host (early ++ late.filter fun operation => operation.scope = id) world).data id =
          (play host operations world).data id) ∧
    (∀ early operation late, operations = early ++ operation :: late →
      World.Born (operation.births (play host early world)) (play host early world)
        (play host (early ++ [operation]) world)) ∧
    ∃ taken, world.channel.queue ++ issuedBy host operations world =
        taken ++ (play host operations world).channel.queue ∧
      ((∀ operation ∈ operations, operation.drains = false) → taken = []) := by
  refine ⟨?_, ?_, queue_play host silent addressed⟩
  · rintro early late rfl id used
    obtain ⟨before, since⟩ := (addressed_append host early late world).mp addressed
    have now := silent_play host silent before
    rw [play_append, play_append]
    exact ⟨data_play host now since used, data_play_filter host now now since used used rfl rfl⟩
  · rintro early operation late rfl
    obtain ⟨before, since⟩ := (addressed_append host early _ world).mp addressed
    have step := Operation.step_of_perform host operation (silent_play host silent before) since.1
    rw [play_append]
    exact step.born

/-- A button that lends a book. -/
private def lending : Fields :=
  [("type", .text "button"), ("label", .text "Lend"),
    ("onTap", .mapping [("set", .mapping [("var", .text "lent"), ("value", .bool true)])])]

/-- A list of shelves, which list their books. -/
private def shelves : Fields :=
  [("items", .list [.mapping [("shelf", .text "A"),
      ("books", .list [.mapping [("title", .text "Eneida")]])]]),
    ("rowComponents", .list [.mapping [("type", .text "list"),
      ("items", .mapping [("var", .text "books")]),
      ("rowComponents", .list [.mapping lending])]])]

private def library : World Unit :=
  .initial [] "Alerta" Registry.standard ()

/-- The button in the row of the only book. -/
private def lend? : Option Node :=
  match renderComponent Scopes.main none "list" shelves library with
  | .ok nodes _ => Node.button? nodes "Lend"
  | .error _ _ => none

private def shown : Operation :=
  .renderComponent Scopes.main none "list" shelves

/-- What is done once the shelves are shown: the book is lent from its row. -/
private def visit : List Operation :=
  lend?.toList.map .tap ++
    [.fork 2 [("title", .text "Odisseia")], .set 1 "shelf" (.text "B"),
      .execute 3 (some World.mainRouter) (.sequence [.single (.set "lent" (.bool false)),
        .single (.command "navigateBack" [])]),
      .set Scopes.main "lent" (.bool false)]

private def books : Fields :=
  [("books", .list [.mapping [("title", .text "Eneida")]])]

/-- The row of the book is lent, and neither the shelf around it nor the fork of the row is. -/
theorem isolated_of_play_library :
    library.Silent ∧ Addressed .calm (shown :: visit) library ∧
      shown.births library = [⟨1, 0, ("shelf", .text "A") :: books⟩,
        ⟨2, 1, [("title", .text "Eneida")]⟩] ∧
      (play .calm [shown] library).data 2 =
        [("shelf", .text "A")] ++ books ++ [("title", .text "Eneida")] ∧
      (play .calm (shown :: visit) library).data 2 =
        [("shelf", .text "A")] ++ books ++ [("title", .text "Eneida"), ("lent", .bool true)] ∧
      (play .calm ([shown] ++ lend?.toList.map .tap) library).data 2 =
        (play .calm (shown :: visit) library).data 2 ∧
      (play .calm (shown :: visit) library).channel.queue =
        [.command ⟨.navigateBack, some World.mainRouter⟩] := by
  have silent : library.Silent := World.silent_initial ..
  have addressed : Addressed .calm (shown :: visit) library := by
    refine ⟨?_, ?_, ?_, ?_, ?_, ?_, trivial⟩
    all_goals decide
  obtain ⟨stays, -, -⟩ := isolated_of_play .calm (shown :: visit) silent addressed
  obtain ⟨data, erased⟩ := stays [shown] visit rfl 2 (by decide)
  exact ⟨silent, addressed, rfl, rfl, data, erased, rfl⟩

end Scopes

end ScreenScript
