import ScreenScript.Proofs.Execution.Sending
import ScreenScript.Proofs.Path.Commutation

/-! # No step goes unaccounted for

Each instruction of an action meets one fate of three: it writes a value to a path with a key, it
puts one command on the channel, or it is skipped, and then the log has one record that says why.
The reasons to skip an instruction are found at different places and may come together: a path
without a key is noticed by the write, a value that is no mapping before it, a parameter that names
no screen before the router is missed. Whatever comes together, the first reason that is found is
the only one that is recorded. So what is written, sent and recorded makes up the instructions,
however they are nested. What listeners add is excluded, and so is what the commands do once they
are applied.
-/

namespace ScreenScript

variable {H : Type}

/-- What can become of an instruction. -/
inductive Fate where
  | written
  | sent
  | skipped
deriving DecidableEq, Repr

/-- A record by which an execution or a write says that it skips an instruction. -/
def Notice.Skips : Notice → Prop
  | .emptyPath _ | .appendSkipped .. | .nodeSkipped .. | .unknownCommand _ | .screenNotText _
  | .noRouter _ => True
  | _ => False

namespace Effect

/-- The commands that a screen must be named for. -/
def screenCommands : List String :=
  ["navigate", "presentModal", "reset"]

/-- The commands that a router must be there for. -/
def routerCommands : List String :=
  screenCommands ++ ["navigateBack", "dismissModal"]

end Effect

open Effect

/-- An instruction is to be skipped, and the record tells why. When reasons come together it is the
first one that the record tells: a value that is no mapping comes before a path without a key, and a
missing screen before a missing router. -/
inductive Instruction.Skipped (routed : Bool) (read : String → Option Value) :
    Instruction → Notice → Prop
  | setNowhere {path : String} {node : Value} (nowhere : Path.ofText path = []) :
      Skipped routed read (.set path node) (.emptyPath path)
  | appendNowhere {path : String} {node : Value} {entry : Fields}
      (evaluated : Expression.evaluate read node = .mapping entry)
      (nowhere : Path.ofText path = []) : Skipped routed read (.append path node) (.emptyPath path)
  | noMapping {path : String} {node : Value}
      (other : (Expression.evaluate read node).mapping? = none) :
      Skipped routed read (.append path node)
        (.appendSkipped path (Expression.evaluate read node))
  | unknown {name : String} {params : Fields} (noAlert : name ≠ "showAlert")
      (unknown : name ∉ routerCommands) :
      Skipped routed read (.command name params) (.unknownCommand name)
  | noScreen {name : String} {params : Fields} (asks : name ∈ screenCommands)
      (missing : params.text? "screen" = none) :
      Skipped routed read (.command name params) (.screenNotText name)
  | noRouter {name : String} {params : Fields} (asks : name ∈ routerCommands)
      (named : name ∈ screenCommands → params.text? "screen" ≠ none) (missing : routed = false) :
      Skipped routed read (.command name params) (.noRouter name)
  | unrecognized (reason : String) (node : Value) :
      Skipped routed read (.unrecognized reason node)
        (.nodeSkipped reason (node.mapping?.elim false Action.mentionsAssignment))

theorem Instruction.Skipped.skips {routed : Bool} {read : String → Option Value}
    {instruction : Instruction} {notice : Notice}
    (skipped : instruction.Skipped routed read notice) : notice.Skips := by
  cases skipped <;> trivial

namespace Effect

variable {routed : Bool} {read : String → Option Value} {name : String} {params : Fields}

theorem mem_screenCommands :
    name ∈ screenCommands ↔ name = "navigate" ∨ name = "presentModal" ∨ name = "reset" := by
  simp only [screenCommands, List.mem_cons, List.not_mem_nil, or_false]

theorem mem_routerCommands : name ∈ routerCommands ↔
    name ∈ screenCommands ∨ name = "navigateBack" ∨ name = "dismissModal" := by
  simp only [routerCommands, List.mem_append, List.mem_cons, List.not_mem_nil, or_false]

/-- A command is skipped when there is a reason to skip it. -/
theorem ofCommand_of_skipped (alertTitle : String) {notice : Notice}
    (skipped : Instruction.Skipped routed read (.command name params) notice) :
    ofCommand alertTitle routed read name params = .skip notice := by
  cases skipped with
  | unknown noAlert unknown =>
    simp only [mem_routerCommands, mem_screenCommands, not_or] at unknown
    obtain ⟨⟨navigate, present, reset⟩, back, dismiss⟩ := unknown
    unfold ofCommand
    split <;> first | contradiction | rfl
  | noScreen asks missing =>
    rcases mem_screenCommands.mp asks with rfl | rfl | rfl <;>
      simp only [ofCommand, routeTo, missing]
  | noRouter asks named missing =>
    subst missing
    rcases mem_routerCommands.mp asks with screen | rfl | rfl
    · obtain ⟨asked, told⟩ := Option.ne_none_iff_exists'.mp (named screen)
      rcases mem_screenCommands.mp screen with rfl | rfl | rfl <;>
        simp only [ofCommand, routeTo, told, route, Bool.false_eq_true, ↓reduceIte]
    · rfl
    · rfl

private theorem route_cases (command : Command) (asks : name ∈ routerCommands)
    (named : name ∈ screenCommands → params.text? "screen" ≠ none) :
    (∃ sent, route routed name command = .send sent) ∨
      ∃ notice, route routed name command = .skip notice ∧
        Instruction.Skipped routed read (.command name params) notice := by
  cases routed with
  | true => exact .inl ⟨command, rfl⟩
  | false => exact .inr ⟨_, rfl, .noRouter asks named rfl⟩

private theorem routeTo_cases (command : String → Command) (asks : name ∈ screenCommands) :
    (∃ sent, routeTo routed name params command = .send sent) ∨
      ∃ notice, routeTo routed name params command = .skip notice ∧
        Instruction.Skipped routed read (.command name params) notice := by
  unfold routeTo
  cases named : params.text? "screen" with
  | none => exact .inr ⟨_, rfl, .noScreen asks named⟩
  | some screen =>
    have known : name ∈ routerCommands := List.mem_append_left _ asks
    have told : name ∈ screenCommands → params.text? "screen" ≠ none := by simp [named]
    exact route_cases (command screen) known told

/-- A command is sent, or there is a reason to skip it. -/
theorem ofCommand_cases (alertTitle : String) (routed : Bool) (read : String → Option Value)
    (name : String) (params : Fields) :
    (∃ command, ofCommand alertTitle routed read name params = .send command) ∨
      ∃ notice, ofCommand alertTitle routed read name params = .skip notice ∧
        Instruction.Skipped routed read (.command name params) notice := by
  unfold ofCommand
  split
  · exact routeTo_cases _ (by decide)
  · exact route_cases _ (by decide) fun asks => absurd asks (by decide)
  · exact .inl ⟨_, rfl⟩
  · exact routeTo_cases _ (by decide)
  · exact route_cases _ (by decide) fun asks => absurd asks (by decide)
  · exact routeTo_cases _ (by decide)
  next navigate back alert present dismiss reset =>
    refine .inr ⟨_, rfl, .unknown alert ?_⟩
    simp only [mem_routerCommands, mem_screenCommands, not_or]
    exact ⟨⟨navigate, present, reset⟩, back, dismiss⟩

end Effect

namespace Eff

/-- What becomes of an instruction in a world, and the world after it. -/
inductive Meets (scope : ScopeId) (router : Option RouterId) (world : World H) :
    Instruction → Fate → World H → Prop
  /-- The value of its expression is written to its path. -/
  | set {path : String} {node : Value} (addressed : Path.ofText path ≠ []) :
      Meets scope router world (.set path node) .written
        (world.stored scope path (Expression.evaluate (world.reader scope) node))
  /-- The mapping that its expression yields is written behind the items of the list. -/
  | append {path : String} {node : Value} {entry : Fields} (addressed : Path.ofText path ≠ [])
      (evaluated : Expression.evaluate (world.reader scope) node = .mapping entry) :
      Meets scope router world (.append path node) .written
        (world.stored scope path
          (.list ((((world.reader scope path).bind Value.list?).getD []) ++ [.mapping entry])))
  /-- Its command is put on the channel, as there is no reason to skip it. -/
  | send {name : String} {params : Fields} {command : Command}
      (formed : Envelope.Sent world.alertTitle router ⟨command, router⟩)
      (due : ∀ notice, ¬Instruction.Skipped router.isSome (world.reader scope)
        (.command name params) notice) :
      Meets scope router world (.command name params) .sent (after (send command router) world)
  /-- Nothing is done but that one record is left, which tells the reason. -/
  | skip {instruction : Instruction} {notice : Notice}
      (skipped : instruction.Skipped router.isSome (world.reader scope) notice) :
      Meets scope router world instruction .skipped (world.record [notice])

/-- Instructions meet their fates, one after another, and none of them could have met another. -/
inductive Fates (host : Host H) (scope : ScopeId) (router : Option RouterId) :
    List Instruction → List Fate → World H → World H → Prop
  | none (world : World H) : Fates host scope router [] [] world world
  | step {instruction : Instruction} {fate : Fate} {instructions : List Instruction}
      {fates : List Fate} {world next last : World H}
      (executed : executeInstruction host scope router instruction world = .ok () next)
      (meets : Meets scope router world instruction fate next)
      (sole : ∀ other, Meets scope router world instruction other next → other = fate)
      (later : Fates host scope router instructions fates next last) :
      Fates host scope router (instruction :: instructions) (fate :: fates) world last

/-- From one world to another as many values were written, commands sent and records left as there
are fates of each kind, and nothing else was done to data, channel and log. -/
structure Tally (scope : ScopeId) (router : Option RouterId) (fates : List Fate)
    (world next : World H) : Prop where
  written : ∃ writes : List (Path × Value), writes.length = fates.count .written ∧
    (∀ entry ∈ writes, entry.1 ≠ []) ∧ next.data scope = (world.data scope).writeAll writes
  elsewhere : ∀ other, other ≠ scope → next.data other = world.data other
  sent : ∃ commands : List Command, commands.length = fates.count .sent ∧
    next.channel.queue =
      world.channel.queue ++ commands.map fun command => .command ⟨command, router⟩
  skipped : ∃ notices : List Notice, notices.length = fates.count .skipped ∧
    (∀ notice ∈ notices, notice.Skips) ∧ next.notices = world.notices ++ notices

namespace Tally

variable {scope : ScopeId} {router : Option RouterId} {world middle last : World H}

theorem none (scope : ScopeId) (router : Option RouterId) (world : World H) :
    Tally scope router [] world world where
  written := ⟨[], rfl, List.forall_mem_nil _, rfl⟩
  elsewhere _ _ := rfl
  sent := ⟨[], rfl, (List.append_nil _).symm⟩
  skipped := ⟨[], rfl, List.forall_mem_nil _, (List.append_nil _).symm⟩

theorem append {early late : List Fate} (first : Tally scope router early world middle)
    (second : Tally scope router late middle last) :
    Tally scope router (early ++ late) world last where
  written := by
    obtain ⟨writes, count, addressed, data⟩ := first.written
    obtain ⟨writes', count', addressed', data'⟩ := second.written
    refine ⟨writes ++ writes', ?_, List.forall_mem_append.mpr ⟨addressed, addressed'⟩, ?_⟩
    · rw [List.length_append, List.count_append, count, count']
    · rw [data', data, Fields.writeAll_append]
  elsewhere other differ := (second.elsewhere other differ).trans (first.elsewhere other differ)
  sent := by
    obtain ⟨commands, count, queue⟩ := first.sent
    obtain ⟨commands', count', queue'⟩ := second.sent
    refine ⟨commands ++ commands', ?_, ?_⟩
    · rw [List.length_append, List.count_append, count, count']
    · rw [queue', queue, List.map_append, List.append_assoc]
  skipped := by
    obtain ⟨notices, count, skips, log⟩ := first.skipped
    obtain ⟨notices', count', skips', log'⟩ := second.skipped
    refine ⟨notices ++ notices', ?_, List.forall_mem_append.mpr ⟨skips, skips'⟩, ?_⟩
    · rw [List.length_append, List.count_append, count, count']
    · rw [log', log, List.append_assoc]

/-- The queue and the log tell how many commands were sent and how many records left. -/
theorem lengths {fates : List Fate} (tally : Tally scope router fates world last) :
    last.channel.queue.length = world.channel.queue.length + fates.count .sent ∧
      last.notices.length = world.notices.length + fates.count .skipped := by
  obtain ⟨commands, sent, queue⟩ := tally.sent
  obtain ⟨notices, skipped, -, log⟩ := tally.skipped
  rw [queue, log, List.length_append, List.length_append, List.length_map, sent, skipped]
  exact ⟨rfl, rfl⟩

/-- What was done between two worlds tells the fate of a single instruction. -/
theorem fate_eq {fate other : Fate} (tally : Tally scope router [fate] world last)
    (tally' : Tally scope router [other] world last) : fate = other := by
  have counts := tally.lengths
  have counts' := tally'.lengths
  cases fate <;> cases other <;> first | rfl | (simp at counts counts'; omega)

end Tally

section

variable {scope : ScopeId} {router : Option RouterId} {world next : World H}

/-- A write to a path with a key is all that is done, and leaves no record. -/
theorem tally_stored (world : World H) (scope : ScopeId) (router : Option RouterId) {path : String}
    (addressed : Path.ofText path ≠ []) (value : Value) :
    Tally scope router [.written] world (world.stored scope path value) where
  written := by
    refine ⟨[(Path.ofText path, value)], rfl, List.forall_mem_singleton.mpr addressed, ?_⟩
    rw [World.data_stored, if_pos rfl]
    rfl
  elsewhere other differ := by rw [World.data_stored, if_neg differ]
  sent := ⟨[], rfl, by rw [World.channel_stored]; exact (List.append_nil _).symm⟩
  skipped := by
    refine ⟨[], rfl, List.forall_mem_nil _, ?_⟩
    obtain ⟨key, rest, cut⟩ := List.exists_cons_of_ne_nil addressed
    rw [World.stored, cut]
    exact (List.append_nil _).symm

theorem Meets.tally {instruction : Instruction} {fate : Fate}
    (meets : Meets scope router world instruction fate next) :
    Tally scope router [fate] world next := by
  cases meets with
  | set addressed => exact tally_stored world scope router addressed _
  | append addressed _ => exact tally_stored world scope router addressed _
  | @send name params command _ _ =>
    exact { Tally.none scope router world with
      written := ⟨[], rfl, List.forall_mem_nil _, rfl⟩
      sent := ⟨[command], rfl, rfl⟩
      skipped := ⟨[], rfl, List.forall_mem_nil _, (List.append_nil _).symm⟩
      elsewhere := fun _ _ => rfl }
  | @skip _ notice skipped =>
    exact {
      written := ⟨[], rfl, List.forall_mem_nil _, rfl⟩
      elsewhere := fun _ _ => rfl
      sent := ⟨[], rfl, (List.append_nil _).symm⟩
      skipped := ⟨[notice], rfl, List.forall_mem_singleton.mpr skipped.skips, rfl⟩ }

private theorem executeInstruction_eq (host : Host H) {instruction : Instruction} {effect : Effect}
    (same : Effect.ofInstruction world.alertTitle router.isSome (world.reader scope) instruction =
      effect) :
    executeInstruction host scope router instruction world =
      perform host scope router effect world :=
  same ▸ rfl

/-- To write is a fate, that of a write if the path has a key and that of a skipped instruction if
it has none. -/
private theorem exists_meets_of_write (host : Host H) {instruction : Instruction} {path : String}
    {value : Value} (unheard : (world.scopes.get scope).listeners = [])
    (effect : Effect.ofInstruction world.alertTitle router.isSome (world.reader scope)
      instruction = .write path value)
    (addressed : Path.ofText path ≠ [] →
      Meets scope router world instruction .written (world.stored scope path value))
    (nowhere : Path.ofText path = [] →
      instruction.Skipped router.isSome (world.reader scope) (.emptyPath path)) :
    ∃ fate next, executeInstruction host scope router instruction world = .ok () next ∧
      Meets scope router world instruction fate next := by
  have executed : executeInstruction host scope router instruction world =
      .ok () (world.stored scope path value) :=
    (executeInstruction_eq host effect).trans (write_of_silent host unheard path value)
  by_cases empty : Path.ofText path = []
  · have skipped : world.stored scope path value = world.record [.emptyPath path] := by
      rw [World.stored, empty]
    exact ⟨.skipped, _, executed, skipped ▸ .skip (nowhere empty)⟩
  · exact ⟨.written, _, executed, addressed empty⟩

/-- In a scope that nobody listens to an instruction returns, and meets a fate. -/
theorem exists_meets (host : Host H) (router : Option RouterId) (instruction : Instruction)
    (unheard : (world.scopes.get scope).listeners = []) :
    ∃ fate next, executeInstruction host scope router instruction world = .ok () next ∧
      Meets scope router world instruction fate next := by
  cases instruction with
  | set path node => exact exists_meets_of_write host unheard rfl .set .setNowhere
  | append path node =>
    cases evaluated : Expression.evaluate (world.reader scope) node with
    | mapping entry =>
      refine exists_meets_of_write host unheard ?_ (.append · evaluated) (.appendNowhere evaluated)
      rw [Effect.ofInstruction, evaluated, Effect.ofAppend]
    | _ =>
      have effect : Effect.ofInstruction world.alertTitle router.isSome (world.reader scope)
          (.append path node) =
            .skip (.appendSkipped path (Expression.evaluate (world.reader scope) node)) := by
        rw [Effect.ofInstruction, evaluated]
        rfl
      have other : (Expression.evaluate (world.reader scope) node).mapping? = none := by
        rw [evaluated]
        rfl
      exact ⟨.skipped, _, executeInstruction_eq host effect, .skip (.noMapping other)⟩
  | command name params =>
    have same : Effect.ofInstruction world.alertTitle router.isSome (world.reader scope)
        (.command name params) =
          Effect.ofCommand world.alertTitle router.isSome (world.reader scope) name params := rfl
    rcases Effect.ofCommand_cases world.alertTitle router.isSome (world.reader scope) name params
      with ⟨command, sends⟩ | ⟨notice, skips, reason⟩
    · have effect := same.trans sends
      refine ⟨.sent, _, executeInstruction_eq host effect,
        .send (Effect.sent_ofInstruction effect) fun notice reason => ?_⟩
      cases sends.symm.trans (Effect.ofCommand_of_skipped world.alertTitle reason)
    · exact ⟨.skipped, _, executeInstruction_eq host (same.trans skips), .skip reason⟩
  | unrecognized reason node => exact ⟨.skipped, _, rfl, .skip (.unrecognized reason node)⟩

theorem Meets.unheard {instruction : Instruction} {fate : Fate}
    (meets : Meets scope router world instruction fate next)
    (unheard : (world.scopes.get scope).listeners = []) :
    (next.scopes.get scope).listeners = [] := by
  cases meets with
  | set _ | append _ _ => rw [World.listeners_stored, unheard]
  | send _ _ | skip _ => exact unheard

end

/-- Instructions executed in a scope that nobody listens to meet their fates, and these make up what
is done. -/
theorem exists_fates (host : Host H) {scope : ScopeId} (router : Option RouterId)
    (instructions : List Instruction) {world : World H}
    (unheard : (world.scopes.get scope).listeners = []) :
    ∃ fates last, follow host scope router (instructions.map .step) world = .ok () last ∧
      Fates host scope router instructions fates world last ∧
      Tally scope router fates world last := by
  induction instructions generalizing world with
  | nil => exact ⟨[], world, rfl, .none world, .none scope router world⟩
  | cons instruction rest ih =>
    obtain ⟨fate, next, executed, meets⟩ := exists_meets host router instruction unheard
    obtain ⟨fates, last, followed, met, tally⟩ := ih (meets.unheard unheard)
    refine ⟨fate :: fates, last, ?_, ?_, meets.tally.append tally⟩
    · rw [List.map_cons, follow, bind_of_ok executed, followed]
    · exact .step executed meets (fun other meets' => meets'.tally.fate_eq meets.tally) met

/-- An action that is executed in a scope that nobody listens to returns, and each of its
instructions, at any depth and in order, meets exactly one fate: it writes one value to a path with
a key, or sends one command, or is skipped with one record of the reason and changes nothing else.
Nothing is written, sent or recorded besides. -/
theorem execute_of_fates (host : Host H) (scope : ScopeId) (router : Option RouterId)
    (action : Action) (world : World H) (unheard : (world.scopes.get scope).listeners = []) :
    ∃ fates last, execute host scope router action world = .ok () last ∧
      Fates host scope router action.instructions fates world last ∧
      Tally scope router fates world last := by
  rw [execute_eq_follow]
  exact exists_fates host router action.instructions unheard

/-- Steps of which most are skipped. The first one appends no mapping, and to no path either; the
command after the first write names no screen, and there is no router for it. -/
private def mishaps : Action :=
  .sequence [.single (.append "." (.int 5)), .single (.set "" (.int 5)),
    .sequence [.single (.set "a" (.int 1)),
      .single (.command "navigate" [("screen", .int 3)]),
      .single (.command "navigate" [("screen", .text "b")]),
      .sequence [.single (.command "fly" []),
        .single (.unrecognized (Action.notMapping .null) .null)],
      .single (.command "showAlert" [])],
    .single (.append "log" (.mapping [("at", .mapping [("var", .text "a")])]))]

/-- Two of the nine steps write, one sends, and six leave one record each. -/
theorem execute_of_fates_mishaps :
    ∃ fates last, execute .calm Scopes.main none mishaps (.initial [] "Alerta" [] ()) =
        .ok () last ∧
      Fates .calm Scopes.main none mishaps.instructions fates (.initial [] "Alerta" [] ()) last ∧
      fates.count .sent = 1 ∧ fates.count .skipped = 6 ∧
      last.data Scopes.main =
        [("a", .int 1), ("log", .list [.mapping [("at", .int 1)]])] ∧
      last.notices = [.appendSkipped "." (.int 5), .emptyPath "", .screenNotText "navigate",
        .noRouter "navigate", .unknownCommand "fly",
        .nodeSkipped (Action.notMapping .null) false] := by
  obtain ⟨fates, last, executed, met, tally⟩ := execute_of_fates .calm Scopes.main none mishaps
    (.initial [] "Alerta" [] ()) rfl
  have same : after (execute .calm Scopes.main none mishaps) (.initial [] "Alerta" [] ()) = last :=
    after_of_ok executed
  have counts := tally.lengths
  rw [← same] at counts
  have sent : 1 = 0 + fates.count .sent := counts.1
  have skipped : 6 = 0 + fates.count .skipped := counts.2
  exact ⟨fates, last, executed, met, by omega, by omega, same ▸ rfl, same ▸ rfl⟩

end Eff

end ScreenScript
