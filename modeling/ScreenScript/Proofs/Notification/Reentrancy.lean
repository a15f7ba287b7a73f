import ScreenScript.Proofs.Notification.Change

/-! # Listeners that make changes themselves

A listener may make further changes when it is called, subscribe others and end subscriptions, and
those who are told of its changes may do so in turn. What happens is a tree: a change has its calls
below it, and a call has the changes that its listener made. `Runs` relates an operation to its
tree, and `Change.told_of_perform` says of each change in it who is called for it, and of the last
change of a source that all who listened then have seen what the source shows in the end.
-/

namespace ScreenScript

variable {H : Type}

/-- What a source has to show to those who listen to it. -/
inductive Display where
  | data (fields : Fields)
  | screens (stack modals : List Screen) (current : Option Screen)

namespace World

def display (world : World H) : Source → Display
  | .scope id => .data (world.data id)
  | .router id =>
    .screens (world.routers id).stack (world.routers id).modals (world.routers id).current?

theorem display_called (world : World H) (calls : List Call) :
    display { world with calls := calls } = world.display := by
  funext source
  cases source <;> rfl

end World

/-- What a listener may do that nobody is told of. -/
inductive Aside (H : Type) where
  | subscribe (source : Source) (listener : String)
  /-- Calls the unsubscriber of a subscription of this listener. -/
  | unsubscribe (source : Source) (listener : String)
  | preload (router : RouterId) (screens : List Screen)
  /-- Changes the state of the host program. -/
  | remember (change : H → H)

/-- What a listener does when it is called. -/
inductive Reaction (H : Type) where
  | done
  /-- Looks at the world, and goes on as that asks for. -/
  | look (next : World H → Reaction H)
  | aside (step : Aside H) (next : Reaction H)
  | make (change : Change) (next : Reaction H)

namespace Aside

def perform : Aside H → Eff H Unit
  | .subscribe source listener => source.subscribe listener
  | .unsubscribe source listener => source.unsubscribe listener
  | .preload router screens => Eff.preload router screens
  | .remember change => modify fun world => { world with host := change world.host }

/-- The world after something that nobody is told of. It shows what it showed before. -/
theorem exists_perform_eq (step : Aside H) (world : World H) :
    ∃ next, step.perform world = .ok () next ∧ next.calls = world.calls ∧
      next.display = world.display := by
  have relistened (source : Source) (change : List String → List String) :
      (world.relistened source change).display = world.display := by
    funext other
    cases source <;> cases other <;>
      simp only [World.relistened, World.display, World.data_mapScope, World.routers_mapRouter]
    · split <;> rfl
    · rfl
    · rfl
    · split <;> rfl
  cases step with
  | subscribe source listener =>
    exact ⟨_, source.subscribe_eq listener world, World.calls_relistened .., relistened ..⟩
  | unsubscribe source listener =>
    exact ⟨_, source.unsubscribe_eq listener world, World.calls_relistened .., relistened ..⟩
  | preload router screens =>
    refine ⟨_, rfl, rfl, funext fun other => ?_⟩
    cases other with
    | scope id => rfl
    | router id =>
      simp only [World.display, World.routers_mapRouter]
      split <;> rfl
  | remember change => exact ⟨_, rfl, rfl, funext fun other => by cases other <;> rfl⟩

end Aside

def Reaction.perform (host : Host H) : Reaction H → Eff H Unit
  | .done => return ()
  | .look next => do
    let world ← get
    (next world).perform host
  | .aside step next => do
    step.perform
    next.perform host
  | .make change next => do
    change.perform host
    next.perform host

/-- The host whose listeners react as given. A listener that is called by the change of a listener,
and so on, may be so many calls deep; a call that is deeper fails, so that a run that succeeds has
none. -/
def Host.nested (reactions : String → Event → Reaction H) (presenter : Presenter) : Nat → Host H
  | 0 => ⟨fun _ _ => throw .unsettled, presenter⟩
  | depth + 1 =>
    ⟨fun listener event => (reactions listener event).perform (nested reactions presenter depth),
      presenter⟩

/-- A change or a call, with all that came of it. -/
inductive Happening (H : Type) where
  | made (change : Change) (before after : World H) (calls : List (Happening H))
  | called (listener : String) (event : Event) (seen : World H) (changes : List (Happening H))

namespace Happening

mutual

/-- A happening and all below it, in the order in which they began. -/
def all : Happening H → List (Happening H)
  | .made change before after calls => .made change before after calls :: allOf calls
  | .called listener event seen changes => .called listener event seen changes :: allOf changes

def allOf : List (Happening H) → List (Happening H)
  | [] => []
  | happening :: rest => happening.all ++ allOf rest

end

/-- What came of a happening right away. -/
def parts : Happening H → List (Happening H)
  | .made _ _ _ calls => calls
  | .called _ _ _ changes => changes

def call? : Happening H → Option Call
  | .made .. => none
  | .called listener event _ _ => some ⟨listener, event⟩

def listener? (happening : Happening H) : Option String :=
  happening.call?.map Call.listener

/-- The world as a listener saw it when it was called. -/
def seen? : Happening H → Option (World H)
  | .made .. => none
  | .called _ _ seen _ => some seen

/-- Whether a source was changed. -/
def Alters (source : Source) : Happening H → Prop
  | .made change before _ _ => change.source = source ∧ change.isEffective before = true
  | .called .. => False

theorem all_eq (happening : Happening H) : happening.all = happening :: allOf happening.parts := by
  cases happening <;> simp only [all, parts]

theorem allOf_append (front back : List (Happening H)) :
    allOf (front ++ back) = allOf front ++ allOf back := by
  induction front with
  | nil => simp only [List.nil_append, allOf]
  | cons happening rest ih => simp only [List.cons_append, allOf, ih, List.append_assoc]

theorem allOf_singleton (happening : Happening H) :
    allOf [happening] = happening :: allOf happening.parts := by
  simp only [allOf, all_eq, List.append_nil]

theorem mem_allOf {happening : Happening H} {happenings : List (Happening H)}
    (member : happening ∈ happenings) : happening ∈ allOf happenings := by
  obtain ⟨front, back, rfl⟩ := List.append_of_mem member
  rw [allOf_append, allOf, all_eq]
  simp

end Happening

/-- What can be under way while a change is told. -/
inductive Task (H : Type) where
  | make (change : Change)
  /-- The rest of those who are told of a change. -/
  | tell (change : Change) (listeners : List String)
  | react (reaction : Reaction H)

def Task.perform (host : Host H) : Task H → Eff H Unit
  | .make change => change.perform host
  | .tell change listeners => Eff.callAll host (fun world => change.event world) listeners
  | .react reaction => reaction.perform host

open Happening in
/-- A task leads from a world to another, and this is what happens on the way. -/
inductive Runs (reactions : String → Event → Reaction H) :
    Task H → World H → List (Happening H) → World H → Prop
  | make {change : Change} {world last : World H} {calls : List (Happening H)}
      (told :
        Runs reactions (.tell change (change.audience world)) (change.made world) calls last) :
      Runs reactions (.make change) world [.made change world last calls] last
  | told {change : Change} {world : World H} : Runs reactions (.tell change []) world [] world
  | tell {change : Change} {listener : String} {others : List String}
      {world seen middle last : World H} {changes calls : List (Happening H)}
      (called : seen = { world with
        calls := world.calls ++ [⟨listener, change.event world⟩] })
      (reacts :
        Runs reactions (.react (reactions listener (change.event world))) seen changes middle)
      (rest : Runs reactions (.tell change others) middle calls last) :
      Runs reactions (.tell change (listener :: others)) world
        (.called listener (change.event world) seen changes :: calls) last
  | done {world : World H} : Runs reactions (.react .done) world [] world
  | look {next : World H → Reaction H} {world last : World H} {changes : List (Happening H)}
      (rest : Runs reactions (.react (next world)) world changes last) :
      Runs reactions (.react (.look next)) world changes last
  | aside {step : Aside H} {next : Reaction H} {world middle last : World H}
      {changes : List (Happening H)} (done : step.perform world = .ok () middle)
      (rest : Runs reactions (.react next) middle changes last) :
      Runs reactions (.react (.aside step next)) world changes last
  | makes {change : Change} {next : Reaction H} {world middle last : World H}
      {first later : List (Happening H)}
      (below : Runs reactions (.make change) world first middle)
      (rest : Runs reactions (.react next) middle later last) :
      Runs reactions (.react (.make change next)) world (first ++ later) last

section

open Eff

variable {reactions : String → Event → Reaction H} {host other : Host H}

/-- What holds of the reactions of all listeners holds of all tasks. -/
private theorem Task.runs_of_perform
    (reacts : ∀ listener event world last, host.react listener event world = .ok () last →
      ∃ changes, Runs reactions (.react (reactions listener event)) world changes last)
    (task : Task H) {world last : World H} (ran : task.perform host world = .ok () last) :
    ∃ happenings, Runs reactions task world happenings last := by
  have tells (change : Change) (listeners : List String) {world last : World H}
      (ran : callAll host (fun world => change.event world) listeners world = .ok () last) :
      ∃ calls, Runs reactions (.tell change listeners) world calls last := by
    induction listeners generalizing world with
    | nil =>
      cases ran
      exact ⟨[], .told⟩
    | cons listener rest ih =>
      rw [callAll, get_bind] at ran
      obtain ⟨_, seen, marked, ran⟩ := bind_eq_ok_iff.mp ran
      obtain ⟨_, middle, reacted, ran⟩ := bind_eq_ok_iff.mp ran
      obtain ⟨changes, below⟩ := reacts _ _ _ _ reacted
      obtain ⟨calls, later⟩ := ih ran
      cases marked
      exact ⟨_, .tell rfl below later⟩
  have makes (change : Change) {world last : World H}
      (ran : change.perform host world = .ok () last) :
      ∃ happenings, Runs reactions (.make change) world happenings last := by
    rw [change.perform_eq] at ran
    obtain ⟨calls, told⟩ := tells change _ ran
    exact ⟨_, .make told⟩
  cases task with
  | make change => exact makes change ran
  | tell change listeners => exact tells change listeners ran
  | react reaction =>
    change reaction.perform host world = .ok () last at ran
    induction reaction generalizing world with
    | done =>
      cases ran
      exact ⟨[], .done⟩
    | look next ih =>
      rw [Reaction.perform, get_bind] at ran
      obtain ⟨changes, rest⟩ := ih world ran
      exact ⟨changes, .look rest⟩
    | aside step next ih =>
      obtain ⟨_, middle, done, ran⟩ := bind_eq_ok_iff.mp ran
      obtain ⟨changes, rest⟩ := ih ran
      exact ⟨changes, .aside done rest⟩
    | make change next ih =>
      obtain ⟨_, middle, made, ran⟩ := bind_eq_ok_iff.mp ran
      obtain ⟨first, below⟩ := makes change made
      obtain ⟨later, rest⟩ := ih ran
      exact ⟨_, .makes below rest⟩

/-- A host in which more reactions succeed has more tasks succeed, and all in the same way. -/
private theorem Task.perform_mono
    (more : ∀ listener event world last, host.react listener event world = .ok () last →
      other.react listener event world = .ok () last)
    (task : Task H) {world last : World H} (ran : task.perform host world = .ok () last) :
    task.perform other world = .ok () last := by
  have tells (change : Change) (listeners : List String) {world last : World H}
      (ran : callAll host (fun world => change.event world) listeners world = .ok () last) :
      callAll other (fun world => change.event world) listeners world = .ok () last := by
    induction listeners generalizing world with
    | nil => exact ran
    | cons listener rest ih =>
      rw [callAll, get_bind] at ran ⊢
      obtain ⟨_, seen, marked, ran⟩ := bind_eq_ok_iff.mp ran
      obtain ⟨_, middle, reacted, ran⟩ := bind_eq_ok_iff.mp ran
      rw [bind_of_ok marked, bind_of_ok (more _ _ _ _ reacted)]
      exact ih ran
  have makes (change : Change) {world last : World H}
      (ran : change.perform host world = .ok () last) :
      change.perform other world = .ok () last := by
    rw [change.perform_eq] at ran ⊢
    exact tells change _ ran
  cases task with
  | make change => exact makes change ran
  | tell change listeners => exact tells change listeners ran
  | react reaction =>
    change reaction.perform host world = .ok () last at ran
    change reaction.perform other world = .ok () last
    induction reaction generalizing world with
    | done => exact ran
    | look next ih =>
      rw [Reaction.perform, get_bind] at ran ⊢
      exact ih world ran
    | aside step next ih =>
      obtain ⟨_, middle, done, ran⟩ := bind_eq_ok_iff.mp ran
      exact bind_eq_ok_iff.mpr ⟨_, middle, done, ih ran⟩
    | make change next ih =>
      obtain ⟨_, middle, made, ran⟩ := bind_eq_ok_iff.mp ran
      exact bind_eq_ok_iff.mpr ⟨_, middle, makes change made, ih ran⟩

variable {presenter : Presenter}

theorem Task.runs_of_nested (task : Task H) {depth : Nat} {world last : World H}
    (ran : task.perform (.nested reactions presenter depth) world = .ok () last) :
    ∃ happenings, Runs reactions task world happenings last := by
  induction depth generalizing task world last with
  | zero =>
    refine task.runs_of_perform ?_ ran
    intro listener event world last reacted
    cases reacted
  | succ depth ih => exact task.runs_of_perform (fun listener event _ _ => ih (.react _)) ran

/-- How deep calls may be makes no difference to a run that succeeds. -/
theorem Task.nested_succ (task : Task H) {depth : Nat} {world last : World H}
    (ran : task.perform (.nested reactions presenter depth) world = .ok () last) :
    task.perform (.nested reactions presenter (depth + 1)) world = .ok () last := by
  induction depth generalizing task world last with
  | zero =>
    refine task.perform_mono ?_ ran
    intro listener event world last reacted
    cases reacted
  | succ depth ih => exact task.perform_mono (fun listener event _ _ => ih (.react _)) ran

end

namespace Runs

open Eff Happening

variable {reactions : String → Event → Reaction H} {task : Task H} {world last : World H}
  {happenings : List (Happening H)}

/-- The record of calls has each call of the tree, in the order in which they began. -/
theorem calls_eq (runs : Runs reactions task world happenings last) :
    last.calls = world.calls ++ (allOf happenings).filterMap call? := by
  induction runs with
  | make told ih =>
    rw [allOf_singleton, List.filterMap_cons_none rfl, ih, Change.calls_made]
    rfl
  | told => simp [allOf]
  | tell called reacts rest below later =>
    subst called
    simp [later, below, allOf, Happening.all, call?]
  | done => simp [allOf]
  | look rest ih => exact ih
  | @aside step _ world _ _ _ done rest ih =>
    obtain ⟨next, performed, same, _⟩ := step.exists_perform_eq world
    cases done.symm.trans performed
    rw [ih, same]
  | makes below rest first later => simp [later, first, allOf_append]

/-- Those who are told are called one after another. -/
theorem listeners_of_tell {change : Change} {listeners : List String}
    (runs : Runs reactions (.tell change listeners) world happenings last) :
    happenings.map listener? = listeners.map some := by
  induction listeners generalizing world happenings with
  | nil =>
    cases runs
    rfl
  | cons listener others ih =>
    cases runs with
    | tell called reacts rest =>
      simp only [List.map_cons, ih rest, listener?, call?, Option.map_some]

private theorem append_eq_append_cons {α : Type} {front back early late : List α} {middle : α}
    (split : front ++ back = early ++ middle :: late) :
    (∃ more, front = early ++ middle :: more ∧ late = more ++ back) ∨
      ∃ skipped, early = front ++ skipped ∧ back = skipped ++ middle :: late := by
  rcases List.append_eq_append_iff.mp split with ⟨skipped, ahead, behind⟩ | ⟨more, ahead, behind⟩
  · exact .inr ⟨skipped, ahead, behind⟩
  · cases more with
    | nil => exact .inr ⟨[], by simpa using ahead.symm, by simpa using behind.symm⟩
    | cons first more =>
      rw [List.cons_append, List.cons.injEq] at behind
      obtain ⟨rfl, rfl⟩ := behind
      exact .inl ⟨more, ahead, rfl⟩

/-- Each change among the happenings calls its own audience, and does so before anything happens
that is not below it. -/
theorem told_of_split (runs : Runs reactions task world happenings last) {change : Change}
    {before after : World H} {early calls late : List (Happening H)}
    (split : allOf happenings = early ++ .made change before after calls :: late) :
    Runs reactions (.tell change (change.audience before)) (change.made before) calls after ∧
      allOf calls <+: late := by
  induction runs generalizing early late with
  | make told ih =>
    rw [allOf_singleton] at split
    cases early with
    | nil =>
      cases split
      exact ⟨told, List.prefix_rfl⟩
    | cons _ early =>
      rw [List.cons_append, List.cons.injEq] at split
      exact ih split.2
  | told | done => simp [allOf] at split
  | tell called reacts rest below later =>
    rw [allOf] at split
    rcases append_eq_append_cons split with ⟨more, ahead, rfl⟩ | ⟨skipped, -, behind⟩
    · rw [all_eq] at ahead
      cases early with
      | nil => simp at ahead
      | cons _ early =>
        rw [List.cons_append, List.cons.injEq] at ahead
        obtain ⟨told, first⟩ := below ahead.2
        exact ⟨told, first.trans (List.prefix_append _ _)⟩
    · exact later behind
  | look rest ih => exact ih split
  | aside done rest ih => exact ih split
  | makes below rest first later =>
    rw [allOf_append] at split
    rcases append_eq_append_cons split with ⟨more, ahead, rfl⟩ | ⟨skipped, -, behind⟩
    · obtain ⟨told, inside⟩ := first ahead
      exact ⟨told, inside.trans (List.prefix_append _ _)⟩
    · exact later behind

/-- After its last change a source shows what it shows in the end, also to all who are called. -/
private def Settles (source : Source) (world : World H) (all : List (Happening H))
    (last : World H) : Prop :=
  ∀ early late, all = early ++ late → (∀ happening ∈ late, ¬happening.Alters source) →
    (early = [] → world.display source = last.display source) ∧
      ∀ happening ∈ late, ∀ seen, happening.seen? = some seen →
        seen.display source = last.display source

section

variable {source : Source} {middle : World H}

private theorem settles_nil : Settles source world [] world := by
  intro early late split _
  obtain ⟨rfl, rfl⟩ := List.append_eq_nil_iff.mp split.symm
  exact ⟨fun _ => rfl, by simp⟩

private theorem Settles.cons {happening : Happening H} {all : List (Happening H)}
    (kept : ¬happening.Alters source → world.display source = middle.display source)
    (sees : ∀ seen, happening.seen? = some seen → seen.display source = middle.display source)
    (rest : Settles source middle all last) : Settles source world (happening :: all) last := by
  intro early late split quiet
  cases early with
  | nil =>
    subst split
    rw [List.forall_mem_cons] at quiet
    obtain ⟨same, settled⟩ := rest [] all rfl quiet.2
    refine ⟨fun _ => (kept quiet.1).trans (same rfl), ?_⟩
    rw [List.forall_mem_cons]
    exact ⟨fun seen saw => (sees seen saw).trans (same rfl), settled⟩
  | cons _ early =>
    rw [List.cons_append, List.cons.injEq] at split
    exact ⟨nofun, (rest early late split.2 quiet).2⟩

private theorem Settles.append {front back : List (Happening H)}
    (first : Settles source world front middle) (second : Settles source middle back last) :
    Settles source world (front ++ back) last := by
  intro early late split quiet
  rcases List.append_eq_append_iff.mp split with ⟨skipped, rfl, behind⟩ | ⟨more, rfl, rfl⟩
  · obtain ⟨same, settled⟩ := second skipped late behind quiet
    refine ⟨fun empty => ?_, settled⟩
    obtain ⟨rfl, rfl⟩ := List.append_eq_nil_iff.mp empty
    exact ((first [] [] rfl (by simp)).1 rfl).trans (same rfl)
  · rw [List.forall_mem_append] at quiet
    obtain ⟨same, settled⟩ := first early more rfl quiet.1
    obtain ⟨on, later⟩ := second [] back rfl quiet.2
    refine ⟨fun empty => (same empty).trans (on rfl), ?_⟩
    rw [List.forall_mem_append]
    exact ⟨fun happening member seen saw => (settled happening member seen saw).trans (on rfl),
      later⟩

private theorem Settles.of_display {all : List (Happening H)}
    (same : world.display source = middle.display source)
    (settles : Settles source middle all last) : Settles source world all last := by
  intro early late split quiet
  obtain ⟨on, settled⟩ := settles early late split quiet
  exact ⟨fun empty => same.trans (on empty), settled⟩

end

/-- A change that does not come about, or one of another source, leaves a source as it shows. -/
private theorem display_made {change : Change} {source : Source}
    (elsewhere : ¬(change.source = source ∧ change.isEffective world = true)) :
    world.display source = (change.made world).display source := by
  cases effective : change.isEffective world with
  | false =>
    rcases change.made_of_refused effective with same | ⟨path, -, same⟩
    · rw [same]
    · rw [same]
      cases source <;> rfl
  | true =>
    have other : change.source ≠ source := fun same => elsewhere ⟨same, effective⟩
    cases change with
    | write scope path value =>
      cases source with
      | scope id =>
        have differ : id ≠ scope := fun same => other (congrArg Source.scope same.symm)
        simp only [World.display, Change.made, World.data_stored, differ, if_false]
      | router id => simp only [World.display, Change.made, World.routers_stored]
    | move router step =>
      cases source with
      | scope id => simp only [World.display, Change.made, World.data, World.scopes_moved]
      | router id =>
        have differ : id ≠ router := fun same => other (congrArg Source.router same.symm)
        simp only [World.display, Change.made, World.routers_moved, differ, if_false]

private theorem settles (runs : Runs reactions task world happenings last) (source : Source) :
    Settles source world (allOf happenings) last := by
  induction runs with
  | make told ih =>
    rw [allOf_singleton]
    exact .cons (fun elsewhere => display_made elsewhere) (fun _ saw => by cases saw) ih
  | told | done => exact settles_nil
  | tell called reacts rest below later =>
    subst called
    rw [allOf, all_eq]
    refine .append (.cons (fun _ => ?_) ?_ below) later
    · exact congrFun (World.display_called _ _).symm source
    · intro seen saw
      cases saw
      rfl
  | look rest ih => exact ih
  | @aside step _ world _ _ _ done rest ih =>
    obtain ⟨next, performed, _, same⟩ := step.exists_perform_eq world
    cases done.symm.trans performed
    exact .of_display (by rw [same]) ih
  | makes below rest first later =>
    rw [allOf_append]
    exact first.append later

end Runs

/-- Who was called at all was called for a last time. -/
private theorem exists_last_called {happenings : List (Happening H)} {listener : String}
    (called : ∃ happening ∈ happenings, happening.listener? = some listener) :
    ∃ before event seen changes after,
      happenings = before ++ .called listener event seen changes :: after ∧
      ∀ happening ∈ after, happening.listener? ≠ some listener := by
  induction happenings with
  | nil => simp at called
  | cons first rest ih =>
    by_cases again : ∃ happening ∈ rest, happening.listener? = some listener
    · obtain ⟨before, event, seen, changes, after, rfl, never⟩ := ih again
      exact ⟨first :: before, event, seen, changes, after, rfl, never⟩
    · obtain ⟨happening, member, name⟩ := called
      have here : first.listener? = some listener := by
        rcases List.mem_cons.mp member with rfl | later
        · exact name
        · exact absurd ⟨happening, later, name⟩ again
      cases first with
      | made => cases here
      | called other event seen changes =>
        cases here
        exact ⟨[], event, seen, changes, rest, rfl,
          fun happening member name => again ⟨happening, member, name⟩⟩

open Happening in
/-- A change whose listeners make changes themselves, and which ends, ends in the same way however
deep calls may be. Each change below it that comes about calls all who listen right after it, once
for each of their places and in their order; one that does not come about calls nobody and changes
nothing, except that a write without a key leaves a notice. When a source was changed for the last
time, all who listened then are called, and when they are called for the last time they see what the
source shows in the end. -/
theorem Change.told_of_perform (reactions : String → Event → Reaction H) (presenter : Presenter)
    (depth : Nat) (change : Change) {world last : World H}
    (ran : change.perform (.nested reactions presenter depth) world = .ok () last) :
    (∀ more, change.perform (.nested reactions presenter (depth + more)) world = .ok () last) ∧
      ∃ happenings, Runs reactions (.make change) world happenings last ∧
        last.calls = world.calls ++ (allOf happenings).filterMap call? ∧
        (∀ change before after calls, .made change before after calls ∈ allOf happenings →
          (change.isEffective before = true →
            calls.map listener? =
              ((change.made before).listeners change.source).map some) ∧
          (change.isEffective before = false →
            calls = [] ∧ (after = before ∨
              ∃ path, Path.ofText path = [] ∧ after = before.record [.emptyPath path]))) ∧
        ∀ early change before after calls late,
          allOf happenings = early ++ .made change before after calls :: late →
          change.isEffective before = true →
          (∀ happening ∈ late, ¬happening.Alters change.source) →
          ∀ listener ∈ (change.made before).listeners change.source,
            ∃ between event seen changes rest,
              late = between ++ .called listener event seen changes :: rest ∧
              (∀ happening ∈ rest, happening.listener? ≠ some listener) ∧
              seen.display change.source = last.display change.source := by
  obtain ⟨happenings, runs⟩ := (Task.make change).runs_of_nested ran
  refine ⟨fun more => ?deeper, happenings, runs, runs.calls_eq, ?told, ?latest⟩
  case deeper =>
    induction more with
    | zero => exact ran
    | succ more ih => exact (Task.make change).nested_succ ih
  case told =>
    intro change before after calls member
    obtain ⟨early, late, split⟩ := List.append_of_mem member
    obtain ⟨told, -⟩ := runs.told_of_split split
    constructor
    · intro effective
      rw [told.listeners_of_tell, Change.audience, effective, if_pos rfl]
    · intro refused
      rw [Change.audience, refused, if_neg Bool.false_ne_true] at told
      cases told
      exact ⟨rfl, change.made_of_refused refused⟩
  case latest =>
    intro early change before after calls late split effective quiet listener listens
    obtain ⟨told, inside⟩ := runs.told_of_split split
    have listed := told.listeners_of_tell
    rw [Change.audience, effective, if_pos rfl] at listed
    -- The listener has a call of its own below the change, and so one after the change began.
    obtain ⟨call, called, name⟩ := List.mem_map.mp (listed ▸ List.mem_map_of_mem listens)
    obtain ⟨between, event, seen, changes, rest, rfl, never⟩ :=
      exists_last_called ⟨call, inside.subset (mem_allOf called), name⟩
    have settled := (runs.settles change.source (early ++ [.made change before after calls]) _
      (by simpa using split) quiet).2
    have here : Happening.called listener event seen changes ∈
        between ++ .called listener event seen changes :: rest :=
      List.mem_append_right _ List.mem_cons_self
    exact ⟨between, event, seen, changes, rest, rfl, never, settled _ here seen rfl⟩

private def screen (id : String) : Screen :=
  ⟨id, [], none, .null⟩

/-- One listener presents the login over the home screen, and the other only listens. -/
private def guarding : String → Event → Reaction Unit
  | "guard", .moved (some "home") => .make (.move World.mainRouter (.push (screen "login"))) .done
  | _, _ => .done

private def guarded : World Unit :=
  (World.initial [] "Alerta" [] ()).mapRouter World.mainRouter
    fun router => { router with listeners := ["guard", "log"] }

private def goHome : Change :=
  .move World.mainRouter (.push (screen "home"))

open Happening in
/-- The login is told to both before the other one hears of the home screen, which is covered by
then. -/
theorem Change.told_of_perform_guarded :
    ∃ last, goHome.perform (.nested guarding .logging 2) guarded = .ok () last ∧
      goHome.perform (.nested guarding .logging 7) guarded = .ok () last ∧
      last.calls = [⟨"guard", .moved (some "home")⟩, ⟨"guard", .moved (some "login")⟩,
        ⟨"log", .moved (some "login")⟩, ⟨"log", .moved (some "login")⟩] ∧
      ∃ happenings, Runs guarding (.make goHome) guarded happenings last ∧
        (allOf happenings).filterMap call? = last.calls := by
  have ran : goHome.perform (.nested guarding .logging 2) guarded =
      .ok () (Eff.after (goHome.perform (.nested guarding .logging 2)) guarded) := rfl
  obtain ⟨deeper, happenings, runs, calls, -⟩ := told_of_perform guarding .logging 2 goHome ran
  exact ⟨_, ran, deeper 5, rfl, happenings, runs, calls.symm⟩

end ScreenScript
