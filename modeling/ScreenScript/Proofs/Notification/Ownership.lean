import Mathlib.Data.List.Induction
import ScreenScript.Proofs.Notification.Change

/-! # Whose subscription an unsubscriber ends

Each subscription to a source answers with an unsubscriber of its own, but the source only keeps the
names of those who listen: an unsubscriber removes the first place of its listener, whichever
subscription that place came from, and it does so each time it is called. As long as a listener is
subscribed once this is the place of its own subscription. A `Ledger` keeps beside the world which
subscriptions were made and which unsubscribers were called, and tells who is owed a call: the
listener of each subscription whose own unsubscriber was not called. `calls_of_deeds` says when
those who are called are those who are owed a call: it depends on the calls of unsubscribers alone,
and `Ledger.Own` is the condition on each of them. Listeners do nothing here but be called.
-/

namespace ScreenScript

variable {H : Type}

namespace Source

open Eff

/-- What may be done around a source. Subscriptions are numbered from 0 in the order in which they
are made. -/
inductive Deed where
  | subscribe (listener : String)
  /-- Calls the unsubscriber of the subscription with this number. -/
  | unsubscribe (number : Nat)
  | change (change : Change)
deriving Inhabited, Repr

/-- A world with an account of the subscriptions to a source. -/
structure Ledger (H : Type) where
  /-- The listeners of all subscriptions that were made. -/
  made : List String
  /-- The numbers of the unsubscribers that were called, once for each call. -/
  ended : List Nat
  world : World H

/-- The listeners of those subscriptions, given with their numbers, that were not ended. -/
def living (ended : List Nat) (subscriptions : List (String × Nat)) : List String :=
  (subscriptions.filter fun subscription => subscription.2 ∉ ended).map Prod.fst

namespace Ledger

/-- Those who are owed a call by the first subscriptions, as many as are given: the listener of each
whose own unsubscriber was not called. -/
def owedAmong (ledger : Ledger H) (count : Nat) : List String :=
  living ledger.ended (ledger.made.take count).zipIdx

def owed (ledger : Ledger H) : List String :=
  ledger.owedAmong ledger.made.length

/-- The condition under which the unsubscriber of a subscription ends just this one. It may be
called again only when its listener is owed no call any more, and else nobody but the listener
itself may stand between the first place of the listener and the place of this subscription. -/
structure Own (ledger : Ledger H) (number : Nat) (listener : String) : Prop where
  again : number ∈ ledger.ended → listener ∉ ledger.owed
  first : number ∉ ledger.ended →
    (ledger.owedAmong number).Pairwise fun earlier later => earlier = listener → later = listener

/-- Only calls of unsubscribers can go wrong. -/
def Fair (ledger : Ledger H) : Deed → Prop
  | .unsubscribe number =>
    ∀ listener, ledger.made[number]? = some listener → ledger.Own number listener
  | _ => True

/-- The ledger after a deed. An unsubscriber whose subscription is not made yet cannot be called. -/
def next (host : Host H) (source : Source) (ledger : Ledger H) : Deed → Ledger H
  | .subscribe listener =>
    { ledger with
      made := ledger.made ++ [listener]
      world := after (source.subscribe listener) ledger.world }
  | .unsubscribe number =>
    match ledger.made[number]? with
    | none => ledger
    | some listener =>
      { ledger with
        ended := ledger.ended ++ [number]
        world := after (source.unsubscribe listener) ledger.world }
  | .change change => { ledger with world := after (change.perform host) ledger.world }

end Ledger

/-- The ledger after a history of deeds, none of which was done before. -/
def ledger (host : Host H) (source : Source) (world : World H) (history : List Deed) : Ledger H :=
  history.foldl (Ledger.next host source) ⟨[], [], world⟩

variable {host : Host H} {source : Source} {world : World H}

theorem ledger_append (history : List Deed) (deed : Deed) :
    ledger host source world (history ++ [deed]) =
      (ledger host source world history).next host source deed := by
  simp only [ledger, List.foldl_append, List.foldl_cons, List.foldl_nil]

end Source

namespace Change

open Eff

variable {host : Host H}

/-- Listeners that do nothing are called one after another, all on one and the same world. -/
theorem perform_of_mute (mute : ∀ listener event, host.react listener event = pure ())
    (change : Change) (world : World H) :
    change.perform host world = .ok ()
      { change.made world with
        calls := world.calls ++
          (change.audience world).map (⟨·, change.event (change.made world)⟩) } := by
  have called (now : World H) (audience : List String) :
      callAll host (fun world => change.event world) audience now = .ok ()
        { now with calls := now.calls ++ audience.map (⟨·, change.event now⟩) } := by
    induction audience generalizing now with
    | nil => simp only [callAll, List.map_nil, List.append_nil]; rfl
    | cons listener rest ih =>
      have one : callAll host (fun world => change.event world) (listener :: rest) now =
          callAll host (fun world => change.event world) rest
            { now with calls := now.calls ++ [⟨listener, change.event now⟩] } := by
        rw [callAll, get_bind, mute]
        rfl
      rw [one, ih]
      simp only [event_called, List.map_cons, List.append_assoc, List.singleton_append]
  rw [perform_eq, called, calls_made]

end Change

namespace Source

open Eff

variable {host : Host H} {source : Source} {world : World H}

/-- A removal from the first place leaves what a removal from a given place leaves, exactly when the
same stands everywhere in between. -/
private theorem erase_append_cons_eq_iff (front back : List String) (name : String) :
    (front ++ name :: back).erase name = front ++ back ↔
      front.Pairwise fun earlier later => earlier = name → later = name := by
  -- With the name in front, everything up to the given place moves on by one.
  have shifted (front : List String) :
      front ++ name :: back = name :: (front ++ back) ↔ ∀ later ∈ front, later = name := by
    induction front with
    | nil => simp
    | cons other rest ih =>
      rw [List.forall_mem_cons, ← ih, List.cons_append, List.cons.injEq]
      constructor
      · rintro ⟨rfl, same⟩
        exact ⟨rfl, same⟩
      · rintro ⟨rfl, same⟩
        exact ⟨rfl, same⟩
  induction front with
  | nil => simp
  | cons other rest ih =>
    rw [List.pairwise_cons, List.cons_append, List.cons_append]
    by_cases here : other = name
    · subst here
      rw [List.erase_cons_head, shifted]
      constructor
      · intro all
        refine ⟨fun later member _ => all later member, ?_⟩
        exact List.pairwise_of_forall_mem_list fun _ _ later member _ => all later member
      · rintro ⟨all, -⟩ later member
        exact all later member rfl
    · rw [List.erase_cons_tail (by simpa using here), List.cons_inj_right]
      refine ih.trans ⟨fun rest => ⟨fun _ _ first => absurd first here, rest⟩, And.right⟩

theorem living_append (ended : List Nat) (front back : List (String × Nat)) :
    living ended (front ++ back) = living ended front ++ living ended back := by
  simp only [living, List.filter_append, List.map_append]

/-- Calling an unsubscriber ends no other subscription. -/
private theorem living_ended (ended : List Nat) {number : Nat} {others : List (String × Nat)}
    (away : ∀ other ∈ others, other.2 ≠ number) :
    living (ended ++ [number]) others = living ended others := by
  unfold living
  refine congrArg _ (List.filter_congr fun other member => ?_)
  simp [away other member]

namespace Ledger

/-- Only subscriptions that were made have been ended. -/
private def Sound (ledger : Ledger H) : Prop :=
  ∀ number ∈ ledger.ended, number < ledger.made.length

private theorem owed_subscribe {ledger : Ledger H} (sound : ledger.Sound) (listener : String) :
    (ledger.next host source (.subscribe listener)).owed = ledger.owed ++ [listener] := by
  have fresh : ledger.made.length ∉ ledger.ended := fun ended => Nat.lt_irrefl _ (sound _ ended)
  have all : (ledger.made ++ [listener]).take (ledger.made ++ [listener]).length =
      ledger.made ++ [listener] := List.take_length
  simp only [owed, owedAmong, next, all, List.zipIdx_append, living_append, List.take_length]
  simp [living, fresh]

/-- A subscription that goes on is owed its call behind those that were made before it, and the call
of its unsubscriber takes back just this one. -/
private theorem owed_of_living (host : Host H) (source : Source) (ledger : Ledger H)
    {number : Nat} {listener : String} (made : ledger.made[number]? = some listener)
    (going : number ∉ ledger.ended) :
    ∃ later, ledger.owed = ledger.owedAmong number ++ listener :: later ∧
      (ledger.next host source (.unsubscribe number)).owed = ledger.owedAmong number ++ later := by
  obtain ⟨inside, here⟩ := List.getElem?_eq_some_iff.mp made
  have split : ledger.made.zipIdx = (ledger.made.take number).zipIdx ++
      [(listener, number)] ++ (ledger.made.drop (number + 1)).zipIdx (number + 1) := by
    have parts : ledger.made =
        ledger.made.take number ++ listener :: ledger.made.drop (number + 1) := by
      rw [← here, ← List.drop_eq_getElem_cons, List.take_append_drop]
    conv_lhs => rw [parts]
    simp [List.zipIdx_append, Nat.min_eq_left (Nat.le_of_lt inside)]
  have before : ∀ other ∈ (ledger.made.take number).zipIdx, other.2 ≠ number := by
    intro other member
    have := List.snd_lt_of_mem_zipIdx member
    simp at this
    omega
  have behind : ∀ other ∈ (ledger.made.drop (number + 1)).zipIdx (number + 1),
      other.2 ≠ number := by
    intro other member
    have := List.le_snd_of_mem_zipIdx member
    omega
  refine ⟨living ledger.ended ((ledger.made.drop (number + 1)).zipIdx (number + 1)), ?_, ?_⟩
  · simp only [owed, owedAmong, List.take_length, split, living_append]
    simp [living, going]
  · simp only [next, made, owed, owedAmong, List.take_length, split, living_append,
      living_ended _ before, living_ended _ behind]
    simp [living]

private theorem sound_next {ledger : Ledger H} (sound : ledger.Sound) (deed : Deed) :
    (ledger.next host source deed).Sound := by
  cases deed with
  | subscribe listener =>
    intro number ended
    have := sound number ended
    simp only [next, List.length_append, List.length_singleton]
    omega
  | unsubscribe number =>
    cases made : ledger.made[number]? with
    | none => simpa only [next, made] using sound
    | some listener =>
      intro other ended
      simp only [next, made, List.mem_append, List.mem_singleton] at ended ⊢
      rcases ended with ended | rfl
      · exact sound other ended
      · exact (List.getElem?_eq_some_iff.mp made).1
  | change change => exact sound

/-- Removing the listener of a subscription from those who are owed a call ends this subscription
under the condition that it is the `Own` one. -/
private theorem owed_unsubscribe_iff (ledger : Ledger H) {number : Nat} {listener : String}
    (made : ledger.made[number]? = some listener) :
    ledger.owed.erase listener = (ledger.next host source (.unsubscribe number)).owed ↔
      ledger.Own number listener := by
  by_cases ended : number ∈ ledger.ended
  · have same : (ledger.next host source (.unsubscribe number)).owed = ledger.owed := by
      simp only [next, made, owed, owedAmong, living, List.mem_append, List.mem_singleton]
      refine congrArg _ (List.filter_congr fun other _ => ?_)
      by_cases again : other.2 = number
      · simp [again, ended]
      · simp [again]
    rw [same, List.erase_eq_self_iff]
    exact ⟨fun gone => ⟨fun _ => gone, fun going => absurd ended going⟩, fun own => own.again ended⟩
  · obtain ⟨later, before, behind⟩ := owed_of_living host source ledger made ended
    rw [behind, before, erase_append_cons_eq_iff]
    exact ⟨fun first => ⟨fun again => absurd again ended, fun _ => first⟩,
      fun own => own.first ended⟩

/-- Those who listen after a deed. -/
private theorem listeners_next (mute : ∀ listener event, host.react listener event = pure ())
    (ledger : Ledger H) (deed : Deed) :
    (ledger.next host source deed).world.listeners source =
      match deed with
      | .subscribe listener => ledger.world.listeners source ++ [listener]
      | .unsubscribe number =>
        (ledger.made[number]?).elim (ledger.world.listeners source)
          (ledger.world.listeners source).erase
      | .change _ => ledger.world.listeners source := by
  cases deed with
  | subscribe listener =>
    simp only [next, subscribe_eq, after, World.listeners_relistened]
  | unsubscribe number =>
    cases made : ledger.made[number]? with
    | none => simp only [next, made, Option.elim_none]
    | some listener =>
      simp only [next, made, unsubscribe_eq, after, World.listeners_relistened, Option.elim_some]
  | change change =>
    simp only [next, change.perform_of_mute mute, after]
    exact Change.listeners_made change ledger.world source

/-- Where those who listen are those who are owed a call, they are so after a deed exactly when the
deed is fair. -/
private theorem listeners_next_iff (mute : ∀ listener event, host.react listener event = pure ())
    {ledger : Ledger H} (sound : ledger.Sound) (owed : ledger.world.listeners source = ledger.owed)
    (deed : Deed) :
    (ledger.next host source deed).world.listeners source = (ledger.next host source deed).owed ↔
      ledger.Fair deed := by
  rw [listeners_next mute, owed]
  cases deed with
  | subscribe listener => simp only [Fair, owed_subscribe sound]
  | unsubscribe number =>
    cases made : ledger.made[number]? with
    | none => simp [Fair, next, made]
    | some listener =>
      simp only [made, Option.elim_some, owed_unsubscribe_iff ledger made, Fair,
        Option.some.injEq, forall_eq']
  | change change => simp only [Fair, iff_true]; rfl

private theorem nodup_of_next {ledger : Ledger H} {deed : Deed}
    (once : (ledger.next host source deed).ended.Nodup) : ledger.ended.Nodup := by
  cases deed with
  | subscribe listener => exact once
  | unsubscribe number =>
    cases made : ledger.made[number]? with
    | none => simpa only [next, made] using once
    | some listener =>
      simp only [next, made] at once
      exact (List.nodup_append.mp once).1
  | change change => exact once

/-- As long as no unsubscriber is called twice, those who listen are those who are owed a call, if
perhaps in another order. -/
private theorem perm_next (mute : ∀ listener event, host.react listener event = pure ())
    {ledger : Ledger H} (sound : ledger.Sound)
    (perm : (ledger.world.listeners source).Perm ledger.owed) {deed : Deed}
    (once : (ledger.next host source deed).ended.Nodup) :
    ((ledger.next host source deed).world.listeners source).Perm
      (ledger.next host source deed).owed := by
  rw [listeners_next mute]
  cases deed with
  | subscribe listener =>
    rw [owed_subscribe sound]
    exact perm.append_right _
  | unsubscribe number =>
    cases made : ledger.made[number]? with
    | none => simpa only [next, made, Option.elim_none] using perm
    | some listener =>
      simp only [next, made, List.nodup_append] at once
      have going : number ∉ ledger.ended := fun ended => once.2.2 _ ended _ (by simp) rfl
      obtain ⟨later, before, behind⟩ := owed_of_living host source ledger made going
      rw [before] at perm
      rw [behind]
      simpa [made] using (perm.trans List.perm_middle).erase listener
  | change change => exact perm

end Ledger

private theorem sound_ledger (history : List Deed) :
    (ledger host source world history).Sound := by
  induction history using List.reverseRecOn with
  | nil => simp [ledger, Ledger.Sound]
  | append_singleton history deed ih =>
    rw [ledger_append]
    exact Ledger.sound_next ih deed

/-- A change calls all who listen, once for each of their places. After any history in which nobody
listened before, these are throughout those who are owed a call, exactly when each call of an
unsubscriber was fair. Without a second call of one unsubscriber only their order can differ. -/
theorem calls_of_deeds (mute : ∀ listener event, host.react listener event = pure ())
    (vacant : world.listeners source = []) (history : List Deed) :
    (∀ change : Change, change.source = source →
      let now := (ledger host source world history).world
      change.isEffective now = true →
      after (change.perform host) now = { change.made now with
        calls := now.calls ++
          (now.listeners source).map (⟨·, change.event (change.made now)⟩) }) ∧
    ((∀ early, early <+: history →
        (ledger host source world early).world.listeners source =
          (ledger host source world early).owed) ↔
      ∀ early deed, early ++ [deed] <+: history →
        (ledger host source world early).Fair deed) ∧
    ((ledger host source world history).ended.Nodup →
      ((ledger host source world history).world.listeners source).Perm
        (ledger host source world history).owed) := by
  refine ⟨?_, ?_, ?_⟩
  · intro change at_source now effective
    simp only [change.perform_of_mute mute, after, Change.audience, effective, if_true,
      Change.listeners_made, at_source]
  · induction history using List.reverseRecOn with
    | nil => simp [ledger, Ledger.owed, Ledger.owedAmong, living, vacant]
    | append_singleton history deed ih =>
      have step (owed : (ledger host source world history).world.listeners source =
          (ledger host source world history).owed) :=
        Ledger.listeners_next_iff mute (sound_ledger history) owed deed
      constructor
      · intro owed early last inside
        have fair := ih.mp fun early within => owed early (within.trans (List.prefix_append _ _))
        rcases List.prefix_concat_iff.mp inside with same | within
        · obtain ⟨rfl, rfl⟩ := List.append_inj' same rfl |>.imp id List.singleton_inj.mp
          have now := owed _ (List.prefix_append _ _)
          have after := owed _ List.prefix_rfl
          rw [ledger_append] at after
          exact (step now).mp after
        · exact fair early last within
      · intro fair early inside
        have owed := ih.mpr fun early last within =>
          fair early last (within.trans (List.prefix_append _ _))
        rcases List.prefix_concat_iff.mp inside with rfl | within
        · rw [ledger_append]
          exact (step (owed _ List.prefix_rfl)).mpr (fair _ _ List.prefix_rfl)
        · exact owed early within
  · induction history using List.reverseRecOn with
    | nil => simp [ledger, Ledger.owed, Ledger.owedAmong, living, vacant]
    | append_singleton history deed ih =>
      intro once
      rw [ledger_append] at once ⊢
      exact Ledger.perm_next mute (sound_ledger history) (ih (Ledger.nodup_of_next once)) once

/-- One listener subscribed twice, and the unsubscriber of its first subscription called twice. -/
private def hasty : List Deed :=
  [.subscribe "log", .subscribe "log", .unsubscribe 0, .unsubscribe 0]

private def quiet : World Unit :=
  World.initial [] "Alerta" [] ()

/-- The second call ends the second subscription: its listener is owed a call, and nobody is
called. -/
theorem calls_of_deeds_hasty :
    (∀ listener event, Host.calm.react listener event = (pure () : Eff Unit Unit)) ∧
      quiet.listeners (.scope Scopes.main) = [] ∧
      let ledger := ledger Host.calm (.scope Scopes.main) quiet hasty
      ledger.owed = ["log"] ∧ ledger.world.listeners (.scope Scopes.main) = [] ∧
      (after (Change.perform Host.calm (.write Scopes.main "name" (.text "Ana")))
        ledger.world).calls = [] ∧
      ¬∀ early deed, early ++ [deed] <+: hasty →
        (Source.ledger Host.calm (.scope Scopes.main) quiet early).Fair deed := by
  have mute : ∀ listener event, Host.calm.react listener event = (pure () : Eff Unit Unit) :=
    fun _ _ => rfl
  have vacant : quiet.listeners (.scope Scopes.main) = [] := rfl
  obtain ⟨told, throughout, _⟩ := calls_of_deeds mute vacant hasty
  have effective : (Change.write Scopes.main "name" (.text "Ana")).isEffective
      (ledger Host.calm (.scope Scopes.main) quiet hasty).world = true := by decide
  refine ⟨mute, vacant, rfl, rfl, ?_, fun fair => ?_⟩
  · rw [told _ rfl effective]
    rfl
  · have owed := throughout.mpr fair hasty List.prefix_rfl
    cases owed

end Source

end ScreenScript
