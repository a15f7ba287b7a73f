import ScreenScript.Proofs.Path.ReadAfterWrite

/-! # Writes to paths apart from each other

Two paths are apart when neither leads on from the other. Writes to such paths may change places:
both make the mappings on their common way, each leaves alone what the other one wrote, and only
the order in which new keys came in can tell which was first. `Fields.Reordered` is equality up to
that order, and further writes respect it. What is read at a path apart from all writes is not even
reordered.
-/

namespace ScreenScript

namespace Keyed

variable {α : Type}

theorem mem_keys_cons {entry : String × α} {entries : List (String × α)} {key : String} :
    key ∈ keys (entry :: entries) ↔ key = entry.1 ∨ key ∈ keys entries :=
  List.mem_cons

theorem get?_append (front back : List (String × α)) (key : String) :
    get? (front ++ back) key = if key ∈ keys front then get? front key else get? back key := by
  induction front with
  | nil => rfl
  | cons entry front ih =>
    by_cases same : entry.1 = key
    · simp [get?, mem_keys_cons, same]
    · simp [get?, mem_keys_cons, same, Ne.symm same, ih]

/-- Entries under different keys may change places before one of them is read. -/
theorem get?_swap (front back : List (String × α)) {first second : String × α}
    (differ : first.1 ≠ second.1) (key : String) :
    get? (front ++ first :: second :: back) key = get? (front ++ second :: first :: back) key := by
  rw [get?_append, get?_append]
  by_cases here : first.1 = key
  · have elsewhere : second.1 ≠ key := fun same => differ (here.trans same.symm)
    simp only [get?, here, elsewhere, ↓reduceIte]
  · simp only [get?, here, ↓reduceIte]

theorem put_append (front back : List (String × α)) (key : String) (value : α) :
    put (front ++ back) key value =
      if key ∈ keys front then put front key value ++ back else front ++ put back key value := by
  induction front with
  | nil => rfl
  | cons entry front ih =>
    by_cases same : entry.1 = key
    · simp [put, mem_keys_cons, same]
    · by_cases member : key ∈ keys front <;>
        simp [put, mem_keys_cons, same, Ne.symm same, ih, member]

/-- Of two values put under one key the later one stays, in the place of the key. -/
theorem put_put (entries : List (String × α)) (key : String) (value later : α) :
    put (put entries key value) key later = put entries key later := by
  induction entries with
  | nil => simp [put]
  | cons entry rest ih =>
    by_cases same : entry.1 = key <;> simp [put, same, ih]

end Keyed

namespace Fields

/-- The same entries in another order: entries under different keys may change places, at the root
and in every mapping below it that is reached by keys. -/
inductive Reordered : Fields → Fields → Prop
  | refl (fields : Fields) : Reordered fields fields
  | swap (front back : Fields) {first second : String × Value} (differ : first.1 ≠ second.1) :
      Reordered (front ++ first :: second :: back) (front ++ second :: first :: back)
  | within (front back : Fields) (key : String) {inner inner' : Fields}
      (inside : Reordered inner inner') :
      Reordered (front ++ (key, .mapping inner) :: back) (front ++ (key, .mapping inner') :: back)
  | trans {first middle last : Fields} (left : Reordered first middle)
      (right : Reordered middle last) : Reordered first last

namespace Reordered

theorem cons (entry : String × Value) {fields fields' : Fields}
    (reordered : Reordered fields fields') : Reordered (entry :: fields) (entry :: fields') := by
  induction reordered with
  | refl fields => exact .refl _
  | swap front back differ => exact .swap (entry :: front) back differ
  | within front back key inside => exact .within (entry :: front) back key inside
  | trans _ _ left right => exact left.trans right

/-- Reordering below a key. -/
theorem put_mapping (fields : Fields) (key : String) {inner inner' : Fields}
    (inside : Reordered inner inner') :
    Reordered (Keyed.put fields key (.mapping inner))
      (Keyed.put fields key (.mapping inner')) := by
  induction fields with
  | nil => exact .within [] [] key inside
  | cons entry rest ih =>
    rw [Keyed.put, Keyed.put]
    split
    · exact .within [] rest key inside
    · exact ih.cons entry

/-- Two keys may be put in either order. -/
theorem put_put (fields : Fields) {key other : String} (differ : key ≠ other)
    (value value' : Value) :
    Reordered (Keyed.put (Keyed.put fields key value) other value')
      (Keyed.put (Keyed.put fields other value') key value) := by
  have differ' : other ≠ key := Ne.symm differ
  induction fields with
  | nil =>
    have swapped : Reordered [(key, value), (other, value')] [(other, value'), (key, value)] :=
      .swap [] [] differ
    simpa [Keyed.put, differ, differ'] using swapped
  | cons entry rest ih =>
    by_cases here : entry.1 = key
    · have elsewhere : entry.1 ≠ other := fun same => differ (here.symm.trans same)
      simp only [Keyed.put, here, differ, ↓reduceIte]
      exact .refl _
    · by_cases there : entry.1 = other
      · simp only [Keyed.put, there, differ', ↓reduceIte]
        exact .refl _
      · simp only [Keyed.put, here, there, ↓reduceIte]
        exact ih.cons entry

/-- A key may be put before or after neighbours change places. -/
private theorem put_swap (front back : Fields) {first second : String × Value}
    (differ : first.1 ≠ second.1) (key : String) (value : Value) :
    Reordered (Keyed.put (front ++ first :: second :: back) key value)
      (Keyed.put (front ++ second :: first :: back) key value) := by
  rw [Keyed.put_append, Keyed.put_append]
  split
  · exact .swap _ back differ
  · by_cases here : first.1 = key
    · have elsewhere : second.1 ≠ key := fun same => differ (here.trans same.symm)
      have apart : (key, value).1 ≠ second.1 := Ne.symm elsewhere
      simp only [Keyed.put, here, elsewhere, ↓reduceIte]
      exact .swap front back apart
    · by_cases there : second.1 = key
      · have apart : first.1 ≠ (key, value).1 := here
        simp only [Keyed.put, here, there, ↓reduceIte]
        exact .swap front back apart
      · simp only [Keyed.put, here, there, ↓reduceIte]
        exact .swap front _ differ

end Reordered

/-- The mapping that was put under a key stands there. -/
theorem mappingAt_put (fields : Fields) (key : String) (inner : Fields) :
    mappingAt (Keyed.put fields key (.mapping inner)) key = inner := by
  simp [mappingAt, Keyed.get?_put, Value.mapping?]

/-- What a write puts under a key depends on the mapping there alone. -/
theorem branch_congr {fields fields' : Fields} {key : String}
    (same : Keyed.get? fields key = Keyed.get? fields' key) (rest : Path) (value : Value) :
    fields.branch key rest value = fields'.branch key rest value := by
  cases rest with
  | nil => rfl
  | cons next rest => rw [branch, branch, mappingAt, mappingAt, same]

/-- A write respects the order of keys in which it finds its way. -/
theorem Reordered.write (path : Path) (value : Value) {fields fields' : Fields}
    (reordered : Reordered fields fields') :
    Reordered (fields.write path value) (fields'.write path value) := by
  induction path generalizing fields fields' with
  | nil => exact reordered
  | cons key rest deeper =>
    simp only [write_cons]
    induction reordered with
    | refl fields => exact .refl _
    | trans _ _ left right => exact left.trans right
    | @swap front back first second differ =>
      rw [branch_congr (Keyed.get?_swap front back differ key)]
      exact put_swap front back differ key _
    | @within front back other inner inner' inside _ =>
      rw [Keyed.put_append, Keyed.put_append]
      by_cases before : key ∈ Keyed.keys front
      · have same : Keyed.get? (front ++ (other, Value.mapping inner) :: back) key =
            Keyed.get? (front ++ (other, .mapping inner') :: back) key := by
          simp only [Keyed.get?_append, before, ↓reduceIte]
        rw [if_pos before, if_pos before, branch_congr same]
        exact .within _ back other inside
      · rw [if_neg before, if_neg before, Keyed.put, Keyed.put]
        by_cases here : other = key
        · subst here
          have led (mapping : Fields) :
              mappingAt (front ++ (other, Value.mapping mapping) :: back) other = mapping := by
            simp [mappingAt, Keyed.get?_append, before, Keyed.get?, Value.mapping?]
          rw [if_pos rfl, if_pos rfl]
          cases rest with
          | nil => exact .refl _
          | cons next rest =>
            simp only [branch, led]
            exact .within front back other (deeper inside)
        · have same : Keyed.get? (front ++ (other, Value.mapping inner) :: back) key =
              Keyed.get? (front ++ (other, .mapping inner') :: back) key := by
            simp only [Keyed.get?_append, before, Keyed.get?, here, ↓reduceIte]
          rw [if_neg here, if_neg here, branch_congr same]
          exact .within front _ other inside

end Fields

/-- Neither path is the other one, nor a part of the way to it. -/
structure Path.Apart (path other : Path) : Prop where
  ahead : ¬path <+: other
  behind : ¬other <+: path

theorem Path.Apart.symm {path other : Path} (apart : path.Apart other) : other.Apart path :=
  ⟨apart.behind, apart.ahead⟩

/-- Behind a common first key, paths apart from each other go on and are apart. -/
theorem Path.Apart.of_cons {key : String} {rest rest' : Path}
    (apart : Path.Apart (key :: rest) (key :: rest')) : rest.Apart rest' where
  ahead before := apart.ahead (List.cons_prefix_cons.mpr ⟨rfl, before⟩)
  behind before := apart.behind (List.cons_prefix_cons.mpr ⟨rfl, before⟩)

namespace Fields

/-- Writes to paths apart from each other may be made in either order. -/
theorem reordered_write_write (fields : Fields) {path other : Path} (apart : path.Apart other)
    (value value' : Value) :
    Reordered ((fields.write path value).write other value')
      ((fields.write other value').write path value) := by
  induction path generalizing fields other with
  | nil => exact absurd List.nil_prefix apart.ahead
  | cons key rest ih =>
    cases other with
    | nil => exact absurd List.nil_prefix apart.behind
    | cons key' rest' =>
      by_cases same : key = key'
      · subst same
        have deeper := apart.of_cons
        -- A path that ended here would be a part of the way to the other one.
        obtain ⟨next, rest, rfl⟩ := List.exists_cons_of_ne_nil
          (fun ended => deeper.ahead (ended ▸ List.nil_prefix) : rest ≠ [])
        obtain ⟨next', rest', rfl⟩ := List.exists_cons_of_ne_nil
          (fun ended => deeper.behind (ended ▸ List.nil_prefix) : rest' ≠ [])
        simp only [write, mappingAt_put, Keyed.put_put]
        exact .put_mapping fields key (ih (fields.mappingAt key) deeper)
      · have there : Keyed.get? (Keyed.put fields key (fields.branch key rest value)) key' =
            Keyed.get? fields key' := by rw [Keyed.get?_put, if_neg same]
        have here : Keyed.get? (Keyed.put fields key' (fields.branch key' rest' value')) key =
            Keyed.get? fields key := by rw [Keyed.get?_put, if_neg (Ne.symm same)]
        simp only [write_cons]
        rw [branch_congr there, branch_congr here]
        exact .put_put fields same _ _

/-- On the way to a write stands the mapping that was there, or the empty one, with the rest of
the way written into it. -/
theorem at?_write_above (fields : Fields) (way : Path) (key : String) (rest : Path)
    (value : Value) :
    (fields.write (way ++ key :: rest) value).at? way =
      some (.mapping (write (Value.entriesOf (fields.at? way)) (key :: rest) value)) := by
  induction way generalizing fields with
  | nil =>
    rw [at?_nil, at?_nil]
    rfl
  | cons first way ih =>
    rw [List.cons_append, at?_write_cons, if_pos rfl, branch_append, ← entriesOf_mappingAt]
    exact ih (fields.mappingAt first)

/-- Two root mappings have the same at every path that is apart from the given ones. -/
def AgreeApart (written : List Path) (fields fields' : Fields) : Prop :=
  ∀ path, (∀ other ∈ written, Path.Apart other path) → fields.at? path = fields'.at? path

theorem AgreeApart.trans {written : List Path} {first middle last : Fields}
    (left : AgreeApart written first middle) (right : AgreeApart written middle last) :
    AgreeApart written first last :=
  fun path apart => (left path apart).trans (right path apart)

/-- A write is not seen apart from its path. -/
theorem agreeApart_write {written : List Path} (fields : Fields) {path : Path}
    (member : path ∈ written) (value : Value) :
    AgreeApart written fields (fields.write path value) :=
  fun asked apart =>
    (at?_write_beside fields path asked value (apart path member).ahead
      (apart path member).behind).symm

/-- A write to a path apart from the given ones is seen alike by those who agreed there. -/
theorem AgreeApart.write {written : List Path} {fields fields' : Fields}
    (agree : AgreeApart written fields fields') {path : Path} (value : Value) :
    AgreeApart written (fields.write path value) (fields'.write path value) := by
  intro asked apart
  by_cases behind : path <+: asked
  · obtain ⟨rest, rfl⟩ := behind
    cases path with
    | nil => exact agree _ apart
    | cons key way => rw [at?_write_append, at?_write_append]
  · by_cases above : asked <+: path
    · obtain ⟨rest, rfl⟩ := above
      cases rest with
      | nil => exact absurd (by simp) behind
      | cons key rest => rw [at?_write_above, at?_write_above, agree asked apart]
    · rw [at?_write_beside _ _ _ _ behind above, at?_write_beside _ _ _ _ behind above]
      exact agree asked apart

/-- The root mapping after writes, from the first to the last. -/
def writeAll (fields : Fields) (writes : List (Path × Value)) : Fields :=
  writes.foldl (fun written entry => written.write entry.1 entry.2) fields

theorem writeAll_append (fields : Fields) (first second : List (Path × Value)) :
    fields.writeAll (first ++ second) = (fields.writeAll first).writeAll second :=
  List.foldl_append ..

theorem agreeApart_writeAll {written : List Path} (fields : Fields)
    {writes : List (Path × Value)} (known : ∀ entry ∈ writes, entry.1 ∈ written) :
    AgreeApart written fields (fields.writeAll writes) := by
  induction writes generalizing fields with
  | nil => exact fun _ _ => rfl
  | cons entry rest ih =>
    obtain ⟨member, known⟩ := List.forall_mem_cons.mp known
    exact (agreeApart_write fields member entry.2).trans (ih _ known)

theorem AgreeApart.writeAll {written : List Path} {fields fields' : Fields}
    (agree : AgreeApart written fields fields') (writes : List (Path × Value)) :
    AgreeApart written (fields.writeAll writes) (fields'.writeAll writes) := by
  induction writes generalizing fields fields' with
  | nil => exact agree
  | cons entry rest ih => exact ih (agree.write entry.2)

theorem Reordered.writeAll {fields fields' : Fields} (reordered : Reordered fields fields')
    (writes : List (Path × Value)) :
    Reordered (fields.writeAll writes) (fields'.writeAll writes) := by
  induction writes generalizing fields fields' with
  | nil => exact reordered
  | cons entry rest ih => exact ih (reordered.write entry.1 entry.2)

/-- A write may be made after others from which it is apart. -/
theorem reordered_write_writeAll (fields : Fields) (entry : Path × Value)
    {writes : List (Path × Value)} (apart : ∀ other ∈ writes, entry.1.Apart other.1) :
    Reordered ((fields.write entry.1 entry.2).writeAll writes)
      ((fields.writeAll writes).write entry.1 entry.2) := by
  induction writes generalizing fields with
  | nil => exact .refl _
  | cons other rest ih =>
    obtain ⟨here, later⟩ := List.forall_mem_cons.mp apart
    have swapped := fields.reordered_write_write here entry.2 other.2
    exact (swapped.writeAll rest).trans (ih (fields.write other.1 other.2) later)

/-- Two runs of writes may be made in either order when each write of the one is apart from each
of the other. -/
theorem reordered_writeAll_append (fields : Fields) {first second : List (Path × Value)}
    (apart : ∀ entry ∈ first, ∀ other ∈ second, entry.1.Apart other.1) :
    Reordered (fields.writeAll (first ++ second)) (fields.writeAll (second ++ first)) := by
  induction first generalizing fields with
  | nil =>
    rw [List.append_nil]
    exact .refl _
  | cons entry rest ih =>
    obtain ⟨here, later⟩ := List.forall_mem_cons.mp apart
    have behind := ih (fields.write entry.1 entry.2) later
    have front := (fields.reordered_write_writeAll entry here).writeAll rest
    rw [writeAll_append _ second rest] at behind
    rw [writeAll_append fields second (entry :: rest)]
    exact behind.trans front

end Fields

end ScreenScript
