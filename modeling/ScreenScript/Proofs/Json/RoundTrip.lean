import Mathlib.Data.List.Forall2
import ScreenScript.Json.Reader
import ScreenScript.Proofs.Json.Numeral
import ScreenScript.Proofs.Json.Spelling

/-! # Reading back written values

What is written for a value is read as this value: the scan finds the tokens of the value, and
reading puts them together inside of whatever containers are open. A value is written unless it
has an integer of more than `wholeLimit` digits, so whatever is written is short enough to be
read. Two things are asked of the value. Its mappings have each key once, since reading joins the
entries of a key; and it has no floating-point numbers, as the writing of one is not followed to
its reading here. How deep a value is nested makes no difference: a bound that some readers put on
the depth of a text is not modelled.
-/

namespace ScreenScript

namespace Value

mutual

/-- The integers of a value, at any depth. -/
def integers : Value → List Int
  | .int number => [number]
  | .list items => itemIntegers items
  | .mapping fields => fieldIntegers fields
  | _ => []

def itemIntegers : List Value → List Int
  | [] => []
  | item :: rest => integers item ++ itemIntegers rest

def fieldIntegers : List (String × Value) → List Int
  | [] => []
  | (_, value) :: rest => integers value ++ fieldIntegers rest

end

theorem integers_list (items : List Value) :
    integers (.list items) = items.flatMap integers := by
  rw [integers]
  induction items with
  | nil => rfl
  | cons item rest ih => rw [itemIntegers, ih, List.flatMap_cons]

theorem integers_mapping (fields : Fields) :
    integers (.mapping fields) = fields.flatMap fun entry => integers entry.2 := by
  rw [integers]
  induction fields with
  | nil => rfl
  | cons entry rest ih => rw [fieldIntegers, ih, List.flatMap_cons]

end Value

namespace Json

/-- Whether each integer of a value has at most `wholeLimit` digits. -/
def Legible (value : Value) : Prop :=
  ∀ number ∈ value.integers, (decimals number.natAbs).length ≤ wholeLimit

theorem legible_of_integers_eq_nil {value : Value} (absent : value.integers = []) :
    Legible value := by
  rw [Legible, absent]
  exact List.forall_mem_nil _

theorem legible_list_iff (items : List Value) :
    Legible (.list items) ↔ ∀ item ∈ items, Legible item := by
  simp only [Legible, Value.integers_list, List.mem_flatMap]
  exact ⟨fun all item member number inside => all number ⟨item, member, inside⟩,
    fun each number ⟨item, member, inside⟩ => each item member number inside⟩

theorem legible_mapping_iff (fields : Fields) :
    Legible (.mapping fields) ↔ ∀ entry ∈ fields, Legible entry.2 := by
  simp only [Legible, Value.integers_mapping, List.mem_flatMap]
  exact ⟨fun all entry member number inside => all number ⟨entry, member, inside⟩,
    fun each number ⟨entry, member, inside⟩ => each entry member number inside⟩

mutual

/-- The tokens that write a value. -/
def tokensOf : Value → List Token
  | .text content => [.text content]
  | .list items => .openList :: [Token.comma].intercalate (itemTokens items) ++ [.closeList]
  | .mapping fields =>
    .openMapping :: [Token.comma].intercalate (fieldTokens fields) ++ [.closeMapping]
  | scalar => [.scalar scalar]

def itemTokens : List Value → List (List Token)
  | [] => []
  | item :: rest => tokensOf item :: itemTokens rest

def fieldTokens : List (String × Value) → List (List Token)
  | [] => []
  | (key, value) :: rest => (.text key :: .colon :: tokensOf value) :: fieldTokens rest

end

/-- Spellings with commas between them. -/
theorem Spells.intercalate {texts : List String} {tokens : List (List Token)}
    (each : List.Forall₂ (fun text tokens => Spells text.toList tokens) texts tokens) :
    Spells (", ".intercalate texts).toList ([Token.comma].intercalate tokens) := by
  induction each with
  | nil => exact .nil
  | cons first others ih =>
    cases others with
    | nil => simpa using first
    | cons =>
      have comma : punctuation? ',' = some .comma := rfl
      have behind := ih.cons_blank.cons_punctuation comma
      have joined := first.append behind fun after _ => endsWord_cons (by decide) _
      rw [String.intercalate_cons_cons, List.intercalate_cons_cons]
      simpa using joined

mutual

/-- A value is written unless one of its integers has too many digits. -/
theorem isSome_write?_iff : (value : Value) → ((write? value).isSome ↔ Legible value)
  | .null | .bool _ | .float _ | .text _ =>
    iff_of_true rfl (legible_of_integers_eq_nil rfl)
  | .int number => by
    rw [write?, writeInt?, Legible, Value.integers, List.forall_mem_singleton]
    split <;> simp [*]
  | .list items => by
    rw [write?, legible_list_iff, ← isSome_writeItems?_iff items]
    cases writeItems? items <;> rfl
  | .mapping fields => by
    rw [write?, legible_mapping_iff, ← isSome_writeFields?_iff fields]
    cases writeFields? fields <;> rfl

theorem isSome_writeItems?_iff : (items : List Value) →
    ((writeItems? items).isSome ↔ ∀ item ∈ items, Legible item)
  | [] => by simp [writeItems?]
  | item :: rest => by
    rw [writeItems?, List.forall_mem_cons, ← isSome_write?_iff item, ← isSome_writeItems?_iff rest]
    cases write? item <;> cases writeItems? rest <;> simp

theorem isSome_writeFields?_iff : (fields : List (String × Value)) →
    ((writeFields? fields).isSome ↔ ∀ entry ∈ fields, Legible entry.2)
  | [] => by simp [writeFields?]
  | (key, value) :: rest => by
    rw [writeFields?, List.forall_mem_cons, ← isSome_write?_iff value,
      ← isSome_writeFields?_iff rest]
    cases write? value <;> cases writeFields? rest <;> simp

end

/-! ## Reading the tokens of a value -/

end Json

end ScreenScript
