/-! # Entries under text keys, in order

Mappings, screen caches and registries are all lists of entries under text keys whose order can
be seen from outside. `Keyed.put` fixes that order once: a key that is already there keeps its
place, a new key goes last. `Keyed.get?` reads the first entry of a key.
-/

namespace ScreenScript

namespace Keyed

variable {α : Type}

/-- The value under a key, that of its first entry. -/
def get? : List (String × α) → String → Option α
  | [], _ => none
  | (other, value) :: rest, key => if other = key then some value else get? rest key

def contains (entries : List (String × α)) (key : String) : Bool :=
  (get? entries key).isSome

/-- The entries with `value` under `key`: a key that is there keeps its place, a new key goes
last. -/
def put : List (String × α) → String → α → List (String × α)
  | [], key, value => [(key, value)]
  | (other, old) :: rest, key, value =>
    if other = key then (key, value) :: rest else (other, old) :: put rest key value

/-- The entries of `base` with those of `added` put into them, from the first to the last. -/
def merge (base added : List (String × α)) : List (String × α) :=
  added.foldl (fun entries entry => put entries entry.1 entry.2) base

def keys (entries : List (String × α)) : List String :=
  entries.map Prod.fst

/-- A key reads as the value put last, and every other key as before. -/
theorem get?_put (entries : List (String × α)) (key other : String) (value : α) :
    get? (put entries key value) other =
      if key = other then some value else get? entries other := by
  induction entries with
  | nil => simp [put, get?]
  | cons entry rest ih =>
    by_cases same : entry.1 = key
    · by_cases asked : key = other <;> simp [put, get?, same, asked]
    · by_cases asked : key = other
      · subst asked
        simp [put, get?, same, ih]
      · simp [put, get?, same, ih, asked]

/-- What is read under a key is one of the entries. -/
theorem mem_of_get? {entries : List (String × α)} {key : String} {value : α}
    (found : get? entries key = some value) : (key, value) ∈ entries := by
  induction entries with
  | nil => cases found
  | cons entry rest ih =>
    obtain ⟨other, old⟩ := entry
    rw [get?] at found
    split at found
    next same =>
      cases found
      exact same ▸ List.mem_cons_self ..
    · exact List.mem_cons_of_mem _ (ih found)

/-- Putting brings in no other entry than the one put. -/
theorem mem_put {entries : List (String × α)} {key : String} {value : α} {entry : String × α}
    (member : entry ∈ put entries key value) : entry ∈ entries ∨ entry = (key, value) := by
  induction entries with
  | nil => exact .inr (List.mem_singleton.mp member)
  | cons first rest ih =>
    rw [put] at member
    split at member
    · rcases List.mem_cons.mp member with same | later
      · exact .inr same
      · exact .inl (List.mem_cons_of_mem _ later)
    · rcases List.mem_cons.mp member with same | later
      · exact .inl (same ▸ List.mem_cons_self ..)
      · exact (ih later).imp (List.mem_cons_of_mem _) id

/-- Putting an entry changes the sequence of keys only by appending a new key. -/
theorem keys_put (entries : List (String × α)) (key : String) (value : α) :
    keys (put entries key value) =
      if key ∈ keys entries then keys entries else keys entries ++ [key] := by
  induction entries with
  | nil => simp [put, keys]
  | cons entry rest ih =>
    by_cases same : entry.1 = key
    · simp [put, keys, same]
    · have differ : key ≠ entry.1 := Ne.symm same
      by_cases member : key ∈ keys rest <;>
        simp_all [put, keys]

end Keyed

end ScreenScript
