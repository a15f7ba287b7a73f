import ScreenScript.Value

/-! # Dotted paths into dynamic data

A path names the keys to follow from a root mapping. Its text separates them by dots, and empty
segments count for nothing, so every text is a path and the texts without a segment all mean the
root. Reading walks down through mappings only. Writing creates the mappings on the way, and
replaces what stands there without being one; every key beside the way keeps its value and its
place.
-/

namespace ScreenScript

abbrev Path := List String

/-- The stretches of a text between its dots. There is one more of them than there are dots. -/
def Path.stretches : List Char → List (List Char)
  | [] => [[]]
  | char :: rest =>
    if char = '.' then [] :: stretches rest
    else
      match stretches rest with
      | [] => [[char]]
      | first :: others => (char :: first) :: others

theorem Path.stretches_ne_nil (chars : List Char) : stretches chars ≠ [] := by
  cases chars with
  | nil => simp [stretches]
  | cons char rest =>
    rw [stretches]
    split
    · simp
    · split <;> simp

/-- A dot separates what stands before it from what stands behind it. -/
theorem Path.stretches_append_dot (before after : List Char) :
    stretches (before ++ '.' :: after) = stretches before ++ stretches after := by
  induction before with
  | nil => simp [stretches]
  | cons char rest ih =>
    by_cases dot : char = '.'
    · simp [stretches, dot, ih]
    · obtain ⟨first, others, cut⟩ := List.exists_cons_of_ne_nil (stretches_ne_nil rest)
      simp [stretches, dot, ih, cut]

/-- The path that a text writes: its stretches between dots, the empty ones left out. -/
def Path.ofText (text : String) : Path :=
  ((Path.stretches text.toList).filter fun stretch => !stretch.isEmpty).map String.ofList

/-- The value at the end of a path, and nothing when a key on it is absent or leads into
something that is no mapping. -/
def Value.at? : Value → Path → Option Value
  | value, [] => some value
  | .mapping fields, key :: rest => (Keyed.get? fields key).bind fun value => value.at? rest
  | _, _ :: _ => none

namespace Fields

def at? (fields : Fields) (path : Path) : Option Value :=
  (Value.mapping fields).at? path

/-- The mapping under a key, empty when something else or nothing is there. -/
def mappingAt (fields : Fields) (key : String) : Fields :=
  ((Keyed.get? fields key).bind Value.mapping?).getD []

/-- The root mapping with a value written at the end of a path. The path without a key changes
nothing. -/
def write : Fields → Path → Value → Fields
  | fields, [], _ => fields
  | fields, [key], value => Keyed.put fields key value
  -- What stands under the key without being a mapping gives way to one.
  | fields, key :: next :: rest, value =>
    Keyed.put fields key (.mapping (write (fields.mappingAt key) (next :: rest) value))

@[simp]
theorem at?_nil (fields : Fields) : fields.at? [] = some (.mapping fields) := by
  simp [at?, Value.at?]

theorem at?_cons (fields : Fields) (key : String) (rest : Path) :
    fields.at? (key :: rest) = (Keyed.get? fields key).bind fun value => value.at? rest := by
  simp [at?, Value.at?]

/-- What is written at a path with a key is what is read there. -/
theorem at?_write (fields : Fields) (key : String) (rest : Path) (value : Value) :
    (fields.write (key :: rest) value).at? (key :: rest) = some value := by
  induction rest generalizing fields key with
  | nil => simp [write, at?_cons, Keyed.get?_put, Value.at?]
  | cons next rest ih =>
    rw [write, at?_cons, Keyed.get?_put]
    simpa [at?] using ih (fields.mappingAt key) next

end Fields

end ScreenScript
