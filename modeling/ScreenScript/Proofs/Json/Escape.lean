import ScreenScript.Json.Token
import ScreenScript.Json.Writer

/-! # Reading back written texts

Each character of a text is written as itself, as a backslash before a letter, or by its code units,
of which those beyond the basic plane have two. The scan of a text in quotes takes what is written
for a character as one step that adds this character, so the whole scan ends with the text that was
written. Every character can be written so, since no character is a surrogate.
-/

namespace ScreenScript.Json

/-- The four hexadecimal digits of a code unit. -/
theorem hexadecimal_four {unit : Nat} (small : unit < 0x10000) :
    Text.hexadecimal 4 unit =
      [Nat.digitChar (unit / 4096), Nat.digitChar (unit / 256 % 16),
        Nat.digitChar (unit / 16 % 16), Nat.digitChar (unit % 16)] := by
  have one {number : Nat} (few : number < 16) : Nat.toDigits 16 number = [Nat.digitChar number] :=
    Nat.toDigits_of_lt_base few
  have more {number : Nat} (many : 16 ≤ number) :
      Nat.toDigits 16 number = Nat.toDigits 16 (number / 16) ++ [Nat.digitChar (number % 16)] :=
    Nat.toDigits_of_base_le (by decide) many
  -- The number has between one and four digits of its own, and zeros in front of them.
  rw [Text.hexadecimal]
  by_cases digits : unit < 16
  · have zeros : unit / 4096 = 0 ∧ unit / 256 % 16 = 0 ∧ unit / 16 % 16 = 0 ∧ unit % 16 = unit := by
      omega
    rw [one digits, zeros.1, zeros.2.1, zeros.2.2.1, zeros.2.2.2]
    rfl
  by_cases digits : unit < 256
  · have zeros : unit / 4096 = 0 ∧ unit / 256 % 16 = 0 ∧ unit / 16 % 16 = unit / 16 := by omega
    rw [more (by omega), one (by omega), zeros.1, zeros.2.1, zeros.2.2]
    rfl
  by_cases digits : unit < 4096
  · have zeros : unit / 4096 = 0 ∧ unit / 256 % 16 = unit / 16 / 16 := by omega
    rw [more (by omega), more (by omega), one (by omega), zeros.1, zeros.2]
    rfl
  · have places : unit / 4096 = unit / 16 / 16 / 16 ∧ unit / 256 % 16 = unit / 16 / 16 % 16 := by
      omega
    rw [more (by omega), more (by omega), more (by omega), one (by omega), places.1, places.2]
    rfl

theorem hexDigit?_digitChar : ∀ digit < 16, hexDigit? (Nat.digitChar digit) = some digit := by
  decide

section

variable (reversed : List Char) (high : Option Nat) (before : List Token)

private theorem advance_unit {count : Nat} (more : count < 3) (value : Nat) {digit : Nat}
    (small : digit < 16) :
    Scan.advance (.unit reversed high count value, before) (Nat.digitChar digit) =
      some (.unit reversed high (count + 1) (16 * value + digit), before) := by
  simp [Scan.advance, Scan.step, hexDigit?_digitChar digit small, more]

private theorem advance_unit_last (value : Nat) {digit : Nat} (small : digit < 16) :
    Scan.advance (.unit reversed high 3 value, before) (Nat.digitChar digit) =
      (Scan.ofUnit? reversed high (16 * value + digit)).map fun scan => (scan, before) := by
  simp only [Scan.advance, Scan.step, hexDigit?_digitChar digit small, Option.bind_eq_bind,
    Option.bind_some, Nat.lt_irrefl, ↓reduceIte]
  cases Scan.ofUnit? reversed high (16 * value + digit) <;> rfl

/-- The digits of a code unit are read as the unit. -/
theorem foldlM_unit {unit : Nat} (small : unit < 0x10000) :
    (Text.hexadecimal 4 unit).foldlM Scan.advance (.unit reversed high 0 0, before) =
      (Scan.ofUnit? reversed high unit).map fun scan => (scan, before) := by
  have sum : 16 * (16 * (16 * (16 * 0 + unit / 4096) + unit / 256 % 16) + unit / 16 % 16) +
      unit % 16 = unit := by omega
  rw [hexadecimal_four small]
  simp only [List.foldlM_cons, List.foldlM_nil, Option.bind_eq_bind]
  rw [advance_unit _ _ _ (by decide) _ (by omega), Option.bind_some,
    advance_unit _ _ _ (by decide) _ (by omega), Option.bind_some,
    advance_unit _ _ _ (by decide) _ (by omega), Option.bind_some,
    advance_unit_last _ _ _ _ (by omega), sum]
  cases Scan.ofUnit? reversed high unit <;> rfl

/-- An escaped code unit in a text that calls for no low surrogate. -/
theorem foldlM_escapeUnit {unit : Nat} (small : unit < 0x10000) :
    (escapeUnit unit).foldlM Scan.advance (.quoted reversed, before) =
      (Scan.ofUnit? reversed none unit).map fun scan => (scan, before) :=
  foldlM_unit reversed none before small

/-- An escaped code unit behind a high surrogate. -/
theorem foldlM_escapeUnit_low (surrogate : Nat) {unit : Nat} (small : unit < 0x10000) :
    (escapeUnit unit).foldlM Scan.advance (.needEscape reversed surrogate, before) =
      (Scan.ofUnit? reversed (some surrogate) unit).map fun scan => (scan, before) :=
  foldlM_unit reversed (some surrogate) before small

end

/-- A character beyond the basic plane is what its two surrogates write together. -/
theorem foldlM_surrogates (reversed : List Char) (before : List Token) {char : Char}
    (beyond : 0x10000 ≤ char.toNat) :
    (escapeUnit (0xd800 + (char.toNat - 0x10000) / 0x400) ++
        escapeUnit (0xdc00 + (char.toNat - 0x10000) % 0x400)).foldlM Scan.advance
          (.quoted reversed, before) =
      some (.quoted (char :: reversed), before) := by
  have limit : char.toNat < 0x110000 := by
    rcases char.valid with small | ⟨-, small⟩
    · exact Nat.lt_trans small (by decide)
    · exact small
  -- The high surrogate calls for a low one, and the low one closes the pair.
  have high : Scan.ofUnit? reversed none (0xd800 + (char.toNat - 0x10000) / 0x400) =
      some (.needEscape reversed (0xd800 + (char.toNat - 0x10000) / 0x400)) := by
    rw [Scan.ofUnit?, if_pos (by omega)]
  have joined : 0x10000 + (0xd800 + (char.toNat - 0x10000) / 0x400 - 0xd800) * 0x400 +
      (0xdc00 + (char.toNat - 0x10000) % 0x400 - 0xdc00) = char.toNat := by omega
  have low : Scan.ofUnit? reversed (some (0xd800 + (char.toNat - 0x10000) / 0x400))
      (0xdc00 + (char.toNat - 0x10000) % 0x400) = some (.quoted (char :: reversed)) := by
    rw [Scan.ofUnit?, if_pos (by omega), joined, Char.ofNat_toNat]
  rw [List.foldlM_append, foldlM_escapeUnit _ _ (by omega), high, Option.map_some,
    Option.bind_eq_bind, Option.bind_some, foldlM_escapeUnit_low _ _ _ (by omega), low,
    Option.map_some]

/-- What is written for a character adds the character. -/
theorem foldlM_escapeChar (reversed : List Char) (char : Char) (before : List Token) :
    (escapeChar char).foldlM Scan.advance (.quoted reversed, before) =
      some (.quoted (char :: reversed), before) := by
  rw [escapeChar]
  split
  next special => rcases special with rfl | rfl <;> rfl
  next special =>
  split
  next same => subst same; rfl
  split
  next same => subst same; rfl
  split
  next same => subst same; rfl
  split
  next same => subst same; rfl
  split
  next same => subst same; rfl
  split
  next printable =>
    obtain ⟨unquoted, plain⟩ := not_or.mp special
    have visible : ¬char.toNat < 0x20 := by omega
    simp [Scan.advance, Scan.step, unquoted, plain, visible]
  split
  next small =>
    -- A character is no surrogate, so that its unit stands alone.
    have apart : char.toNat < 0xd800 ∨ 0xe000 ≤ char.toNat := by
      rcases char.valid with small | ⟨large, -⟩
      · exact .inl small
      · exact .inr large
    have alone : Scan.ofUnit? reversed none char.toNat = some (.quoted (char :: reversed)) := by
      rw [Scan.ofUnit?, if_neg (by omega), if_neg (by omega), Char.ofNat_toNat]
    rw [foldlM_escapeUnit _ _ small, alone, Option.map_some]
  next large => exact foldlM_surrogates reversed before (by omega)

/-- Three characters as one unit, as two units and as a letter. -/
example :
    "é😀\n".toList.flatMap escapeChar = "\\u00e9\\ud83d\\ude00\\n".toList := by decide +kernel

end ScreenScript.Json
