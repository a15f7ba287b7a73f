/-! # Line ends of a text file

Text files may end their lines by a line feed, a carriage return, or a carriage return before a
line feed. Reading such a file as text makes each of them a line feed.
-/

namespace ScreenScript.Text

/-- The characters with each line end written as one line feed. -/
def unifyNewlines : List Char → List Char
  | [] => []
  | '\r' :: '\n' :: rest => '\n' :: unifyNewlines rest
  | char :: rest => (if char = '\r' then '\n' else char) :: unifyNewlines rest

/-- No carriage return is left. -/
theorem carriageReturn_notMem_unifyNewlines (chars : List Char) :
    '\r' ∉ unifyNewlines chars := by
  fun_induction unifyNewlines chars with
  | case1 => simp
  | case2 rest ih => simp [ih]
  | case3 char rest _ ih => by_cases same : char = '\r' <;> simp [same, ih, Ne.symm]

end ScreenScript.Text
