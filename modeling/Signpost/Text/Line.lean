/-!
# Ends of lines

A line may end with a line feed, a carriage return, or both. `unifyBreaks` reads each of them as a
line feed. Main statement: what it gives holds no carriage return.
-/
namespace Signpost.Text

/-- The text with a line feed for every end of a line. -/
def unifyBreaks : List Char → List Char
  | '\r' :: '\n' :: rest => '\n' :: unifyBreaks rest
  | '\r' :: rest => '\n' :: unifyBreaks rest
  | c :: rest => c :: unifyBreaks rest
  | [] => []

theorem return_not_mem_unifyBreaks (cs : List Char) : '\r' ∉ unifyBreaks cs := by
  fun_induction unifyBreaks cs with
  | case1 rest ih => simp [ih]
  | case2 rest _ ih => simp [ih]
  | case3 c rest _ hc ih => simp only [List.mem_cons, not_or]; exact ⟨fun h => hc h.symm, ih⟩
  | case4 => simp

end Signpost.Text
