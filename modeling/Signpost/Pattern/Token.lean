/-!
# Tokens of a pattern

A pattern is read as plain characters and characters after a backslash. A backslash at the end
stands before nothing, and whoever reads up to it fails.
-/
namespace Signpost.Pattern

/-- A token of a pattern. -/
inductive Token
  | plain (c : Char)
  | escaped (c : Char)
  | dangling
  deriving DecidableEq, Repr, Inhabited

/-- The tokens of a text. -/
def Token.scan : List Char → List Token
  | [] => []
  | ['\\'] => [.dangling]
  | '\\' :: c :: rest => .escaped c :: scan rest
  | c :: rest => .plain c :: scan rest

/-- The text of a token. -/
def Token.text : Token → List Char
  | plain c => [c]
  | escaped c => ['\\', c]
  | dangling => ['\\']

theorem Token.flatMap_text_scan (cs : List Char) : (scan cs).flatMap text = cs := by
  fun_induction scan cs with
  | case1 => rfl
  | case2 => rfl
  | case3 c rest ih => simp [text, ih]
  | case4 c rest _ _ ih => simp [text, ih]

end Signpost.Pattern
