/-!
# Blank characters

Cells of a rule sheet, flags and numbers are trimmed before they are read. Trimming removes the
blank characters of Unicode, which are more than the blanks of ASCII and do not contain the
zero-width ones.
-/
namespace Signpost.Text

/-- A character that trimming removes. -/
def isBlank (c : Char) : Bool :=
  let code := c.toNat
  (9 ≤ code && code ≤ 13) || (28 ≤ code && code ≤ 32) || code == 0x85 || code == 0xA0
    || code == 0x1680 || (0x2000 ≤ code && code ≤ 0x200A) || code == 0x2028 || code == 0x2029
    || code == 0x202F || code == 0x205F || code == 0x3000

/-- The list without the members at its end that satisfy the test. -/
def dropEndWhile (test : α → Bool) (items : List α) : List α :=
  (items.reverse.dropWhile test).reverse

/-- The characters without the blanks at either end. -/
def trim (cs : List Char) : List Char :=
  dropEndWhile isBlank (cs.dropWhile isBlank)

/-- The text without the blanks at either end. -/
def strip (s : String) : String :=
  String.ofList (trim s.toList)

/-- A text of blanks only; the empty text is one. -/
def isBlankText (s : String) : Bool :=
  s.toList.all isBlank

theorem trim_of_no_blank {cs : List Char} (solid : ∀ c ∈ cs, isBlank c = false) : trim cs = cs := by
  have whole {items : List Char} (solid : ∀ c ∈ items, isBlank c = false) :
      items.dropWhile isBlank = items := by
    cases items with
    | nil => rfl
    | cons c rest => rw [List.dropWhile_cons_of_neg (by simp [solid c (.head _)])]
  rw [trim, dropEndWhile, whole solid, whole fun c member => solid c (List.mem_reverse.mp member),
    List.reverse_reverse]

end Signpost.Text
