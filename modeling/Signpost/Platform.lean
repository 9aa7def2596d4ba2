import Signpost.Text.Name

/-!
# The platform

Some of what the service does depends on where it runs. Documents, values and patterns that are
nested too deep use up the stack, and how deep is too deep depends on what stands on it already. The
names of characters come from a table that the service does not have. `Platform` holds what is taken
of all this; whatever needs it takes it as an instance.
-/
namespace Signpost

/-- What the service finds where it runs. -/
class Platform where
  /-- The deepest nesting of a document that can be read. -/
  documentDepth : Nat
  /-- The deepest nesting of a value that can be turned into text. -/
  valueDepth : Nat
  /-- There is room on the stack to read the pattern. -/
  hasRoomFor : List Char → Bool
  /-- The code point of the character with a name. -/
  named? : String → Option Nat
  /-- A document with rows of plain values can be read. -/
  takes_rows : 3 ≤ documentDepth
  /-- A value that stands in a row of a document was read with less room than its text takes. -/
  shows_cells : documentDepth ≤ valueDepth + 2

/-- How many more brackets are open than closed, at the most, in a text with some open in front. -/
def openBrackets : Nat → List Char → Nat
  | opened, [] => opened
  | opened, c :: rest =>
    if c == '(' then openBrackets (opened + 1) rest
    else if c == ')' then max opened (openBrackets (opened - 1) rest)
    else openBrackets opened rest

/-- A platform as it is commonly met, with the names of the most common characters. -/
@[reducible] def Platform.usual : Platform where
  documentDepth := 970
  valueDepth := 970
  hasRoomFor := fun pattern => openBrackets 0 pattern ≤ 400
  named? := Text.named?
  takes_rows := by decide
  shows_cells := by decide

end Signpost
