import Signpost.Text.Encoding
import Signpost.Value

/-!
# Writing JSON

A value is written in ASCII: `writeIndented` gives a document that is indented by two columns a
level, `write` a value on one line. Characters above ASCII are escaped by their units of sixteen
bits, and so is every surrogate of a text that is none of characters. `writeCompact` leaves out all
blanks and keeps the characters above ASCII as they are.
-/
namespace Signpost.Json

/-- A unit of sixteen bits, escaped. -/
def escapeUnit (unit : Nat) : List Char :=
  '\\' :: 'u' :: Text.hexDigits 4 unit

/-- A character inside a text in ASCII. -/
def escapeChar (c : Char) : List Char :=
  let code := c.toNat
  if c == '"' then ['\\', '"']
  else if c == '\\' then ['\\', '\\']
  else if c == '\n' then ['\\', 'n']
  else if c == '\r' then ['\\', 'r']
  else if c == '\t' then ['\\', 't']
  else if code == 8 then ['\\', 'b']
  else if code == 12 then ['\\', 'f']
  else if 0x20 ≤ code && code ≤ 0x7E then [c]
  else if code < 0x10000 then escapeUnit code
  else
    let offset := code - 0x10000
    escapeUnit (0xD800 + offset / 1024) ++ escapeUnit (0xDC00 + offset % 1024)

/-- A character inside a text that is not bound to ASCII. -/
def escapeControl (c : Char) : List Char :=
  if 0x7E < c.toNat then [c] else escapeChar c

/-- A text in quotes. -/
def writeText (escape : Char → List Char) (s : String) : List Char :=
  '"' :: s.toList.flatMap escape ++ ['"']

/-- A text that is none of characters, in quotes. -/
def writeUnpaired (escape : Char → List Char) (u : Text.Unpaired) : List Char :=
  let inside (code : Nat) : List Char :=
    if Text.isSurrogate code then escapeUnit code else escape (Char.ofNat code)
  '"' :: u.codes.flatMap inside ++ ['"']

/-- A floating-point number. -/
def writeReal : Number.Binary64 → String
  | .nan => "NaN"
  | .infinite negative => if negative then "-Infinity" else "Infinity"
  | x => x.text

/-- How a document is laid out: without blanks, on one line, or a line for each item at an
indentation. -/
inductive Layout
  | compact
  | line
  | indented (depth : Nat)

/-- The layout of what is inside. -/
def Layout.inner : Layout → Layout
  | compact => compact
  | line => line
  | indented depth => indented (depth + 1)

/-- The break before an item. -/
def Layout.break : Layout → List Char
  | compact | line => []
  | indented depth => '\n' :: List.replicate (2 * depth) ' '

/-- The comma between two items. -/
def Layout.comma : Layout → List Char
  | compact => [',']
  | line => [',', ' ']
  | indented depth => ',' :: Layout.break (indented depth)

/-- The colon between a name and its value. -/
def Layout.colon : Layout → List Char
  | compact => [':']
  | line | indented _ => [':', ' ']

section

-- How the characters of texts are escaped.
variable (escape : Char → List Char)

mutual

/-- A value in a layout. -/
def layOut (layout : Layout) : Value → List Char
  | .null => "null".toList
  | .bool b => if b then "true".toList else "false".toList
  | .int n => (Number.decimal n).toList
  | .real x => (writeReal x).toList
  | .text s => writeText escape s
  | .unpaired u => writeUnpaired escape u
  | .list [] => "[]".toList
  | .list (item :: rest) =>
    '[' :: layout.inner.break ++ layOut layout.inner item ++ layOutItems layout.inner rest
      ++ layout.break ++ [']']
  | .object [] => ['\x7b', '\x7d']
  | .object ((name, value) :: rest) =>
    '\x7b' :: layout.inner.break ++ writeText escape name ++ layout.colon
      ++ layOut layout.inner value ++ layOutFields layout.inner rest ++ layout.break ++ ['\x7d']

/-- The items after the first. -/
def layOutItems (layout : Layout) : List Value → List Char
  | [] => []
  | item :: rest => layout.comma ++ layOut layout item ++ layOutItems layout rest

/-- The fields after the first. -/
def layOutFields (layout : Layout) : List (String × Value) → List Char
  | [] => []
  | (name, value) :: rest =>
    layout.comma ++ writeText escape name ++ layout.colon ++ layOut layout value
      ++ layOutFields layout rest

end

end

/-- A value on one line. -/
def write (value : Value) : String :=
  String.ofList (layOut escapeChar .line value)

/-- A document with a line for each item. -/
def writeIndented (value : Value) : String :=
  String.ofList (layOut escapeChar (.indented 0) value)

/-- A document without blanks, not bound to ASCII. -/
def writeCompact (value : Value) : String :=
  String.ofList (layOut escapeControl .compact value)

end Signpost.Json
