/-!
# Comma-separated text

A record is a line of fields with commas between. A field in double quotes may hold commas and line
breaks; inside, a quote is written twice. The reader is a machine that takes one symbol at a time,
where each line is followed by a symbol of its own, its end. A carriage return may stand only before
the end of a line or inside quotes.
-/
namespace Signpost.Sheet.Csv

/-- Why a text is not comma-separated. -/
inductive Fault
  | strayLineBreak
  | longField
  deriving DecidableEq, Repr, Inhabited

/-- The most characters that a field may have. -/
def fieldLimit : Nat := 131072

/-- What is said of a fault. -/
def Fault.message : Fault → String
  | strayLineBreak =>
    "new-line character seen in unquoted field - do you need to open the file in "
      ++ "universal-newline mode?"
  | longField => "field larger than field limit (131072)"

/-- A character, or the end of a line. -/
inductive Symbol
  | char (c : Char)
  | lineEnd
  deriving DecidableEq, Repr, Inhabited

/-- The symbols of a text. A line ends after its line feed and at the end of the text. -/
def symbols : List Char → List Symbol
  | [] => []
  | [c] => [.char c, .lineEnd]
  | c :: rest => if c = '\n' then .char c :: .lineEnd :: symbols rest else .char c :: symbols rest

/-- Where the reader stands. -/
inductive Position
  | recordStart
  | fieldStart
  | plain
  | quoted
  | afterQuote
  | lineBreak
  deriving DecidableEq, Repr, Inhabited

/-- A record: its fields. -/
abbrev Record := List String

/-- What has been read: the field so far, its characters in reverse and their number, the fields so
far and the records so far, both in reverse. -/
structure State where
  position : Position := .recordStart
  chars : List Char := []
  size : Nat := 0
  fields : List String := []
  records : List Record := []
  deriving DecidableEq, Repr, Inhabited

namespace State

/-- One more character of the field. -/
def push (state : State) (c : Char) (position : Position) : Except Fault State :=
  if state.size < fieldLimit then
    .ok { state with position, chars := c :: state.chars, size := state.size + 1 }
  else .error .longField

/-- The field is complete. -/
def endField (state : State) (position : Position) : State :=
  { state with
    position, chars := [], size := 0, fields := String.ofList state.chars.reverse :: state.fields }

/-- The record is complete. -/
def endRecord (state : State) : State :=
  { state with
    position := .recordStart, fields := [], records := state.fields.reverse :: state.records }

/-- The first symbol of a field. -/
def begin (state : State) : Symbol → Except Fault State
  | .lineEnd => .ok (state.endField .recordStart).endRecord
  | .char c =>
    if c = '\n' ∨ c = '\r' then .ok (state.endField .lineBreak)
    else if c = '"' then .ok { state with position := .quoted }
    else if c = ',' then .ok (state.endField .fieldStart)
    else state.push c .plain

/-- One more symbol. -/
def step (state : State) (symbol : Symbol) : Except Fault State :=
  match state.position, symbol with
  | .recordStart, .lineEnd => .ok state.endRecord
  | .recordStart, .char c =>
    if c = '\n' ∨ c = '\r' then .ok { state with position := .lineBreak } else state.begin symbol
  | .fieldStart, _ => state.begin symbol
  | .plain, .lineEnd => .ok (state.endField .recordStart).endRecord
  | .plain, .char c =>
    if c = '\n' ∨ c = '\r' then .ok (state.endField .lineBreak)
    else if c = ',' then .ok (state.endField .fieldStart)
    else state.push c .plain
  | .quoted, .lineEnd => .ok state
  | .quoted, .char c =>
    if c = '"' then .ok { state with position := .afterQuote } else state.push c .quoted
  | .afterQuote, .lineEnd => .ok (state.endField .recordStart).endRecord
  | .afterQuote, .char c =>
    if c = '"' then state.push c .quoted
    else if c = ',' then .ok (state.endField .fieldStart)
    else if c = '\n' ∨ c = '\r' then .ok (state.endField .lineBreak)
    else state.push c .plain
  | .lineBreak, .lineEnd => .ok state.endRecord
  | .lineBreak, .char c =>
    if c = '\n' ∨ c = '\r' then .ok state else .error .strayLineBreak

/-- The records at the end of the text; a field in quotes that is still open ends there. -/
def finish (state : State) : List Record :=
  let state := if state.position = .quoted then (state.endField .recordStart).endRecord else state
  state.records.reverse

end State

/-- The records of a text. -/
def read (text : List Char) : Except Fault (List Record) :=
  ((symbols text).foldlM State.step {}).map State.finish

end Signpost.Sheet.Csv
