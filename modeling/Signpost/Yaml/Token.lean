import Signpost.Text.Encoding

/-!
# Tokens of a configuration text

A configuration is written in blocks that are told apart by their indentation, or in brackets. The
scanner turns its characters into tokens, among them marks for the beginning and the end of blocks.
This module holds the tokens and what the scanner keeps while it moves on.
-/
namespace Signpost.Yaml

/-- Why a configuration text cannot be read: its form is wrong, a scalar is not what its tag says,
a word is not among those of its tag, or a text that it spells is none of characters. -/
inductive Fault
  | malformed
  | unreadable (message : String)
  | unknownWord (word : String)
  | unpaired
  deriving DecidableEq, Repr, Inhabited

/-- How a tag is written: with a handle that stands for the first part of its name, or whole. -/
structure TagText where
  handle : Option String
  suffix : String
  deriving DecidableEq, Repr, Inhabited

/-- A token. -/
inductive Token
  | version (major minor : Nat)
  | tagPrefix (handle start : String)
  | otherDirective
  | documentStart
  | documentEnd
  | blockSequenceStart
  | blockMappingStart
  | blockEnd
  | flowSequenceStart
  | flowSequenceEnd
  | flowMappingStart
  | flowMappingEnd
  | flowEntry
  | blockEntry
  | key
  | value
  | alias (name : String)
  | anchor (name : String)
  | tag (text : TagText)
  | scalar (plain : Bool) (text : String)
  deriving DecidableEq, Repr, Inhabited

/-- A token that turns out to be a key if a colon follows on its line: its number among the tokens,
whether it has to be one, and its place. -/
structure PossibleKey where
  number : Nat
  required : Bool
  index : Nat
  line : Nat
  column : Nat
  deriving DecidableEq, Repr, Inhabited

/-- What the scanner keeps: the characters left and the place where they begin, the tokens so far,
the depth of brackets, the indentation of the block and of those around it, whether a key may begin
here, and the possible keys by depth of brackets. Outside of any block the indentation is `-1`. -/
structure Scan where
  rest : List Char
  index : Nat := 0
  line : Nat := 0
  column : Nat := 0
  tokens : Array Token := #[]
  depth : Nat := 0
  indent : Int := -1
  outer : List Int := []
  keyAllowed : Bool := true
  keys : List (Nat × PossibleKey) := []
  deriving Repr, Inhabited

/-- A scanner. -/
abbrev Scanner := StateT Scan (Except Fault)

/-- A character that ends a line. -/
def isBreak (c : Char) : Bool :=
  c == '\n' || c == '\r' || c.toNat == 0x85 || c.toNat == 0x2028 || c.toNat == 0x2029

/-- A character that ends a word, or no character at all. -/
def endsWord (c : Option Char) : Bool :=
  c.all fun c => c == ' ' || c == '\t' || isBreak c

/-- A blank or the end of a line, or no character at all. -/
def endsPart (c : Option Char) : Bool :=
  c.all fun c => c == ' ' || isBreak c

/-- A character of a name. -/
def isNameChar (c : Char) : Bool :=
  Text.isAsciiDigit c || Text.isAsciiLetter c || c == '-' || c == '_'

namespace Scanner

/-- Fails. -/
def refuse : Scanner α := throw .malformed

/-- Fails unless the condition holds. -/
def require (condition : Bool) : Scanner Unit :=
  unless condition do refuse

/-- The character some places on. -/
def peek (n : Nat) : Scanner (Option Char) := do
  return (← get).rest[n]?

/-- The next character is the given one. -/
def isNext (c : Char) : Scanner Bool := do
  return (← peek 0) == some c

/-- Past one character. A carriage return before a line feed does not end the line by itself. -/
def advance (scan : Scan) : Scan :=
  match scan.rest with
  | [] => scan
  | c :: rest =>
    let scan := { scan with rest, index := scan.index + 1 }
    if isBreak c && !(c == '\r' && rest.head? == some '\n') then
      { scan with line := scan.line + 1, column := 0 }
    else if c.toNat == 0xFEFF then scan
    else { scan with column := scan.column + 1 }

/-- Past some characters. -/
def forward (n : Nat) : Scanner Unit :=
  modify fun scan => n.repeat advance scan

/-- The characters up to the first that fails the test. -/
def takeWhile (test : Char → Bool) : Scanner (List Char) := do
  let taken := (← get).rest.takeWhile test
  forward taken.length
  return taken

/-- Past blanks. -/
def skipBlanks : Scanner Unit := do
  let _ ← takeWhile (· == ' ')

/-- Past the rest of the line if it is a comment. -/
def skipComment : Scanner Unit := do
  if ← isNext '#' then
    let _ ← takeWhile (!isBreak ·)

/-- Past the end of a line, if it is next. Most ends of lines count as a line feed. -/
def lineBreak : Scanner (List Char) := do
  match (← get).rest with
  | '\r' :: '\n' :: _ => forward 2; return ['\n']
  | c :: _ =>
    if isBreak c then
      forward 1
      return if c.toNat == 0x2028 || c.toNat == 0x2029 then [c] else ['\n']
    else return []
  | [] => return []

/-- Past the rest of a line, which may hold a comment only. -/
def endLine : Scanner Unit := do
  skipBlanks
  skipComment
  require ((← peek 0).all isBreak)
  let _ ← lineBreak

/-- Three dashes or three dots stand alone here. -/
def atMarker : Scanner Bool := do
  let front := (← get).rest.take 3
  return (front == ['-', '-', '-'] || front == ['.', '.', '.']) && endsWord (← peek 3)

/-- A bound on the steps that the characters left allow. -/
def fuel : Scanner Nat := do
  return (← get).rest.length + 1

end Scanner
end Signpost.Yaml
