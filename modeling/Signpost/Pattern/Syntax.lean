import Signpost.Text.Blank
import Signpost.Text.Case
import Signpost.Text.Word

/-!
# Patterns

A pattern rule holds for the paths in which its pattern is found. This module has the form of a
pattern: characters are tested against sets, places between characters against their neighbours,
and groups remember what they matched.
-/
namespace Signpost

/-- How far letters of different case count as the same. -/
inductive Folding
  | exact
  | ascii
  | full
  deriving DecidableEq, Repr, Inhabited

/-- A kind of character that has a short name in patterns. -/
inductive CharKind
  | digit
  | blank
  | word
  deriving DecidableEq, Repr, Inhabited

/-- The blanks of ASCII. -/
def isAsciiBlank (c : Char) : Bool :=
  c == ' ' || (0x09 ≤ c.toNat && c.toNat ≤ 0x0D)

/-- The character is of the kind, within ASCII or among all characters. -/
def CharKind.holds (kind : CharKind) (ascii : Bool) (c : Char) : Bool :=
  match kind, ascii with
  | digit, true => Text.isAsciiDigit c
  | digit, false => Text.isDigit c
  | blank, true => isAsciiBlank c
  | blank, false => Text.isBlank c
  | word, true => Text.isAsciiWord c
  | word, false => Text.isWord c

/-- A member of a character set. Codes need not be those of characters. -/
inductive Member
  | code (code : Nat)
  | range (low high : Nat)
  | kind (sort : CharKind) (ascii : Bool) (negated : Bool)
  deriving DecidableEq, Repr, Inhabited

/-- A set of characters, or all characters outside of it. -/
structure CharSet where
  members : List Member
  negated : Bool := false
  folding : Folding := .exact
  deriving DecidableEq, Repr, Inhabited

namespace Folding

/-- The characters that count as the given one. -/
def variants : Folding → Char → List Char
  | exact, c => [c]
  | ascii, c => Text.asciiVariants c
  | full, c => Text.variants c

/-- The character that stands for all that differ in case only. -/
def lower : Folding → Char → Char
  | exact, c => c
  | ascii, c => Text.toAsciiLower c
  | full, c => Text.toLower c

end Folding

/-- The member covers the character. -/
def Member.covers (folding : Folding) (c : Char) : Member → Bool
  | code n => (folding.variants c).any fun v => v.toNat == n
  | range low high => (folding.variants c).any fun v => low ≤ v.toNat && v.toNat ≤ high
  | kind sort ascii negated => sort.holds ascii (folding.lower c) != negated

/-- The set admits the character. -/
def CharSet.admits (set : CharSet) (c : Char) : Bool :=
  (set.members.any fun member => member.covers set.folding c) != set.negated

/-- A place between characters. -/
inductive Place
  | textStart
  | lineStart
  | textEnd
  | lineEnd
  | lastLineEnd
  | wordEdge (ascii : Bool)
  | noWordEdge (ascii : Bool)
  deriving DecidableEq, Repr, Inhabited

/-- How often an item is tried before what follows it: as often as possible, as rarely as possible,
or as often as possible for good. -/
inductive Greed
  | greedy
  | reluctant
  | possessive
  deriving DecidableEq, Repr, Inhabited

/-- Which way a look goes, with the number of characters that it goes back. -/
inductive Direction
  | ahead
  | behind (width : Nat)
  deriving DecidableEq, Repr, Inhabited

/-- A pattern. -/
inductive Pattern
  | empty
  | char (set : CharSet)
  | place (place : Place)
  | seq (first second : Pattern)
  | either (first second : Pattern)
  | iterate (low : Nat) (high : Option Nat) (greed : Greed) (body : Pattern)
  | group (number : Nat) (body : Pattern)
  | reference (number : Nat) (folding : Folding)
  | look (direction : Direction) (negated : Bool) (body : Pattern)
  | atomic (body : Pattern)
  | ifGroup (number : Nat) (yes no : Pattern)
  deriving DecidableEq, Repr, Inhabited

/-- A pattern with the number of its groups and the names that some of them have. -/
structure Expression where
  pattern : Pattern
  groups : Nat
  names : List (String × Nat)
  deriving DecidableEq, Repr, Inhabited

end Signpost
