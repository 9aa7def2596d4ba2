import Signpost.Pattern.Syntax

/-!
# Finding a pattern in a text

The matcher goes through a pattern with the work that remains after it as a continuation. Of
several ways to match, the one found first counts, so the order of trials decides: the first
alternative before the second, an item once more before what follows it, unless it is reluctant. An
item that may be repeated without bound is tried once more only where the last trial has moved,
which bounds the trials by the length of the text.
-/
namespace Signpost

/-- A place in a text, with what the groups have matched so far, the latest first. The characters
before the place stand in reverse. -/
structure Spot where
  before : List Char
  after : List Char
  groups : List (Nat × List Char) := []
  deriving DecidableEq, Repr, Inhabited

namespace Spot

/-- What a group matched last. -/
def group? (spot : Spot) (number : Nat) : Option (List Char) :=
  spot.groups.lookup number

/-- The spot after one more character. -/
def step? (spot : Spot) : Option (Char × Spot) :=
  match spot.after with
  | [] => none
  | c :: rest => some (c, { spot with before := c :: spot.before, after := rest })

/-- The spot some characters back. -/
def back? : Nat → Spot → Option Spot
  | 0, spot => some spot
  | n + 1, spot =>
    match spot.before with
    | [] => none
    | c :: rest => back? n { spot with before := rest, after := c :: spot.after }

/-- The spot after a text that has to follow, letters compared as the folding says. -/
def follow? (folding : Folding) : List Char → Spot → Option Spot
  | [], spot => some spot
  | c :: rest, spot =>
    match spot.step? with
    | none => none
    | some (d, next) => if folding.lower c == folding.lower d then follow? folding rest next else none

/-- The text from the spot to a later one. -/
def textTo (spot later : Spot) : List Char :=
  spot.after.take (spot.after.length - later.after.length)

/-- The spot, with the text from an earlier one as what the group matched. -/
def close (spot : Spot) (number : Nat) (start : Spot) : Spot :=
  { spot with groups := (number, start.textTo spot) :: spot.groups }

/-- Exactly one of the two neighbours is a word character. -/
def atWordEdge (spot : Spot) (ascii : Bool) : Bool :=
  spot.before.head?.any (CharKind.word.holds ascii) != spot.after.head?.any (CharKind.word.holds ascii)

/-- The text has no characters. -/
def ofEmptyText (spot : Spot) : Bool :=
  spot.before.isEmpty && spot.after.isEmpty

/-- The spot is a place of the kind. In the empty text there are neither word edges nor other
places of that sort. -/
def isAt (spot : Spot) : Place → Bool
  | .textStart => spot.before.isEmpty
  | .lineStart => spot.before.head?.all (· == '\n')
  | .textEnd => spot.after.isEmpty
  | .lineEnd => spot.after.head?.all (· == '\n')
  | .lastLineEnd => spot.after.isEmpty || spot.after == ['\n']
  | .wordEdge ascii => !spot.ofEmptyText && spot.atWordEdge ascii
  | .noWordEdge ascii => !spot.ofEmptyText && !spot.atWordEdge ascii

end Spot

/-- What remains to be matched from a spot on. -/
abbrev Rest := Spot → Option Spot

/-- An item a number of times, whatever it matches. -/
def exactly (item : Rest → Rest) : Nat → Rest → Rest
  | 0, rest => rest
  | n + 1, rest => item (exactly item n rest)

/-- An item up to a number of times. The length of the text after the last trial is given; where it
is that of the spot, the item is not tried again. -/
def upTo (item : Rest → Rest) (reluctant : Bool) (rest : Rest) : Nat → Option Nat → Rest
  | 0, _, spot => rest spot
  | n + 1, last, spot =>
    let here := spot.after.length
    if last == some here then rest spot
    else if reluctant then
      match rest spot with
      | some found => some found
      | none => item (upTo item reluctant rest n (some here)) spot
    else
      match item (upTo item reluctant rest n (some here)) spot with
      | some found => some found
      | none => rest spot

/-- How many more times than it has to an item can be of use: every trial but the last moves on. -/
def spare (low : Nat) (high : Option Nat) (spot : Spot) : Nat :=
  match high with
  | none => spot.after.length + 1
  | some high => min (high - low) (spot.after.length + 1)

/-- An item at least `low` and at most `high` times. -/
def between (item : Rest → Rest) (low : Nat) (high : Option Nat) (reluctant : Bool) (rest : Rest) :
    Rest :=
  exactly item low fun spot => upTo item reluctant rest (spare low high spot) none spot

/-- The first way in which an item matches, and no other. -/
def committed (item : Rest → Rest) (rest : Rest) : Rest := fun spot =>
  (item some spot).bind rest

/-- The pattern, then the rest. -/
def Pattern.run : Pattern → Rest → Rest
  | .empty, rest => rest
  | .char set, rest => fun spot =>
    match spot.step? with
    | none => none
    | some (c, next) => if set.admits c then rest next else none
  | .place kind, rest => fun spot => if spot.isAt kind then rest spot else none
  | .seq first second, rest => first.run (second.run rest)
  | .either first second, rest => fun spot =>
    match first.run rest spot with
    | some found => some found
    | none => second.run rest spot
  | .iterate low high .possessive body, rest =>
    committed (between (committed body.run) low high false) rest
  | .iterate low high greed body, rest => between body.run low high (greed == .reluctant) rest
  | .group number body, rest => fun spot =>
    body.run (fun stop => rest (stop.close number spot)) spot
  | .reference number folding, rest => fun spot =>
    match spot.group? number with
    | none => none
    | some text => (spot.follow? folding text).bind rest
  | .look .ahead false body, rest => fun spot =>
    (body.run some spot).bind fun seen => rest { spot with groups := seen.groups }
  | .look .ahead true body, rest => fun spot =>
    if (body.run some spot).isNone then rest spot else none
  | .look (.behind width) false body, rest => fun spot =>
    ((spot.back? width).bind (body.run some)).bind fun seen =>
      rest { spot with groups := seen.groups }
  | .look (.behind width) true body, rest => fun spot =>
    if ((spot.back? width).bind (body.run some)).isNone then rest spot else none
  | .atomic body, rest => committed body.run rest
  | .ifGroup number yes no, rest => fun spot =>
    if (spot.group? number).isSome then yes.run rest spot else no.run rest spot

/-- Where a pattern was found: the text before, the text of the match, the text after, and what the
groups matched. -/
structure Match where
  before : List Char
  matched : List Char
  after : List Char
  groups : List (Nat × List Char)
  deriving DecidableEq, Repr, Inhabited

/-- The match of a pattern that begins at the spot. -/
def Pattern.matchAt (pattern : Pattern) (spot : Spot) : Option Match :=
  (pattern.run some spot).map fun stop =>
    ⟨spot.before.reverse, spot.textTo stop, stop.after, stop.groups⟩

/-- The first match at the end of `before` or later. -/
def Pattern.searchFrom (pattern : Pattern) (before : List Char) : List Char → Option Match
  | [] => pattern.matchAt ⟨before, [], []⟩
  | c :: rest =>
    match pattern.matchAt ⟨before, c :: rest, []⟩ with
    | some found => some found
    | none => pattern.searchFrom (c :: before) rest

/-- The leftmost match in a text. -/
def Pattern.search (pattern : Pattern) (text : List Char) : Option Match :=
  pattern.searchFrom [] text

/-- What a group matched; the whole match is group zero, and a group that took no part matched the
empty text. -/
def Match.group (found : Match) (number : Nat) : List Char :=
  if number = 0 then found.matched else (found.groups.lookup number).getD []

/-- The text with the match replaced. -/
def Match.replace (found : Match) (replacement : List Char) : List Char :=
  found.before ++ replacement ++ found.after

end Signpost
