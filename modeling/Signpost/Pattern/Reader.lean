import Signpost.Pattern.Fault
import Signpost.Pattern.Syntax
import Signpost.Pattern.Token
import Signpost.Platform
import Signpost.Text.Identifier

/-!
# Reading patterns

`Expression.ofText` reads a pattern from its text. The reader goes through the tokens once, from
left to right. It keeps which groups have been closed, and how wide they are, because a reference
may not name an open group and a look behind has to have one width. Letters in a group such as
`(?i:…)` change how what stands inside is read; at the start of a pattern they change all of it.

Calls of the reader on itself are counted against a supply of three for every token, which they
cannot use up: at most three calls lie between two tokens taken, where a group is entered. A pattern
for whose groups the platform has no room is not read at all, and the names of characters are those
that the platform knows.
-/
namespace Signpost.Pattern

/-- How a part of a pattern is to be read. -/
inductive Flag
  | caseless
  | multiline
  | dotAll
  | spaced
  | ascii
  | full
  | rigid
  deriving DecidableEq, Repr, Inhabited

/-- The flags in force. -/
abbrev Flags := List Flag

/-- The flag with the letter. -/
def Flag.ofChar? : Char → Option Flag
  | 'i' => some caseless
  | 'm' => some multiline
  | 's' => some dotAll
  | 'x' => some spaced
  | 'a' => some ascii
  | 'u' => some full
  | 't' => some rigid
  | _ => none

/-- The flag chooses an alphabet; only one such flag may be in force. -/
def Flag.isAlphabet (flag : Flag) : Bool :=
  flag == .ascii || flag == .full

namespace Flags

/-- The flags inside a group that adds some and removes some. -/
def changed (flags added removed : Flags) : Flags :=
  let kept := if added.any Flag.isAlphabet then flags.filter (!·.isAlphabet) else flags
  (added ++ kept).filter (!removed.contains ·)

/-- How letters are compared under the flags. -/
def folding (flags : Flags) : Folding :=
  if !flags.contains .caseless then .exact
  else if flags.contains .ascii then .ascii
  else .full

end Flags

/-- How many characters a pattern matches: at least and at most. -/
structure Width where
  low : Nat
  high : Option Nat
  deriving DecidableEq, Repr, Inhabited

namespace Width

/-- The width of two patterns one after the other. -/
def add (v w : Width) : Width :=
  ⟨v.low + w.low, do return (← v.high) + (← w.high)⟩

/-- The width of one pattern or another. -/
def or (v w : Width) : Width :=
  ⟨min v.low w.low, do return max (← v.high) (← w.high)⟩

/-- The width of repetitions. -/
def times (low : Nat) (high : Option Nat) (w : Width) : Width :=
  ⟨low * w.low,
    if w.high == some 0 || high == some 0 then some 0
    else do return (← high) * (← w.high)⟩

end Width

/-- What an item is, for a quantifier that follows it. -/
inductive Role
  | anchor
  | repeated
  | other
  deriving DecidableEq, Repr, Inhabited

/-- A pattern that has been read, with its width. -/
structure Item where
  pattern : Pattern
  width : Width
  role : Role := .other
  deriving Repr, Inhabited

/-- The items one after the other; they stand in reverse. -/
def Item.sequence (items : List Item) : Item :=
  items.foldl (fun rest item => ⟨.seq item.pattern rest.pattern, item.width.add rest.width, .other⟩)
    ⟨.empty, ⟨0, some 0⟩, .other⟩

/-- One of the items. -/
def Item.alternatives : Item → List Item → Item
  | item, [] => item
  | item, next :: rest =>
    let others := alternatives next rest
    ⟨.either item.pattern others.pattern, item.width.or others.width, .other⟩

/-- How far a pattern has been read: what is left, the flags for the whole, the names and widths of
the groups (an open group has no width yet), the number of groups before the outermost look behind
that is open, the groups that conditions ask about, and whether something has been seen that makes
the pattern useless once it has been read to its end. -/
structure Progress where
  tokens : List Token
  flags : Flags := []
  names : List (String × Nat) := []
  widths : List (Option Width) := []
  fence : Option Nat := none
  asked : List Nat := []
  useless : Bool := false
  deriving Repr, Inhabited

/-- A reader of a part of a pattern. -/
abbrev Reader := StateT Progress (Except Fault)

namespace Reader

/-- Fails. -/
def refuse : Reader α := throw .malformed

/-- Fails unless the condition holds. -/
def require (condition : Bool) : Reader Unit :=
  unless condition do refuse

/-- The next token, which stays. -/
def peek : Reader (Option Token) := do
  return (← get).tokens.head?

/-- Goes on with what is left; a backslash that is next and stands before nothing is an error. -/
def goOn (tokens : List Token) : Reader Unit := do
  require (tokens != [.dangling])
  modify fun progress => { progress with tokens }

/-- The next token, if there is one. -/
def next? : Reader (Option Token) := do
  match (← get).tokens with
  | [] => return none
  | token :: rest => goOn rest; return some token

/-- The next token. -/
def next : Reader Token := do
  match ← next? with
  | some token => return token
  | none => refuse

/-- Takes the character if it is next. -/
def accept (c : Char) : Reader Bool := do
  if (← peek) == some (.plain c) then
    let _ ← next
    return true
  else return false

/-- At most so many of the characters that pass the test. -/
def run (test : Char → Bool) : Nat → Reader (List Char)
  | 0 => return []
  | n + 1 => do
    match ← peek with
    | some (.plain c) =>
      if test c then
        let _ ← next
        return c :: (← run test n)
      else return []
    | _ => return []

/-- The text up to a character, which is taken too; the text may not be empty. -/
def upToChar (c : Char) : Reader (List Char) := do
  let tokens := (← get).tokens
  let passed := tokens.takeWhile (· != .plain c)
  require (passed.length < tokens.length && !passed.isEmpty)
  goOn (tokens.drop (passed.length + 1))
  return passed.flatMap Token.text

/-- Passes over the rest of a comment that ends with the character; it may be cut short by the end
of the pattern only where that is said. -/
def skipComment (c : Char) (atEnd : Bool) : Reader Unit := do
  let tokens := (← get).tokens
  let passed := tokens.takeWhile (· != .plain c)
  require (passed.length < tokens.length || (atEnd && !passed.contains .dangling))
  goOn (tokens.drop (passed.length + 1))

/-- The number of tokens left. -/
def left : Reader Nat := do
  return (← get).tokens.length

/-- The pattern will be of no use. -/
def condemn : Reader Unit :=
  modify fun progress => { progress with useless := true }

/-- The number of a group that is closed. -/
def isClosed (number : Nat) : Reader Bool := do
  let widths := (← get).widths
  return number != 0 && (widths[number - 1]?.getD none).isSome

/-- Inside a look behind, only groups that were closed before it may be named. -/
def checkFence (number : Nat) : Reader Unit := do
  match (← get).fence with
  | none => return
  | some fence => require ((← isClosed number) && number ≤ fence)

/-- A reference to a closed group. -/
def reference (flags : Flags) (number : Nat) : Reader Item := do
  require (← isClosed number)
  checkFence number
  let width := ((← get).widths[number - 1]?.getD none).getD ⟨0, some 0⟩
  return ⟨.reference number flags.folding, width, .other⟩

/-- A group name. -/
def groupName (name : List Char) : Reader String := do
  require (Text.isIdentifier name)
  return String.ofList name

/-- The group with the name. -/
def namedGroup (name : String) : Reader Nat := do
  match (← get).names.lookup name with
  | some number => return number
  | none => refuse

/-- The number with the digits in a base. -/
def inBase (base : Nat) (digits : List Char) : Nat :=
  digits.foldl (fun value c => base * value + (Text.hexValue? c).getD 0) 0

/-- A digit of base eight. -/
def isOctal (c : Char) : Bool :=
  0x30 ≤ c.toNat && c.toNat ≤ 0x37

/-- A code of a fixed number of hexadecimal digits. -/
def hexCode (digits : Nat) : Reader Nat := do
  let read ← run Text.isHexDigit digits
  require (read.length == digits)
  return inBase 16 read

/-- The codes that letters after a backslash stand for. -/
def controlCode? : Char → Option Nat
  | 'a' => some 0x07
  | 'f' => some 0x0C
  | 'n' => some 0x0A
  | 'r' => some 0x0D
  | 't' => some 0x09
  | 'v' => some 0x0B
  | _ => none

/-- The kind of character that a letter after a backslash stands for. -/
def kind? (flags : Flags) (c : Char) : Option Member :=
  let ascii := flags.contains .ascii
  match c with
  | 'd' => some (.kind .digit ascii false)
  | 'D' => some (.kind .digit ascii true)
  | 's' => some (.kind .blank ascii false)
  | 'S' => some (.kind .blank ascii true)
  | 'w' => some (.kind .word ascii false)
  | 'W' => some (.kind .word ascii true)
  | _ => none

variable [Platform]

/-- The code of a character after a backslash that is no digit: given by its number or its name, or
the character itself, which may not be a letter. -/
def escapedCode (c : Char) : Reader Nat := do
  match c with
  | 'x' => hexCode 2
  | 'u' => hexCode 4
  | 'U' =>
    let code ← hexCode 8
    require (code ≤ 0x10FFFF)
    return code
  | 'N' =>
    require (← accept '\x7b')
    match Platform.named? (String.ofList (← upToChar '\x7d')) with
    | some code => return code
    | none => refuse
  | c =>
    require !(Text.isAsciiLetter c)
    return c.toNat

/-- A member of a set, from what follows a backslash. -/
def escapedMember (flags : Flags) (c : Char) : Reader Member := do
  match kind? flags c, controlCode? c with
  | some member, _ => return member
  | none, some code => return .code code
  | none, none =>
    if c == 'b' then return .code 0x08
    else if isOctal c then
      let code := inBase 8 (c :: (← run isOctal 2))
      require (code ≤ 0o377)
      return .code code
    else
      require !(Text.isAsciiDigit c)
      return .code (← escapedCode c)

/-- A set with one member. -/
def single (flags : Flags) (member : Member) : Item :=
  ⟨.char { members := [member], folding := flags.folding }, ⟨1, some 1⟩, .other⟩

/-- A place. -/
def anchor (place : Place) : Item :=
  ⟨.place place, ⟨0, some 0⟩, .anchor⟩

/-- What digits after a backslash stand for: a code in base eight, if there are three of them, or a
group. -/
def numberedItem (flags : Flags) (c : Char) : Reader Item := do
  match ← run Text.isAsciiDigit 1 with
  | [d] =>
    if isOctal c && isOctal d then
      match ← run isOctal 1 with
      | [e] =>
        let code := inBase 8 [c, d, e]
        require (code ≤ 0o377)
        return single flags (.code code)
      | _ => reference flags (inBase 10 [c, d])
    else reference flags (inBase 10 [c, d])
  | _ => reference flags (inBase 10 [c])

/-- An item from what follows a backslash. -/
def escapedItem (flags : Flags) (c : Char) : Reader Item := do
  let ascii := flags.contains .ascii
  match c with
  | 'A' => return anchor .textStart
  | 'Z' => return anchor .textEnd
  | 'b' => return anchor (.wordEdge ascii)
  | 'B' => return anchor (.noWordEdge ascii)
  | '0' => return single flags (.code (inBase 8 (← run isOctal 2)))
  | c =>
    if Text.isAsciiDigit c then numberedItem flags c
    else
      match kind? flags c, controlCode? c with
      | some member, _ => return single flags member
      | none, some code => return single flags (.code code)
      | none, none => return single flags (.code (← escapedCode c))

/-- A member of a set that begins with the token. -/
def memberOf (flags : Flags) : Token → Reader Member
  | .plain c => return .code c.toNat
  | .escaped c => escapedMember flags c
  | .dangling => refuse

/-- The members of a set up to its bracket; a bracket in front is a member. -/
def members (flags : Flags) : Nat → List Member → Reader (List Member)
  | 0, _ => refuse
  | fuel + 1, done => do
    let token ← next
    if token == .plain ']' && !done.isEmpty then return done.reverse
    let low ← memberOf flags token
    if ← accept '-' then
      let token ← next
      if token == .plain ']' then return (.code '-'.toNat :: low :: done).reverse
      match low, ← memberOf flags token with
      | .code low, .code high =>
        require (low ≤ high)
        members flags fuel (.range low high :: done)
      | _, _ => refuse
    else members flags fuel (low :: done)

/-- A character set after its bracket. -/
def setItem (flags : Flags) : Reader Item := do
  let negated ← accept '^'
  let members ← members flags ((← left) + 1) []
  return ⟨.char ⟨members, negated, flags.folding⟩, ⟨1, some 1⟩, .other⟩

/-- Numbers of repetitions from this one on are refused. -/
def repetitionLimit : Nat := 4294967295

/-- The number of repetitions with the digits; without digits there is none. -/
def bound (digits : List Char) : Reader (Option Nat) :=
  if digits.isEmpty then return none
  else if digits.length > Number.digitLimit then throw (.numeralTooLong digits.length)
  else
    let n := inBase 10 digits
    if n < repetitionLimit then return some n else throw .repetitionTooLarge

/-- The bounds in braces, after the opening one. Braces that hold anything but bounds are plain
characters, and nothing is taken. -/
def braces : Reader (Option (Nat × Option Nat)) := do
  let start ← get
  if (← peek) == some (.plain '\x7d') then return none
  let size ← left
  let low ← run Text.isAsciiDigit size
  let high ← if ← accept ',' then run Text.isAsciiDigit size else pure low
  if ← accept '\x7d' then
    let low ← bound low
    let high ← bound high
    require (high.all (low.getD 0 ≤ ·))
    return some (low.getD 0, high)
  else
    set start
    return none

/-- The last of the items read, repeated; they stand in reverse. Places and repetitions cannot be
repeated. -/
def repeated (flags : Flags) (low : Nat) (high : Option Nat) : List Item → Reader (List Item)
  | [] => refuse
  | item :: done => do
    require (item.role == .other)
    let greed ← if ← accept '?' then pure .reluctant else
      if ← accept '+' then pure .possessive else pure .greedy
    if flags.contains .rigid then condemn
    return ⟨.iterate low high greed item.pattern, item.width.times low high, .repeated⟩ :: done

/-- The letters of flags up to one of the stops, which is returned. -/
def flagRun (stops : List Char) : Nat → Flags → Char → Reader (Flags × Char)
  | 0, _, _ => refuse
  | fuel + 1, flags, c => do
    match Flag.ofChar? c with
    | none => refuse
    | some flag =>
      let flags := flag :: flags
      match ← next with
      | .plain d => if stops.contains d then return (flags, d) else flagRun stops fuel flags d
      | _ => refuse

/-- The letters in front of a group that begins with one, or with a dash: those added and those
removed. Where the group ends with them, they hold for the whole pattern. -/
def groupFlags (c : Char) : Reader (Flags × Option Flags) := do
  let fuel := (← left) + 1
  let (added, stop) ← if c == '-' then pure ([], '-') else flagRun [')', '-', ':'] fuel [] c
  require !(added.contains .ascii && added.contains .full)
  if stop == ')' then return (added, none)
  require !(added.contains .rigid)
  if stop == ':' then return (added, some [])
  match ← next with
  | .plain d =>
    let (removed, _) ← flagRun [':'] fuel [] d
    require !(removed.any fun flag => flag.isAlphabet || flag == .rigid || added.contains flag)
    return (added, some removed)
  | _ => refuse

/-- The number of a new group, which stays open. -/
def openGroup (name : Option String) : Reader Nat := do
  let progress ← get
  let number := progress.widths.length + 1
  match name with
  | none => set { progress with widths := progress.widths ++ [none] }
  | some name =>
    require (progress.names.lookup name).isNone
    set { progress with
      widths := progress.widths ++ [none], names := progress.names ++ [(name, number)] }
  return number

/-- Closes a group. -/
def closeGroup (number : Nat) (width : Width) : Reader Unit :=
  modify fun progress => { progress with widths := progress.widths.set (number - 1) (some width) }

/-- Takes the end of a group. -/
def endGroup : Reader Unit := do
  require (← accept ')')

/-- The group that a condition asks about. -/
def askedGroup : Reader Nat := do
  let name ← upToChar ')'
  let number ←
    if Text.isIdentifier name then namedGroup (String.ofList name)
    else
      match Number.integer? (String.ofList name) with
      | some (n : Int) =>
        require (0 < n)
        modify fun progress => { progress with asked := n.toNat :: progress.asked }
        pure n.toNat
      | none => refuse
  checkFence number
  return number

/-- A group of parentheses: an item, nothing, or flags for the whole pattern. -/
inductive Part
  | item (item : Item)
  | nothing
  | flags (flags : Flags)

/-- Enters a look behind, if it is the outermost; the earlier state is returned. -/
def raiseFence : Reader (Option Nat) := do
  let progress ← get
  if progress.fence.isNone then set { progress with fence := some progress.widths.length }
  return progress.fence

/-- A look, of an item that has been read. -/
def lookItem (behind negated : Bool) (item : Item) : Reader Item := do
  if behind then
    unless item.width.high == some item.width.low && item.width.low ≤ repetitionLimit do condemn
    return ⟨.look (.behind item.width.low) negated item.pattern, ⟨0, some 0⟩, .other⟩
  else return ⟨.look .ahead negated item.pattern, ⟨0, some 0⟩, .other⟩

mutual

/-- Alternatives with bars between. At the outermost level, flags in front of the first hold for
the others too. -/
def alternatives : Nat → Flags → Bool → Bool → Reader Item
  | 0, _, _, _ => refuse
  | fuel + 1, flags, outermost, first => do
    let item := Item.sequence (← sequence fuel flags (outermost && first) [])
    if ← accept '|' then
      let progress ← get
      let flags := if outermost then progress.flags else flags
      let others ← alternatives fuel flags outermost false
      return Item.alternatives item [others]
    else return item

/-- Items up to a bar or the end of a group; those read already stand in reverse. -/
def sequence : Nat → Flags → Bool → List Item → Reader (List Item)
  | 0, _, _, _ => refuse
  | fuel + 1, flags, first, done => do
    match ← peek with
    | none | some (.plain '|') | some (.plain ')') => return done
    | some token =>
      let _ ← next
      let spaced := flags.contains .spaced
      let add (item : Item) : Reader (List Item) := sequence fuel flags first (item :: done)
      let iterate (low : Nat) (high : Option Nat) : Reader (List Item) := do
        sequence fuel flags first (← repeated flags low high done)
      match token with
      | .dangling => refuse
      | .escaped c => add (← escapedItem flags c)
      | .plain c =>
        if spaced && isAsciiBlank c then sequence fuel flags first done
        else if spaced && c == '#' then
          skipComment '\n' true
          sequence fuel flags first done
        else
          match c with
          | '[' => add (← setItem flags)
          | '.' =>
            let breaks := if flags.contains .dotAll then [] else [Member.code '\n'.toNat]
            add ⟨.char ⟨breaks, true, .exact⟩, ⟨1, some 1⟩, .other⟩
          | '^' => add (anchor (if flags.contains .multiline then .lineStart else .textStart))
          | '$' => add (anchor (if flags.contains .multiline then .lineEnd else .lastLineEnd))
          | '?' => iterate 0 (some 1)
          | '*' => iterate 0 none
          | '+' => iterate 1 none
          | '\x7b' =>
            match ← braces with
            | some (low, high) => iterate low high
            | none => add (single flags (.code c.toNat))
          | '(' =>
            match ← group fuel flags with
            | .item item => add item
            | .nothing => sequence fuel flags first done
            | .flags added =>
              require (first && done.isEmpty)
              modify fun progress => { progress with flags := added ++ progress.flags }
              sequence fuel (added ++ flags) first done
          | c => add (single flags (.code c.toNat))

/-- What stands in parentheses, after the opening one. -/
def group : Nat → Flags → Reader Part
  | 0, _ => refuse
  | fuel + 1, flags => do
    let inner (flags : Flags) : Reader Item := do
      let item ← alternatives fuel flags false false
      endGroup
      return { item with role := .other }
    let capturing (name : Option String) : Reader Part := do
      let number ← openGroup name
      let item ← inner flags
      closeGroup number item.width
      return .item ⟨.group number item.pattern, item.width, .other⟩
    let look (behind negated : Bool) : Reader Part := do
      if behind then
        let fence ← raiseFence
        let item ← inner flags
        modify fun progress => { progress with fence }
        return .item (← lookItem behind negated item)
      else return .item (← lookItem behind negated (← inner flags))
    if !(← accept '?') then capturing none
    else
      match ← next with
      | .plain 'P' =>
        if ← accept '<' then capturing (some (← groupName (← upToChar '>')))
        else
          require (← accept '=')
          let name ← groupName (← upToChar ')')
          return .item (← reference flags (← namedGroup name))
      | .plain ':' => return .item (← inner flags)
      | .plain '#' =>
        skipComment ')' false
        return .nothing
      | .plain '=' => look false false
      | .plain '!' => look false true
      | .plain '<' =>
        match ← next with
        | .plain '=' => look true false
        | .plain '!' => look true true
        | _ => refuse
      | .plain '(' =>
        let number ← askedGroup
        let yes := Item.sequence (← sequence fuel flags false [])
        let no ← if ← accept '|' then
            pure (Item.sequence (← sequence fuel flags false []))
          else pure ⟨.empty, ⟨0, some 0⟩, .other⟩
        endGroup
        return .item ⟨.ifGroup number yes.pattern no.pattern, yes.width.or no.width, .other⟩
      | .plain '>' =>
        let item ← inner flags
        return .item ⟨.atomic item.pattern, item.width, .other⟩
      | .plain c =>
        match ← groupFlags c with
        | (added, none) => return .flags added
        | (added, some removed) => return .item (← inner (flags.changed added removed))
      | _ => refuse

end

/-- The whole pattern. -/
def whole : Reader Expression := do
  goOn (← get).tokens
  let item ← alternatives (3 * (← left) + 3) [] true true
  let progress ← get
  if progress.flags.contains .ascii && progress.flags.contains .full then throw .alphabetsClash
  require progress.tokens.isEmpty
  require (progress.asked.all (· ≤ progress.widths.length))
  require !progress.useless
  return ⟨item.pattern, progress.widths.length, progress.names⟩

end Reader
end Signpost.Pattern

namespace Signpost

/-- The expression that a text denotes, if there is room to read it. -/
def Expression.ofText [Platform] (text : String) : Except Pattern.Fault Expression :=
  if Platform.hasRoomFor text.toList then
    Pattern.Reader.whole.run' { tokens := Pattern.Token.scan text.toList }
  else .error .tooDeep

end Signpost
