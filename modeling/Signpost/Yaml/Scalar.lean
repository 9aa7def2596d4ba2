import Signpost.Yaml.Token

/-!
# Scalars of a configuration text

A scalar is written plainly, in quotes, or as a block. Its lines are folded into one: a single line
break is a blank, and of several the first is dropped. In a literal block the lines stay as they
are.
-/
namespace Signpost.Yaml.Scanner

/-- What a letter after a backslash stands for. -/
def escapes : List (Char × Nat) :=
  [('0', 0), ('a', 0x07), ('b', 0x08), ('t', 0x09), ('\t', 0x09), ('n', 0x0A), ('v', 0x0B),
    ('f', 0x0C), ('r', 0x0D), ('e', 0x1B), (' ', 0x20), ('"', 0x22), ('/', 0x2F), ('\\', 0x5C),
    ('N', 0x85), ('_', 0xA0), ('L', 0x2028), ('P', 0x2029)]

/-- The number of hexadecimal digits after a letter. -/
def escapeLength? : Char → Option Nat
  | 'x' => some 2
  | 'u' => some 4
  | 'U' => some 8
  | _ => none

/-- The number that hexadecimal digits denote. -/
def hexNumber (digits : List Char) : Nat :=
  digits.foldl (fun value c => 16 * value + (Text.hexValue? c).getD 0) 0

/-- The blank lines inside quotes; a document may not end there. -/
def quotedBreaks : Nat → Scanner (List Char)
  | 0 => refuse
  | fuel + 1 => do
    require !(← atMarker)
    let _ ← takeWhile fun c => c == ' ' || c == '\t'
    match ← lineBreak with
    | [] => return []
    | one => return one ++ (← quotedBreaks fuel)

/-- What a backslash begins. -/
def escape : Scanner (List Char) := do
  match ← peek 0 with
  | none => refuse
  | some c =>
    match escapes.lookup c, escapeLength? c with
    | some code, _ =>
      forward 1
      return [Char.ofNat code]
    | none, some length =>
      forward 1
      let digits := (← get).rest.take length
      require (digits.length == length && digits.all Text.isHexDigit)
      forward length
      let code := hexNumber digits
      if code > 0x10FFFF then throw (.unreadable "chr() arg not in range(0x110000)")
      if Text.isSurrogate code then throw .unpaired
      return [Char.ofNat code]
    | none, none =>
      require (isBreak c)
      let _ ← lineBreak
      quotedBreaks (← fuel)

/-- The characters inside quotes up to a blank, the end of a line, or the closing quote. -/
def quotedWord (double : Bool) : Nat → Scanner (List Char)
  | 0 => refuse
  | fuel + 1 => do
    let word ← takeWhile fun c =>
      !(c == '\'' || c == '"' || c == '\\' || c == ' ' || c == '\t' || isBreak c)
    match ← peek 0, ← peek 1 with
    | some '\'', some '\'' =>
      if double then
        forward 1
        return word ++ '\'' :: (← quotedWord double fuel)
      else
        forward 2
        return word ++ '\'' :: (← quotedWord double fuel)
    | some '\'', _ =>
      if double then
        forward 1
        return word ++ '\'' :: (← quotedWord double fuel)
      else return word
    | some '"', _ =>
      if double then return word
      else
        forward 1
        return word ++ '"' :: (← quotedWord double fuel)
    | some '\\', _ =>
      forward 1
      if double then
        let escaped ← escape
        return word ++ escaped ++ (← quotedWord double fuel)
      else return word ++ '\\' :: (← quotedWord double fuel)
    | _, _ => return word

/-- The blanks inside quotes, or the ends of lines that they belong to. -/
def quotedBlanks : Scanner (List Char) := do
  let blanks ← takeWhile fun c => c == ' ' || c == '\t'
  require (← peek 0).isSome
  match ← lineBreak with
  | [] => return blanks
  | first =>
    let breaks ← quotedBreaks (← fuel)
    if first != ['\n'] then return first ++ breaks
    else if breaks.isEmpty then return [' ']
    else return breaks

/-- The rest of a scalar in quotes. -/
def quotedRest (double : Bool) (quote : Char) : Nat → Scanner (List Char)
  | 0 => refuse
  | fuel + 1 => do
    if ← isNext quote then
      forward 1
      return []
    else
      let blanks ← quotedBlanks
      let word ← quotedWord double (← Scanner.fuel)
      return blanks ++ word ++ (← quotedRest double quote fuel)

/-- A scalar in quotes. -/
def quotedScalar (quote : Char) : Scanner (List Char) := do
  let double := quote == '"'
  forward 1
  let word ← quotedWord double (← fuel)
  return word ++ (← quotedRest double quote (← fuel))

/-- What becomes of the line breaks at the end of a block. -/
inductive Chomping
  | clip
  | strip
  | keep
  deriving DecidableEq, Repr, Inhabited

/-- The sign of a chomping, if it is next. -/
def chomping : Scanner (Option Chomping) := do
  match ← peek 0 with
  | some '+' => forward 1; return some .keep
  | some '-' => forward 1; return some .strip
  | _ => return none

/-- The digit of an indentation, if it is next. -/
def indentDigit : Scanner (Option Nat) := do
  match ← peek 0 with
  | some c =>
    if Text.isAsciiDigit c then
      require (c != '0')
      forward 1
      return some (c.toNat - 0x30)
    else return none
  | none => return none

/-- The signs after the mark of a block, in either order. -/
def blockHeader : Scanner (Chomping × Option Nat) := do
  match ← chomping with
  | some sign => return (sign, ← indentDigit)
  | none =>
    let digit ← indentDigit
    let sign ← if digit.isSome then chomping else pure none
    return (sign.getD .clip, digit)

/-- The blank lines at the front of a block, with the widest indentation among them and the first
line. -/
def leadingLines : Nat → Nat → Scanner (List Char × Nat)
  | 0, _ => refuse
  | fuel + 1, widest => do
    if ← isNext ' ' then
      forward 1
      leadingLines fuel (max widest (← get).column)
    else
      match ← lineBreak with
      | [] => return ([], widest)
      | one =>
        let (more, widest) ← leadingLines fuel widest
        return (one ++ more, widest)

/-- Past blanks up to a column. -/
def indentTo (column : Nat) : Scanner Unit := do
  let scan ← get
  let blanks := (scan.rest.takeWhile (· == ' ')).length
  forward (min blanks (column - scan.column))

/-- The blank lines inside a block, up to its indentation on the next line. -/
def blockBreaks (column : Nat) : Nat → Scanner (List Char)
  | 0 => refuse
  | fuel + 1 => do
    indentTo column
    match ← lineBreak with
    | [] => return []
    | one => return one ++ (← blockBreaks column fuel)

/-- A character that keeps a folded line apart from its neighbours. -/
def isSpaced (c : Option Char) : Bool :=
  c == some ' ' || c == some '\t'

/-- The lines of a block from one on that stands at its indentation; the breaks in front of that
line are given. -/
def blockLines (folded : Bool) (chomping : Chomping) (column : Nat) (breaks : List Char) :
    Nat → Scanner (List Char)
  | 0 => refuse
  | fuel + 1 => do
    let spaced := isSpaced (← peek 0)
    let line ← takeWhile (!isBreak ·)
    let ending ← lineBreak
    let after ← blockBreaks column (← Scanner.fuel)
    if (← get).column == column && (← peek 0).isSome then
      let joint :=
        if folded && ending == ['\n'] && !spaced && !isSpaced (← peek 0) then
          if after.isEmpty then [' '] else []
        else ending
      return breaks ++ line ++ joint ++ (← blockLines folded chomping column after fuel)
    else
      let tail :=
        match chomping with
        | .strip => []
        | .clip => ending
        | .keep => ending ++ after
      return breaks ++ line ++ tail

/-- A scalar as a block, after its mark is next. -/
def blockScalar (folded : Bool) : Scanner (List Char) := do
  forward 1
  let (chomping, digit) ← blockHeader
  require (endsPart (← peek 0))
  endLine
  let least := Int.toNat (max 1 ((← get).indent + 1))
  let (breaks, column) ←
    match digit with
    | some digit =>
      let column := least + digit - 1
      pure (← blockBreaks column (← fuel), column)
    | none =>
      let (breaks, widest) ← leadingLines (← fuel) 0
      pure (breaks, max least widest)
  if (← get).column == column && (← peek 0).isSome then
    blockLines folded chomping column breaks (← fuel)
  else return if chomping == .keep then breaks else []

/-- The blank lines inside a plain scalar; nothing where a document ends. -/
def plainBreaks : Nat → Scanner (Option (List Char))
  | 0 => refuse
  | fuel + 1 => do
    if ← atMarker then return none
    skipBlanks
    match ← lineBreak with
    | [] => return some []
    | one => return (← plainBreaks fuel).map (one ++ ·)

/-- What stands between two words of a plain scalar; empty where the scalar ends. -/
def plainBlanks : Scanner (List Char) := do
  let blanks ← takeWhile (· == ' ')
  match ← lineBreak with
  | [] => return blanks
  | first =>
    modify fun scan => { scan with keyAllowed := true }
    match ← plainBreaks (← fuel) with
    | none => return []
    | some breaks =>
      if first != ['\n'] then return first ++ breaks
      else if breaks.isEmpty then return [' ']
      else return breaks

/-- The length of the word of a plain scalar at the front of a text. Inside brackets, signs of
structure end it. -/
def plainWordLength (flow : Bool) : List Char → Nat
  | [] => 0
  | c :: rest =>
    let isFlowSign (c : Char) : Bool :=
      c == ',' || c == '[' || c == ']' || c == '\x7b' || c == '\x7d'
    let ends := endsWord (some c)
      || (c == ':' && (endsWord rest.head? || (flow && rest.head?.any isFlowSign)))
      || (flow && (c == '?' || isFlowSign c))
    if ends then 0 else plainWordLength flow rest + 1

/-- The words of a plain scalar after the blanks given. -/
def plainWords (blanks : List Char) : Nat → Scanner (List Char)
  | 0 => refuse
  | fuel + 1 => do
    let scan ← get
    let length :=
      if scan.rest.head? == some '#' then 0 else plainWordLength (scan.depth != 0) scan.rest
    if length == 0 then return []
    let word := scan.rest.take length
    set { scan with keyAllowed := false }
    forward length
    let after ← plainBlanks
    let scan ← get
    if after.isEmpty || scan.rest.head? == some '#'
        || (scan.depth == 0 && scan.column < scan.indent + 1) then
      return blanks ++ word
    else return blanks ++ word ++ (← plainWords after fuel)

/-- A plain scalar. -/
def plainScalar : Scanner (List Char) := do
  plainWords [] (← fuel)

end Signpost.Yaml.Scanner
