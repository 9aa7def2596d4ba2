import Signpost.Yaml.Scalar

/-!
# The layout of a configuration text

`tokens` turns a configuration text into its tokens. A block begins where a key or a dash stands
further in than the block around it, and ends where a line stands further out. That a token is a key
is seen only at the colon after it, on the same line; the marks of the key, and of the block that
begins with it, are then put in front of the token.
-/
namespace Signpost.Yaml
namespace Scanner

/-- One more token. -/
def emit (token : Token) : Scanner Unit :=
  modify fun scan => { scan with tokens := scan.tokens.push token }

/-- A token put in front of the one with the number. -/
def emitAt (number : Nat) (token : Token) : Scanner Unit :=
  modify fun scan =>
    { scan with
      tokens := (scan.tokens.extract 0 number).push token
        ++ scan.tokens.extract number scan.tokens.size }

/-- Whether a key may begin here. -/
def allowKey (allowed : Bool) : Scanner Unit :=
  modify fun scan => { scan with keyAllowed := allowed }

/-- The blocks that stand further in than the column end. -/
def closeBlocks (column : Int) : Scanner Unit :=
  modify fun scan =>
    if scan.depth != 0 then scan else close scan (scan.outer.length + 1)
where
  /-- The blocks end one after the other. -/
  close (scan : Scan) : Nat → Scan
    | 0 => scan
    | fuel + 1 =>
      if scan.indent > column then
        close { scan with
          tokens := scan.tokens.push .blockEnd, indent := scan.outer.headD (-1)
          outer := scan.outer.drop 1 } fuel
      else scan

/-- A block begins at the column, unless it stands no further in than the one around it. -/
def openBlock (column : Nat) : Scanner Bool := do
  let scan ← get
  if scan.indent < column then
    set { scan with indent := column, outer := scan.indent :: scan.outer }
    return true
  else return false

/-- The possible key inside the present brackets is none; one that has to be a key is an error. -/
def dropKey : Scanner Unit := do
  let scan ← get
  match scan.keys.lookup scan.depth with
  | none => return
  | some key =>
    require !key.required
    set { scan with keys := scan.keys.filter (·.1 != scan.depth) }

/-- A key stands on one line and is not too long. -/
def isStale (scan : Scan) (key : PossibleKey) : Bool :=
  key.line != scan.line || scan.index - key.index > 1024

/-- Possible keys whose line has ended are none. -/
def dropStaleKeys : Scanner Unit := do
  let scan ← get
  require !(scan.keys.any fun entry => isStale scan entry.2 && entry.2.required)
  set { scan with keys := scan.keys.filter fun entry => !isStale scan entry.2 }

/-- The token that begins here is possibly a key. -/
def saveKey : Scanner Unit := do
  let scan ← get
  if scan.keyAllowed then
    dropKey
    let required := scan.depth == 0 && scan.indent == scan.column
    modify fun now =>
      { now with
        keys := (scan.depth, ⟨scan.tokens.size, required, scan.index, scan.line, scan.column⟩)
          :: now.keys }

/-- Past blanks, comments and the ends of lines. Outside of brackets, a key may begin on a new
line. -/
def skipToToken : Nat → Scanner Unit
  | 0 => refuse
  | fuel + 1 => do
    skipBlanks
    skipComment
    match ← lineBreak with
    | [] => return
    | _ =>
      if (← get).depth == 0 then allowKey true
      skipToToken fuel

/-- The next three characters, as a mark of a document. -/
def documentMark (token : Token) : Scanner Unit := do
  closeBlocks (-1)
  dropKey
  allowKey false
  forward 3
  emit token

/-- A bracket that opens. -/
def openFlow (token : Token) : Scanner Unit := do
  saveKey
  modify fun scan => { scan with depth := scan.depth + 1, keyAllowed := true }
  forward 1
  emit token

/-- A bracket that closes. -/
def closeFlow (token : Token) : Scanner Unit := do
  require ((← get).depth != 0)
  dropKey
  modify fun scan => { scan with depth := scan.depth - 1, keyAllowed := false }
  forward 1
  emit token

/-- A comma between brackets. -/
def flowComma : Scanner Unit := do
  allowKey true
  dropKey
  forward 1
  emit .flowEntry

/-- A block of the kind begins here, where it may. -/
def enterBlock (start : Token) : Scanner Unit := do
  let scan ← get
  if scan.depth == 0 then
    require scan.keyAllowed
    if ← openBlock scan.column then emit start

/-- A dash. -/
def dash : Scanner Unit := do
  enterBlock .blockSequenceStart
  allowKey true
  dropKey
  forward 1
  emit .blockEntry

/-- A question mark. -/
def questionMark : Scanner Unit := do
  enterBlock .blockMappingStart
  allowKey ((← get).depth == 0)
  dropKey
  forward 1
  emit .key

/-- A colon, after a possible key or by itself. -/
def colon : Scanner Unit := do
  let scan ← get
  match scan.keys.lookup scan.depth with
  | some key =>
    set { scan with keys := scan.keys.filter (·.1 != scan.depth) }
    emitAt key.number .key
    if scan.depth == 0 then
      if ← openBlock key.column then emitAt key.number .blockMappingStart
    allowKey false
  | none =>
    enterBlock .blockMappingStart
    allowKey (scan.depth == 0)
    dropKey
  forward 1
  emit .value

/-- A name after its mark. -/
def name : Scanner String := do
  forward 1
  let letters ← takeWhile isNameChar
  require !letters.isEmpty
  let next ← peek 0
  require (endsWord next || next.any ['?', ':', ',', ']', '\x7d', '%', '@', Char.ofNat 0x60].contains)
  return String.ofList letters

/-- The handle of a tag: an exclamation mark, or two with a name between. -/
def tagHandle : Scanner String := do
  require (← isNext '!')
  forward 1
  if ← isNext ' ' then return "!"
  let letters ← takeWhile isNameChar
  require (← isNext '!')
  forward 1
  return String.ofList ('!' :: letters ++ ['!'])

/-- A character of the name of a tag. -/
def isTagChar (c : Char) : Bool :=
  isNameChar c || ";/?:@&=+$,_.!~*'()[]%".toList.contains c

/-- The bytes of escapes in the name of a tag. -/
def tagEscapes : Nat → Scanner (List Nat)
  | 0 => refuse
  | fuel + 1 => do
    match (← get).rest with
    | '%' :: a :: b :: _ =>
      require (Text.isHexDigit a && Text.isHexDigit b)
      forward 3
      return hexNumber [a, b] :: (← tagEscapes fuel)
    | '%' :: _ => refuse
    | _ => return []

/-- The rest of the name of a tag. -/
def tagRest : Nat → Scanner (List Char)
  | 0 => refuse
  | fuel + 1 => do
    let letters ← takeWhile fun c => isTagChar c && c != '%'
    if ← isNext '%' then
      match Text.decodeUtf8 (← tagEscapes (← Scanner.fuel)) with
      | .ok escaped => return letters ++ escaped ++ (← tagRest fuel)
      | .error _ => refuse
    else return letters

/-- The name of a tag. -/
def tagName : Scanner String := do
  let name ← tagRest (← fuel)
  require !name.isEmpty
  return String.ofList name

/-- A tag. -/
def tagText : Scanner TagText := do
  let tag ← match ← peek 1 with
    | some '<' =>
      forward 2
      let suffix ← tagName
      require (← isNext '>')
      forward 1
      pure ⟨none, suffix⟩
    | next =>
      if endsWord next then
        forward 1
        pure ⟨none, "!"⟩
      else
        let word := ((← get).rest.drop 1).takeWhile fun c => !endsPart (some c)
        if word.contains '!' then
          let handle ← tagHandle
          pure ⟨some handle, ← tagName⟩
        else
          forward 1
          pure ⟨some "!", ← tagName⟩
  require (endsPart (← peek 0))
  return tag

/-- The number of a version. -/
def versionNumber : Scanner Nat := do
  let digits ← takeWhile Text.isAsciiDigit
  require !digits.isEmpty
  return digits.foldl (fun value c => 10 * value + (c.toNat - 0x30)) 0

/-- What a directive says. -/
def directive : Scanner Token := do
  forward 1
  let letters ← takeWhile isNameChar
  require (!letters.isEmpty && endsPart (← peek 0))
  match String.ofList letters with
  | "YAML" =>
    skipBlanks
    let major ← versionNumber
    require (← isNext '.')
    forward 1
    let minor ← versionNumber
    require (endsPart (← peek 0))
    return .version major minor
  | "TAG" =>
    skipBlanks
    let handle ← tagHandle
    require (← isNext ' ')
    skipBlanks
    let start ← tagName
    require (endsPart (← peek 0))
    return .tagPrefix handle start
  | _ =>
    let _ ← takeWhile (!isBreak ·)
    return .otherDirective

/-- A token that may be a key. -/
def keyToken (read : Scanner Token) : Scanner Unit := do
  saveKey
  allowKey false
  emit (← read)

/-- A scalar as a block. -/
def blockToken (folded : Bool) : Scanner Unit := do
  allowKey true
  dropKey
  emit (.scalar false (String.ofList (← blockScalar folded)))

/-- A scalar in quotes. -/
def quotedToken (quote : Char) : Scanner Unit :=
  keyToken do return .scalar false (String.ofList (← quotedScalar quote))

/-- A character that no plain scalar begins with, unless a word follows it. -/
def isSign (c : Char) : Bool :=
  "-?:,[]\x7b\x7d#&*!|>'\"%@".toList.contains c || c.toNat == 0x60

/-- The token that begins with a character. -/
def tokenAt (c : Char) : Scanner Unit := do
  let scan ← get
  let flow := scan.depth != 0
  let wordEnds := endsWord scan.rest[1]?
  let marker := scan.column == 0 && (← atMarker)
  let plain := !isSign c || (!wordEnds && (c == '-' || (!flow && (c == '?' || c == ':'))))
  if c == '%' && scan.column == 0 then
    closeBlocks (-1)
    dropKey
    allowKey false
    let token ← directive
    endLine
    emit token
  else if marker then documentMark (if c == '-' then .documentStart else .documentEnd)
  else if c == '[' then openFlow .flowSequenceStart
  else if c == '\x7b' then openFlow .flowMappingStart
  else if c == ']' then closeFlow .flowSequenceEnd
  else if c == '\x7d' then closeFlow .flowMappingEnd
  else if c == ',' then flowComma
  else if c == '-' && wordEnds then dash
  else if c == '?' && (flow || wordEnds) then questionMark
  else if c == ':' && (flow || wordEnds) then colon
  else if c == '*' then keyToken do return .alias (← name)
  else if c == '&' then keyToken do return .anchor (← name)
  else if c == '!' then keyToken do return .tag (← tagText)
  else if c == '|' && !flow then blockToken false
  else if c == '>' && !flow then blockToken true
  else if c == '\'' || c == '"' then quotedToken c
  else if plain && c != '\t' then
    keyToken do return .scalar true (String.ofList (← plainScalar))
  else refuse

/-- The end of the text. -/
def finish : Scanner Unit := do
  closeBlocks (-1)
  dropKey

/-- All tokens; the fuel bounds their number. -/
def scanAll : Nat → Scanner Unit
  | 0 => refuse
  | steps + 1 => do
    skipToToken (← fuel)
    dropStaleKeys
    closeBlocks (← get).column
    match ← peek 0 with
    | none => finish
    | some c =>
      tokenAt c
      scanAll steps

end Scanner

/-- A character that a configuration text may hold. -/
def isAllowed (c : Char) : Bool :=
  let code := c.toNat
  code == 0x09 || code == 0x0A || code == 0x0D || (0x20 ≤ code && code ≤ 0x7E) || code == 0x85
    || (0xA0 ≤ code && code ≤ 0xFFFD) || (0x10000 ≤ code && code ≤ 0x10FFFF)

/-- The tokens of a configuration text, which may begin with a byte order mark. -/
def tokens (text : List Char) : Except Fault (List Token) := do
  if !text.all isAllowed then throw .malformed
  let start : Scan :=
    match text with
    | c :: rest => if c.toNat == 0xFEFF then { rest, index := 1 } else { rest := text }
    | [] => { rest := [] }
  let (_, scan) ← (Scanner.scanAll (text.length + 1)).run start
  return scan.tokens.toList

end Signpost.Yaml
