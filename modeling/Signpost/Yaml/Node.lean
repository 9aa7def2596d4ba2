import Signpost.Yaml.Layout

/-!
# Nodes of a configuration text

The tokens of a document make up a tree: scalars, sequences and mappings, each with a tag. An anchor
names a node, and an alias stands for the node with that name. `document` reads the one document
that a text may hold.

A node is read after at least one token, or where nothing stands for it, so the calls that read
nodes are bounded by the number of tokens.
-/
namespace Signpost.Yaml

/-- What a node is said to be. -/
inductive Tag
  | null
  | bool
  | int
  | float
  | binary
  | timestamp
  | text
  | sequence
  | mapping
  | set
  | ordered
  | pairs
  | merge
  | default
  | unknown (name : String)
  deriving DecidableEq, Repr, Inhabited

/-- The front of the names of known tags. -/
def tagStart : String := "tag:yaml.org,2002:"

/-- The last parts of the names of known tags. -/
def tagNames : List (String × Tag) :=
  [("null", .null), ("bool", .bool), ("int", .int), ("float", .float), ("binary", .binary),
    ("timestamp", .timestamp), ("str", .text), ("seq", .sequence), ("map", .mapping),
    ("set", .set), ("omap", .ordered), ("pairs", .pairs), ("merge", .merge), ("value", .default)]

/-- The tag with the name. -/
def Tag.ofName (name : String) : Tag :=
  match tagNames.find? fun known => tagStart ++ known.1 == name with
  | some known => known.2
  | none => .unknown name

/-- A node of a document. A scalar without a tag is resolved by its form, unless it was quoted. -/
inductive Node
  | scalar (tag : Option Tag) (plain : Bool) (text : String)
  | sequence (tag : Tag) (items : List Node)
  | mapping (tag : Tag) (pairs : List (Node × Node))
  deriving Repr, Inhabited

/-- The node where nothing stands. -/
def Node.empty : Node := .scalar none true ""

/-- What is known while a document is read: the tokens left, the handles of tags, the nodes with
anchors, and the anchors of nodes that are not complete. -/
structure Progress where
  tokens : List Token
  handles : List (String × String) := []
  anchors : List (String × Node) := []
  unfinished : List String := []

/-- A reader of a part of a document. -/
abbrev Reader := StateT Progress (Except Fault)

namespace Reader

/-- Fails. -/
def refuse : Reader α := throw .malformed

/-- Fails unless the condition holds. -/
def require (condition : Bool) : Reader Unit :=
  unless condition do refuse

/-- The next token, which stays. -/
def peek : Reader (Option Token) := do
  return (← get).tokens.head?

/-- Past the next token. -/
def skip : Reader Unit :=
  modify fun progress => { progress with tokens := progress.tokens.drop 1 }

/-- Takes the token if it is next. -/
def accept (token : Token) : Reader Bool := do
  if (← peek) == some token then
    skip
    return true
  else return false

/-- One of the tokens is next. -/
def isNext (tokens : List Token) : Reader Bool := do
  return (← peek).any tokens.contains

/-- The anchor that is next. -/
def anchor? : Reader (Option String) := do
  match ← peek with
  | some (.anchor name) => skip; return some name
  | _ => return none

/-- The tag that is next. -/
def tag? : Reader (Option TagText) := do
  match ← peek with
  | some (.tag text) => skip; return some text
  | _ => return none

/-- The name of a tag, its handle replaced by what it stands for. -/
def tagName (text : TagText) : Reader String := do
  match text.handle with
  | none => return text.suffix
  | some handle =>
    match (← get).handles.lookup handle with
    | some start => return start ++ text.suffix
    | none => refuse

/-- The anchor and the name of the tag in front of a node, in either order. -/
def properties : Reader (Option String × Option String) := do
  let early ← anchor?
  let tag ← tag?
  let anchor ← if early.isNone && tag.isSome then anchor? else pure early
  match tag with
  | none => return (anchor, none)
  | some text => return (anchor, some (← tagName text))

/-- A node begins that has the anchor; an anchor names one node only. -/
def beginAnchor : Option String → Reader Unit
  | none => return
  | some name => do
    let progress ← get
    require ((progress.anchors.lookup name).isNone && !progress.unfinished.contains name)
    set { progress with unfinished := name :: progress.unfinished }

/-- The node with the anchor is complete. -/
def endAnchor (anchor : Option String) (node : Node) : Reader Node := do
  match anchor with
  | none => return node
  | some name =>
    modify fun progress =>
      { progress with
        anchors := (name, node) :: progress.anchors, unfinished := progress.unfinished.filter (· != name) }
    return node

/-- The node that an alias stands for. Inside of that node itself, it stands for an empty
sequence. -/
def aliased (name : String) : Reader Node := do
  let progress ← get
  match progress.anchors.lookup name with
  | some node => return node
  | none =>
    require (progress.unfinished.contains name)
    return .sequence .sequence []

/-- The tag of a collection. -/
def collectionTag (name : Option String) (usual : Tag) : Tag :=
  match name with
  | none | some "!" => usual
  | some name => Tag.ofName name

/-- A scalar with its tag. The mark of no tag makes a scalar count as plain. -/
def scalar (name : Option String) (plain : Bool) (text : String) : Node :=
  match name with
  | none => .scalar none plain text
  | some "!" => .scalar none true text
  | some name => .scalar (some (Tag.ofName name)) plain text

mutual

/-- A node; blocks may begin only where that is said. A sequence that stands no further in than the
mapping around it has no marks of its own. -/
def node : Nat → Bool → Bool → Reader Node
  | 0, _, _ => refuse
  | fuel + 1, block, indentless => do
    match ← peek with
    | some (.alias name) => skip; aliased name
    | _ =>
      let (anchor, tag) ← properties
      beginAnchor anchor
      let sequenceTag := collectionTag tag .sequence
      let mappingTag := collectionTag tag .mapping
      let next ← peek
      if indentless && next == some .blockEntry then
        endAnchor anchor (.sequence sequenceTag (← bareEntries fuel))
      else
        match next with
        | some (.scalar plain text) => skip; endAnchor anchor (scalar tag plain text)
        | some .flowSequenceStart =>
          skip
          endAnchor anchor (.sequence sequenceTag (← flowItems fuel true))
        | some .flowMappingStart =>
          skip
          endAnchor anchor (.mapping mappingTag (← flowPairs fuel true))
        | some .blockSequenceStart =>
          require block
          skip
          endAnchor anchor (.sequence sequenceTag (← blockEntries fuel))
        | some .blockMappingStart =>
          require block
          skip
          endAnchor anchor (.mapping mappingTag (← blockPairs fuel))
        | _ =>
          require (anchor.isSome || tag.isSome)
          endAnchor anchor (scalar tag true "")

/-- A node, or nothing where one of the tokens is next. -/
def nodeUnless : Nat → List Token → Bool → Bool → Reader Node
  | 0, _, _, _ => refuse
  | fuel + 1, ends, block, indentless => do
    if ← isNext ends then return .empty else node fuel block indentless

/-- The entries of a block. -/
def blockEntries : Nat → Reader (List Node)
  | 0 => refuse
  | fuel + 1 => do
    if ← accept .blockEntry then
      let first ← nodeUnless fuel [.blockEntry, .blockEnd] true false
      return first :: (← blockEntries fuel)
    else
      require (← accept .blockEnd)
      return []

/-- The entries of a sequence without marks. -/
def bareEntries : Nat → Reader (List Node)
  | 0 => refuse
  | fuel + 1 => do
    if ← accept .blockEntry then
      let first ← nodeUnless fuel [.blockEntry, .key, .value, .blockEnd] true false
      return first :: (← bareEntries fuel)
    else return []

/-- The pairs of a block. -/
def blockPairs : Nat → Reader (List (Node × Node))
  | 0 => refuse
  | fuel + 1 => do
    if ← accept .key then
      let key ← nodeUnless fuel [.key, .value, .blockEnd] true true
      let value ← if ← accept .value then nodeUnless fuel [.key, .value, .blockEnd] true true
        else pure .empty
      return (key, value) :: (← blockPairs fuel)
    else
      require (← accept .blockEnd)
      return []

/-- The items between brackets; before all but the first, a comma stands. -/
def flowItems : Nat → Bool → Reader (List Node)
  | 0, _ => refuse
  | fuel + 1, first => do
    if ← accept .flowSequenceEnd then return []
    if !first then require (← accept .flowEntry)
    if ← accept .key then
      let key ← nodeUnless fuel [.value, .flowEntry, .flowSequenceEnd] false false
      let value ← if ← accept .value then nodeUnless fuel [.flowEntry, .flowSequenceEnd] false false
        else pure .empty
      return .mapping .mapping [(key, value)] :: (← flowItems fuel false)
    else if ← accept .flowSequenceEnd then return []
    else
      let item ← node fuel false false
      return item :: (← flowItems fuel false)

/-- The pairs between braces; before all but the first, a comma stands. -/
def flowPairs : Nat → Bool → Reader (List (Node × Node))
  | 0, _ => refuse
  | fuel + 1, first => do
    if ← accept .flowMappingEnd then return []
    if !first then require (← accept .flowEntry)
    if ← accept .key then
      let key ← nodeUnless fuel [.value, .flowEntry, .flowMappingEnd] false false
      let value ← if ← accept .value then nodeUnless fuel [.flowEntry, .flowMappingEnd] false false
        else pure .empty
      return (key, value) :: (← flowPairs fuel false)
    else if ← accept .flowMappingEnd then return []
    else
      let key ← node fuel false false
      return (key, .empty) :: (← flowPairs fuel false)

end

/-- The directives in front of a document. -/
def directives : Nat → Bool → List (String × String) → Reader (List (String × String))
  | 0, _, _ => refuse
  | fuel + 1, versioned, handles => do
    match ← peek with
    | some (.version major _) =>
      require (!versioned && major == 1)
      skip
      directives fuel true handles
    | some (.tagPrefix handle start) =>
      require (handles.lookup handle).isNone
      skip
      directives fuel versioned ((handle, start) :: handles)
    | some .otherDirective => skip; directives fuel versioned handles
    | _ => return handles

/-- Past the marks of the end of a document. -/
def skipEnds : Reader Unit :=
  modify fun progress =>
    { progress with tokens := progress.tokens.dropWhile (· == .documentEnd) }

/-- The handles that need no directive. -/
def defaultHandles : List (String × String) := [("!", "!"), ("!!", tagStart)]

/-- The token begins a document or a directive. -/
def startsDocument : Token → Bool
  | .version _ _ | .tagPrefix _ _ | .otherDirective | .documentStart => true
  | _ => false

/-- The content of a document that begins with a mark. -/
def content (fuel : Nat) : Reader Node := do
  match ← peek with
  | none => return .empty
  | some token =>
    if startsDocument token || token == .documentEnd then return .empty else node fuel true false

/-- The one document, or nothing. -/
def document (fuel : Nat) : Reader (Option Node) := do
  match ← peek with
  | none => return none
  | some token =>
    if startsDocument token then
      let handles ← directives fuel false []
      require (← accept .documentStart)
      modify fun progress => { progress with handles := handles ++ defaultHandles }
      let root ← content fuel
      finish root
    else
      modify fun progress => { progress with handles := defaultHandles }
      let root ← node fuel true false
      finish root
where
  /-- Nothing follows the document. -/
  finish (root : Node) : Reader (Option Node) := do
    skipEnds
    require (← peek).isNone
    return some root

end Reader

/-- The document that a text holds. -/
def Node.ofText (text : List Char) : Except Fault (Option Node) := do
  let tokens ← tokens text
  (Reader.document (3 * tokens.length + 3)).run' { tokens }

end Signpost.Yaml
