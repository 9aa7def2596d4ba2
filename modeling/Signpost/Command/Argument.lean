import Signpost.Text.Split
import Signpost.Value

/-!
# Arguments of a command

A command takes options, which begin with a dash and may stand anywhere, and words for its places,
in order. The name of an option may be cut short as long as it is the only one of its kind, and its
value may follow an equals sign. After two dashes that stand alone, all are words.
-/
namespace Signpost.Command

/-- What a value has to be. -/
inductive Kind
  | text
  | integer
  deriving DecidableEq, Repr, Inhabited

/-- The arguments that a command takes: options without a value, options with one, and places. The
words from the first that has no place may be left to another command. -/
structure Form where
  flags : List String := []
  options : List (String × Kind) := []
  places : List (String × Kind) := []
  leavesRest : Bool := false
  deriving Repr, Inhabited

/-- Why arguments are not carried out: they do not fit the form, or help was asked for. -/
inductive Stop
  | usage
  | help
  deriving DecidableEq, Repr, Inhabited

/-- What an argument is by its looks. -/
inductive Piece
  | word
  | dashes
  | option (name : String) (attached : Option String)
  | unknown
  deriving DecidableEq, Repr, Inhabited

/-- The options that ask for help. -/
def helpNames : List String := ["-h", "--help"]

/-- The names of all options. -/
def Form.names (form : Form) : List String :=
  helpNames ++ form.flags ++ form.options.map (·.1)

/-- A number below zero is a word, although it begins with a dash. -/
def isNegativeNumber : List Char → Bool
  | '-' :: rest =>
    let rest := if rest.getLast? == some '\n' then rest.dropLast else rest
    match Text.cut? '.' rest with
    | none => !rest.isEmpty && rest.all Text.isDigit
    | some (whole, decimals) =>
      whole.all Text.isDigit && !decimals.isEmpty && decimals.all Text.isDigit
  | _ => false

/-- The options that an argument may stand for, cut short or with a value attached. -/
def candidates (names : List String) (argument : List Char) : List (String × Option String) :=
  match argument with
  | '-' :: '-' :: _ =>
    let (front, attached) := match Text.cut? '=' argument with
      | some (front, value) => (front, some (String.ofList value))
      | none => (argument, none)
    (names.filter fun name => front.isPrefixOf name.toList).map fun name => (name, attached)
  | '-' :: letter :: rest =>
    (names.filter fun name => name.toList == ['-', letter]).map fun name =>
      (name, some (String.ofList rest))
  | _ => []

/-- An option that is written in full, with a value attached or without one. -/
def written? (names : List String) (argument : String) : Option Piece :=
  if names.contains argument then some (.option argument none)
  else
    match Text.cut? '=' argument.toList with
    | some (front, value) =>
      if names.contains (String.ofList front) then
        some (.option (String.ofList front) (some (String.ofList value)))
      else none
    | none => none

/-- What an argument is. An argument that may stand for several options fits no form. -/
def Piece.of (names : List String) (argument : String) : Except Stop Piece :=
  match argument.toList with
  | '-' :: letter :: rest =>
    match written? names argument, candidates names ('-' :: letter :: rest) with
    | some piece, _ => .ok piece
    | none, [(name, attached)] => .ok (.option name attached)
    | none, _ :: _ => .error .usage
    | none, [] =>
      if isNegativeNumber ('-' :: letter :: rest) || rest.contains ' ' || letter == ' ' then
        .ok .word
      else .ok .unknown
  | _ => .ok .word

/-- The arguments, each with what it is. -/
def pieces (names : List String) : List String → Except Stop (List (String × Piece))
  | [] => .ok []
  | argument :: rest =>
    if argument == "--" then .ok ((argument, .dashes) :: rest.map fun word => (word, .word))
    else do return (argument, ← Piece.of names argument) :: (← pieces names rest)

/-- What has been read of the arguments: the values of options, the words in their places, whether
there was anything else, and the arguments left to another command. -/
structure Arguments where
  values : List (String × Value) := []
  words : List Value := []
  hasMore : Bool := false
  rest : List String := []
  deriving Repr, Inhabited

/-- A value of a kind. -/
def Kind.read (kind : Kind) (word : String) : Except Stop Value :=
  match kind with
  | .text => .ok (.text word)
  | .integer =>
    match Number.integer? word with
    | some n => .ok (.int n)
    | none => .error .usage

namespace Arguments

/-- The arguments with an option set. -/
def set (arguments : Arguments) (name : String) (value : Value) : Arguments :=
  { arguments with values := Value.setField arguments.values name value }

/-- There is no place left for a word. -/
def isFull (arguments : Arguments) (form : Form) : Bool :=
  form.places.length ≤ arguments.words.length

/-- The arguments with one more word in its place, or with more than there are places for. -/
def add (arguments : Arguments) (form : Form) (word : String) : Except Stop Arguments :=
  match form.places[arguments.words.length]? with
  | none => .ok { arguments with hasMore := true }
  | some (_, kind) => do return { arguments with words := arguments.words ++ [← kind.read word] }

/-- An option that stands alone. Help may be asked for more than once by letters in a row. -/
def takeFlag (arguments : Arguments) (form : Form) (name : String) (attached : Option String) :
    Except Stop Arguments :=
  match attached with
  | none =>
    if helpNames.contains name then .error .help
    else if form.flags.contains name then .ok (arguments.set name (.bool true))
    else .error .usage
  | some letters =>
    if name == "-h" && letters != "" && letters.toList.all (· == 'h') then .error .help
    else .error .usage

/-- An option, with the word that follows it, if one does; says whether the word is its value. Two
dashes for a value count as no value. -/
def takeOption (arguments : Arguments) (form : Form) (name : String) (attached : Option String)
    (next : Option String) : Except Stop (Arguments × Bool) :=
  match form.options.lookup name with
  | none => do return (← arguments.takeFlag form name attached, false)
  | some kind =>
    match attached <|> next with
    | none => .error .usage
    | some word => do
      let value ← if word == "--" then pure .null else kind.read word
      return (arguments.set name value, attached.isNone)

/-- What pieces give, after what has been read before them. Two dashes beside a word that has a
place are passed over. -/
def after (arguments : Arguments) (form : Form) :
    List (String × Piece) → Except Stop Arguments
  | [] => .ok arguments
  | (_, .unknown) :: rest => { arguments with hasMore := true }.after form rest
  | (_, .option name attached) :: rest => do
    let next := match rest with
      | (word, .word) :: _ => some word
      | _ => none
    let (arguments, used) ← arguments.takeOption form name attached next
    arguments.after form (if used then rest.drop 1 else rest)
  | (word, kind) :: rest =>
    if arguments.isFull form then
      if form.leavesRest then .ok { arguments with rest := word :: rest.map (·.1) }
      else { arguments with hasMore := true }.after form rest
    else
      match kind, rest with
      | .dashes, (word, .word) :: rest => do (← arguments.add form word).after form rest
      | .dashes, rest => { arguments with hasMore := true }.after form rest
      | _, (_, .dashes) :: rest => do (← arguments.add form word).after form rest
      | _, rest => do (← arguments.add form word).after form rest
termination_by pieces => pieces.length
decreasing_by all_goals grind

/-- The arguments that texts give. Every place has to be filled. -/
def read (form : Form) (texts : List String) : Except Stop Arguments := do
  let arguments ← ({} : Arguments).after form (← pieces form.names texts)
  if arguments.isFull form then return arguments else .error .usage

/-- The text of an option. -/
def text? (arguments : Arguments) (name : String) : Option String :=
  match arguments.values.lookup name with
  | some (.text text) => some text
  | _ => none

/-- The number of an option. -/
def number? (arguments : Arguments) (name : String) : Option Int :=
  match arguments.values.lookup name with
  | some (.int n) => some n
  | _ => none

/-- An option without a value is set. -/
def has (arguments : Arguments) (name : String) : Bool :=
  (arguments.values.lookup name).isSome

end Arguments
end Signpost.Command
