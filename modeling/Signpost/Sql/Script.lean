import Signpost.Sql.Database
import Signpost.Text.Word

/-!
# Scripts

A migration script is a sequence of statements that create or drop tables. A script takes effect
statement by statement, up to the first that fails. How a text is read as statements is a `Reading`;
`Statement.ofScript` is the plain one, for scripts without triggers, views and other schemas.
-/
namespace Signpost.Sql

/-- Why a statement fails. -/
inductive ScriptFault
  | tableExists (written : String)
  | noSuchTable (name : String)
  | reservedName (name : String)
  | lastingTable (name : String)
  | duplicateColumn (name : String)
  | unknownDatabase (name : String)
  | unrecognizedToken (word : String)
  | syntaxError (near : String)
  | incomplete
  | other (message : String)
  deriving DecidableEq, Repr

/-- What is said of a statement that fails. -/
def ScriptFault.message : ScriptFault → String
  | tableExists written => "table " ++ written ++ " already exists"
  | noSuchTable name => "no such table: " ++ name
  | reservedName name => "object name reserved for internal use: " ++ name
  | lastingTable name => "table " ++ name ++ " may not be dropped"
  | duplicateColumn name => "duplicate column name: " ++ name
  | unknownDatabase name => "unknown database " ++ name
  | unrecognizedToken word => "unrecognized token: \"" ++ word ++ "\""
  | syntaxError near => "near \"" ++ near ++ "\": syntax error"
  | incomplete => "incomplete input"
  | other message => message

/-- A statement of a script. The name of a table to create is kept as it is written, and columns that
cannot be made are found out only where there is no such table yet. A statement that cannot be carried
out on any database is refused. -/
inductive Statement
  | create (written : String) (ifMissing : Bool) (spoilt : Option ScriptFault)
  | drop (name : String) (ifPresent : Bool)
  | empty
  | refused (fault : ScriptFault)
  deriving DecidableEq, Repr

/-- How the text of a script is read as its statements. -/
abbrev Reading := List Char → List Statement

/-! ### Words -/

/-- What follows the end of a comment between slash-star and star-slash. -/
def afterStar : List Char → List Char
  | '*' :: '/' :: rest => rest
  | _ :: rest => afterStar rest
  | [] => []

/-- A character of a name or a number. -/
def isNameChar (c : Char) : Bool :=
  Text.isAsciiWord c || c == '$' || 0x80 ≤ c.toNat

/-- The character that closes a text which this one opens. -/
def closing? (c : Char) : Option Char :=
  if c == '[' then some ']'
  else if c == '"' || c == Char.ofNat 0x27 || c == Char.ofNat 0x60 then some c
  else none

/-- The rest of a text in quotes with the character that closes it, and what follows. Where this
character is doubled, it belongs to the text; a text that breaks off is not closed. -/
def quotedRest (close : Char) : List Char → List Char × List Char
  | [] => ([], [])
  | c :: rest =>
    if c != close then
      let (inside, after) := quotedRest close rest
      (c :: inside, after)
    else
      match rest with
      | [] => ([c], [])
      | d :: more =>
        if d == close && close != ']' then
          let (inside, after) := quotedRest close more
          (c :: d :: inside, after)
        else ([c], d :: more)

/-- The words of a script: names and numbers, texts in quotes, and single characters. Comments, to the
end of the line after two dashes and between slash-star and star-slash, stand between words. -/
def words : Nat → List Char → List String
  | 0, _ => []
  | fuel + 1, cs =>
    match cs with
    | [] => []
    | '-' :: '-' :: rest => words fuel (rest.dropWhile (· != '\n'))
    | '/' :: '*' :: rest => words fuel (afterStar rest)
    | c :: rest =>
      if isSpace c then words fuel rest
      else if isNameChar c then
        String.ofList (c :: rest.takeWhile isNameChar) :: words fuel (rest.dropWhile isNameChar)
      else
        match closing? c with
        | some close =>
          let (inside, after) := quotedRest close rest
          String.ofList (c :: inside) :: words fuel after
        | none => String.ofList [c] :: words fuel rest

/-- A text in quotes that is not closed. -/
def isBroken (word : String) : Bool :=
  match word.toList with
  | c :: rest =>
    match closing? c with
    | some close => if close == ']' then !rest.contains close else rest.count close % 2 == 0
    | none => false
  | [] => false

/-- A text in which each doubled character stands once. -/
def undouble (close : Char) : List Char → List Char
  | c :: d :: rest =>
    if c == close && d == close then c :: undouble close rest else c :: undouble close (d :: rest)
  | cs => cs

/-- The name in a word, without its quotes. -/
def unquote (word : String) : String :=
  match word.toList with
  | c :: rest =>
    match closing? c with
    | some close => String.ofList (undouble close rest.dropLast)
    | none => word
  | [] => word

/-- The words between semicolons. -/
def pieces : List String → List (List String)
  | [] => [[]]
  | word :: rest =>
    if word == ";" then [] :: pieces rest
    else
      match pieces rest with
      | piece :: more => (word :: piece) :: more
      | [] => [[word]]

/-! ### Reading a statement

What cannot be read is told by the words from there on. -/

/-- What follows the expected words, whatever the case of their letters. -/
def expect : List String → List String → Except (List String) (List String)
  | [], words => .ok words
  | _ :: _, [] => .error []
  | expected :: more, word :: rest =>
    if foldName word == expected then expect more rest else .error (word :: rest)

/-- Whether a condition is there, and what follows it. -/
def readCondition (condition : List String) :
    List String → Except (List String) (Bool × List String)
  | [] => .ok (false, [])
  | word :: rest =>
    if foldName word == "if" then (expect condition rest).map (true, ·)
    else .ok (false, word :: rest)

/-- The words that are no names. -/
def keywords : List String :=
  ["add", "all", "alter", "and", "as", "autoincrement", "between", "case", "check", "collate",
    "commit", "constraint", "create", "default", "deferrable", "delete", "distinct", "drop", "else",
    "escape", "except", "exists", "foreign", "from", "group", "having", "in", "index", "insert",
    "intersect", "into", "is", "isnull", "join", "limit", "not", "nothing", "notnull", "null", "on",
    "or", "order", "primary", "references", "returning", "select", "set", "table", "then", "to",
    "transaction", "union", "unique", "update", "using", "values", "when", "where"]

/-- A name, and what follows it. -/
def readName : List String → Except (List String) (String × List String)
  | [] => .error []
  | word :: rest =>
    match word.toList with
    | c :: _ =>
      if (closing? c).isSome
          || isNameChar c && c != '$' && !Text.isAsciiDigit c && !keywords.contains (foldName word) then
        .ok (word, rest)
      else .error (word :: rest)
    | [] => .error (word :: rest)

/-- The name of a schema, if there is one, with a name in it, and what follows. -/
def readPlace (words : List String) :
    Except (List String) (Option String × String × List String) := do
  let (first, rest) ← readName words
  match rest with
  | "." :: rest => do
    let (second, rest) ← readName rest
    return (some (unquote first), second, rest)
  | _ => return (none, first, rest)

/-- What follows a column or a constraint: a comma, or the bracket that closes them all. -/
def afterColumn : Nat → List String → Except (List String) (List String)
  | _, [] => .error []
  | depth, word :: rest =>
    if word == "(" then afterColumn (depth + 1) rest
    else if word == ")" then
      match depth with
      | 0 => .ok (word :: rest)
      | depth + 1 => afterColumn depth rest
    else if word == "," && depth == 0 then .ok (word :: rest)
    else afterColumn depth rest

/-- The words that a constraint on a table begins with. -/
def isConstraint (word : String) : Bool :=
  ["constraint", "primary", "unique", "check", "foreign"].contains (foldName word)

/-- The names of columns up to the bracket that closes them, and what follows it. Constraints come
behind the first column. The fuel bounds the number of words. -/
def readColumns : Nat → Bool → List String → Except (List String) (List String × List String)
  | 0, _, words => .error words
  | fuel + 1, first, words => do
    let (names, rest) ←
      if !first && words.head?.any isConstraint then pure ([], words)
      else (readName words).map fun (name, rest) => ([unquote name], rest)
    match ← afterColumn 0 rest with
    | "," :: rest => do
      let (more, rest) ← readColumns fuel false rest
      return (names ++ more, rest)
    | _ :: rest => return (names, rest)
    | [] => .error []

/-- The first column that has the name of one before it. -/
def doubledColumn? : List String → List String → Option String
  | _, [] => none
  | before, name :: rest =>
    if before.contains (foldName name) then some name
    else doubledColumn? (foldName name :: before) rest

/-- What may follow the columns of a table. -/
def isTableOption (word : String) : Bool :=
  ["strict", "without", "rowid", ","].contains (foldName word)

/-- What spoils the columns of a table, which are given in brackets or by a query. -/
def readTable (words : List String) : Except (List String) (Option ScriptFault) := do
  match words with
  | "(" :: rest => do
    let (names, rest) ← readColumns (rest.length + 1) true rest
    if rest.all isTableOption then return (doubledColumn? [] names).map .duplicateColumn
    else .error rest
  | _ => do
    let rest ← expect ["as"] words
    match rest.head?.map foldName with
    | some "select" | some "values" | some "with" => return none
    | _ => .error rest

/-- What is created. -/
def readCreation (words : List String) : Except (List String) Statement := do
  match words.head?.map foldName with
  | some "index" | some "unique" | some "temp" | some "temporary" => return .empty
  | _ =>
    let words ← expect ["table"] words
    let (ifMissing, words) ← readCondition ["not", "exists"] words
    let (schema, written, words) ← readPlace words
    match schema.filter (foldName · != "main") with
    | some other => return .refused (.unknownDatabase other)
    | none => return .create written ifMissing (← readTable words)

/-- What is dropped. -/
def readRemoval (words : List String) : Except (List String) Statement := do
  match words.head?.map foldName with
  | some "index" => return .empty
  | _ =>
    let words ← expect ["table"] words
    let (ifPresent, words) ← readCondition ["exists"] words
    let (schema, written, words) ← readPlace words
    if !words.isEmpty then .error words
    else
      match schema.filter (foldName · != "main") with
      | none => return .drop (unquote written) ifPresent
      | some other =>
        if ifPresent then return .empty
        else return .refused (.noSuchTable (other ++ "." ++ unquote written))

/-- The statement of its words. A statement that breaks off is closed, or the script is at its
end. -/
def Statement.ofWords (closed : Bool) (words : List String) : Statement :=
  let found : Except (List String) Statement :=
    match words with
    | [] => .ok empty
    | first :: rest =>
      match foldName first with
      | "create" => readCreation rest
      | "drop" => readRemoval rest
      | _ => .error words
  match words.find? isBroken, found with
  | some word, _ => refused (.unrecognizedToken word)
  | none, .ok statement => statement
  | none, .error (word :: _) => refused (.syntaxError word)
  | none, .error [] => refused (if closed then .syntaxError ";" else .incomplete)

/-- The statements of a script; each but the last is closed. -/
def Statement.ofScript : Reading := fun script =>
  let pieces := pieces (words (script.length + 1) script)
  pieces.dropLast.map (ofWords true) ++ pieces.getLast?.toList.map (ofWords false)

/-! ### Carrying out -/

/-- A name that only the database itself gives to a table. -/
def isReserved (name : String) : Bool :=
  "sqlite_".toList.isPrefixOf (foldName name).toList

/-- The table of the database itself that has the name. -/
def lastingTable? (name : String) : Option String :=
  [("sqlite_master", "sqlite_master"), ("sqlite_schema", "sqlite_master"),
    ("sqlite_sequence", "sqlite_sequence")].lookup (foldName name)

/-- One statement carried out. -/
def Statement.run (database : Database) : Statement → Except ScriptFault Database
  | create written ifMissing spoilt =>
    let name := unquote written
    if isReserved name then .error (.reservedName name)
    else if (database.table? name).isSome then
      if ifMissing then .ok database else .error (.tableExists written)
    else
      match spoilt with
      | some fault => .error fault
      | none => .ok { database with tables := database.tables ++ [⟨name, []⟩] }
  | drop name ifPresent =>
    match lastingTable? name with
    | some table => .error (.lastingTable table)
    | none =>
      if (database.table? name).isSome then
        .ok { database with
          tables := database.tables.filter fun table => foldName table.name != foldName name }
      else if ifPresent then .ok database
      else .error (.noSuchTable name)
  | empty => .ok database
  | refused fault => .error fault

/-- The statements carried out in order; after a fault, what came before it stays done. -/
def runStatements (database : Database) : List Statement → Database × Option ScriptFault
  | [] => (database, none)
  | statement :: rest =>
    match statement.run database with
    | .ok database => runStatements database rest
    | .error fault => (database, some fault)

end Signpost.Sql
