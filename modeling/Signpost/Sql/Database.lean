import Signpost.Sql.Limit

/-!
# Databases

A database is a list of tables, and a table its rows in the order of insertion. Names of tables
are the same whatever the case of their letters. This module holds the statements that the service
sends; each either does its work or leaves the database as it was.
-/
namespace Signpost.Sql

/-- A table and its rows. -/
structure Table where
  name : String
  rows : List Row
  deriving DecidableEq, Repr

/-- The tables of a database, and what it takes. -/
structure Database where
  tables : List Table := []
  limits : Limits := default
  deriving DecidableEq, Repr, Inhabited

/-- The name in lower case. -/
def foldName (name : String) : String :=
  String.ofList (name.toList.map Text.toAsciiLower)

namespace Database

/-- The table of that name. -/
def table? (database : Database) (name : String) : Option Table :=
  database.tables.find? fun table => foldName table.name == foldName name

/-- The rows of a table. -/
def rows (database : Database) (name : String) : Except Store.Failure (List Row) :=
  match database.table? name with
  | some table => .ok table.rows
  | none => .error (.noSuchTable name)

/-- The database with the rows of a table replaced. -/
def setRows (database : Database) (name : String) (rows : List Row) : Database :=
  { database with
    tables := database.tables.map fun table =>
      if foldName table.name == foldName name then { table with rows } else table }

/-- The rows that satisfy the criteria. -/
def select (database : Database) (name : String) (columns : List Column)
    (criteria : List Criterion) : Except Store.Failure (List Row) := do
  let (clauses, values) ← Clause.ofCriteria columns criteria
  (database.limits.check clauses).mapError database.limits.failure
  let rows ← database.rows name
  let parameters ← bindAll 1 values
  return rows.filter fun row => allHold row clauses parameters == some true

/-- The row as the columns store it. -/
def stored (columns : List Column) (row : Row) : Row :=
  row.map fun (name, cell) =>
    match columns.find? (·.name = name) with
    | some column => (name, column.affinity.stored cell)
    | none => (name, cell)

/-- The first column that refuses its null cell. -/
def nullFault? (name : String) (columns : List Column) (row : Row) : Option Store.Failure :=
  (columns.find? fun column => column.required && row.cell column.name == .null).map fun column =>
    .nullColumn (name ++ "." ++ column.name)

/-- Another row has the same key. -/
def keyFault? (name key : String) (others : List Row) (row : Row) : Option Store.Failure :=
  if row.cell key != .null && others.any fun other => other.cell key == row.cell key then
    some (.notUnique (name ++ "." ++ key))
  else none

/-- A row added at the end of a table whose rows differ in their key. -/
def insert (database : Database) (name : String) (columns : List Column) (key : Option String)
    (fields : List (String × Value)) : Except Store.Failure Database := do
  let rows ← database.rows name
  let cells ← bindAll 1 (fields.map (·.2))
  let row := stored columns ((fields.map (·.1)).zip cells)
  match (nullFault? name columns row).or (key.bind fun key => keyFault? name key rows row) with
  | some failure => .error failure
  | none => return database.setRows name (rows ++ [row])

/-- The row with some of its cells replaced. -/
def assign (row : Row) (cells : Row) : Row :=
  row.map fun (name, cell) => (name, (cells.lookup name).getD cell)

/-- The rows with cells set where the key has a value; the rows before stand in order. -/
def updateRows (name : String) (columns : List Column) (key : String) (keyCell : Cell)
    (cells : Row) : List Row → List Row → Except Store.Failure (List Row)
  | before, [] => .ok before
  | before, row :: rest =>
    if row.cell key == keyCell && keyCell != .null then
      let changed := assign row cells
      match (nullFault? name columns changed).or
          (keyFault? name key (before ++ rest) changed) with
      | some failure => .error failure
      | none => updateRows name columns key keyCell cells (before ++ [changed]) rest
    else updateRows name columns key keyCell cells (before ++ [row]) rest

/-- Columns of the rows with a key set, with the number of those rows. -/
def update (database : Database) (name : String) (columns : List Column) (key : String)
    (keyValue : Value) (fields : List (String × Value)) :
    Except Store.Failure (Database × Nat) := do
  let rows ← database.rows name
  let cells ← bindAll 1 (fields.map fun field => asNumber field.2)
  let keyCell ← bind (fields.length + 1) keyValue
  let keyCell := Affinity.text.stored keyCell
  let cells := stored columns ((fields.map (·.1)).zip cells)
  let changed ← updateRows name columns key keyCell cells [] rows
  return (database.setRows name changed, (rows.filter (·.cell key == keyCell)).length)

/-- A table emptied, with the number of rows that it had. -/
def deleteAll (database : Database) (name : String) :
    Except Store.Failure (Database × Nat) := do
  let rows ← database.rows name
  return (database.setRows name [], rows.length)

end Database
end Signpost.Sql
