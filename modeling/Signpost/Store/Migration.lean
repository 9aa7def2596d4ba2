import Signpost.Sql.Script
import Signpost.Text.Line

/-!
# Migrations

The tables of a database are made by numbered scripts. A script is carried out once: its name is
recorded in the table `_migrations`, and later runs pass over it. What follows the mark of the way
back is not part of a script. A script that drops the record cannot be put on it, unless it makes
the record anew; the new one is taken to have a column for the names.

Which scripts a run carries out does not depend on what carries them out, an `Engine`. The service
has its scripts carried out statement by statement (`stepwise`), as a `Sql.Reading` finds them.
-/
namespace Signpost.Store

open Sql (Database Row)

/-- A script and its name. -/
structure Migration where
  name : String
  script : String
  deriving DecidableEq, Repr

/-- A script that failed. -/
structure MigrationFault where
  name : String
  fault : Sql.ScriptFault
  deriving DecidableEq, Repr

/-- What is said of a script that failed. -/
def MigrationFault.message (m : MigrationFault) : String :=
  "Migration " ++ m.name ++ " failed: " ++ m.fault.message

/-- The mark before the way back. -/
def downMark : List Char := "-- Down".toList

/-- The text before the first occurrence of a mark. -/
def before (mark : List Char) : List Char → List Char
  | [] => []
  | c :: rest => if mark.isPrefixOf (c :: rest) then [] else c :: before mark rest

/-- The table that records the scripts carried out. -/
def recordTable : String := "_migrations"

/-- The database with a table for the record. -/
def withRecord (database : Database) : Database :=
  if (database.table? recordTable).isSome then database
  else { database with tables := database.tables ++ [⟨recordTable, []⟩] }

/-- The names on record. -/
def recorded (database : Database) : List String :=
  match database.table? recordTable with
  | none => []
  | some table => table.rows.filterMap fun row => match row.cell "filename" with
    | .text name => some name
    | _ => none

/-- A name put on record, where there is a record. -/
def record (database : Database) (name : String) : Except Sql.ScriptFault Database :=
  match database.table? recordTable with
  | none => .error (.noSuchTable recordTable)
  | some table =>
    .ok (database.setRows recordTable (table.rows ++ [[("filename", .text name)]]))

/-- The statements of a script, without those of its way back. All ends of lines are read as line
feeds. -/
def Migration.statements (reading : Sql.Reading) (migration : Migration) : List Sql.Statement :=
  reading (before downMark (Text.unifyBreaks migration.script.toList))

/-- What carries a script out on a database, with the fault at which it stops. -/
abbrev Engine := Migration → Database → Database × Option Sql.ScriptFault

/-- A script is carried out statement by statement. -/
def stepwise (reading : Sql.Reading) : Engine := fun migration database =>
  Sql.runStatements database (migration.statements reading)

namespace Engine

/-- One script carried out and put on record. -/
def apply (engine : Engine) (migration : Migration) (database : Database) :
    Database × Except MigrationFault Unit :=
  match engine migration database with
  | (database, some fault) => (database, .error ⟨migration.name, fault⟩)
  | (database, none) =>
    match record database migration.name with
    | .error fault => (database, .error ⟨migration.name, fault⟩)
    | .ok database => (database, .ok ())

/-- Scripts carried out in order, up to the first that fails; the names of those done. -/
def applyAll (engine : Engine) (database : Database) :
    List Migration → Database × Except MigrationFault (List String)
  | [] => (database, .ok [])
  | migration :: rest =>
    match engine.apply migration database with
    | (database, .error fault) => (database, .error fault)
    | (database, .ok ()) =>
      let (database, names) := engine.applyAll database rest
      (database, names.map (migration.name :: ·))

end Engine

/-- A script by its name. -/
def isScript (name : String) : Bool :=
  ".sql".toList.isSuffixOf name.toList

/-- A migration put before the first whose name comes after its own. -/
def insertByName (migration : Migration) : List Migration → List Migration
  | [] => [migration]
  | other :: rest =>
    if migration.name < other.name then migration :: other :: rest
    else other :: insertByName migration rest

/-- The scripts among files, in the order of their names. -/
def scripts (files : List Migration) : List Migration :=
  (files.filter (isScript ·.name)).foldl (fun sorted file => insertByName file sorted) []

/-- The scripts among files that are not on record, in the order of their names. -/
def pending (files : List Migration) (database : Database) : List Migration :=
  (scripts files).filter fun migration => !(recorded database).contains migration.name

/-- The scripts among files that are not on record carried out in the order of their names; the
names of those done. -/
def Engine.migrate (engine : Engine) (files : List Migration) (database : Database) :
    Database × Except MigrationFault (List String) :=
  let database := withRecord database
  engine.applyAll database (pending files database)

/-- The scripts among files carried out statement by statement. -/
def migrate (files : List Migration) (database : Database) :
    Database × Except MigrationFault (List String) :=
  (stepwise Sql.Statement.ofScript).migrate files database

/-- The script that makes the tables of the service. -/
def initialScript : Migration where
  name := "0001_init.sql"
  script := "\n".intercalate
    ["-- Up", "CREATE TABLE IF NOT EXISTS rules (",
      "    seq INTEGER PRIMARY KEY AUTOINCREMENT,", "    id TEXT UNIQUE NOT NULL,",
      "    path TEXT NOT NULL,", "    host TEXT NOT NULL DEFAULT '',",
      "    version INTEGER NOT NULL DEFAULT 0,", "    redirect_url TEXT NOT NULL,",
      "    status_code INTEGER NOT NULL DEFAULT 301,", "    utc_start_time INTEGER,",
      "    utc_end_time INTEGER,", "    operations TEXT,", "    regex INTEGER NOT NULL DEFAULT 0,",
      "    last_accessed INTEGER", ");",
      "CREATE INDEX IF NOT EXISTS idx_rules_lookup ON rules (path, host, version);",
      "CREATE INDEX IF NOT EXISTS idx_rules_regex ON rules (regex);",
      "CREATE TABLE IF NOT EXISTS hosts (", "    host TEXT PRIMARY KEY,",
      "    host_only INTEGER NOT NULL DEFAULT 0", ");", "CREATE TABLE IF NOT EXISTS versions (",
      "    seq INTEGER PRIMARY KEY AUTOINCREMENT,", "    active_version INTEGER NOT NULL", ");",
      "-- Down", "DROP TABLE IF EXISTS versions;", "DROP TABLE IF EXISTS hosts;",
      "DROP TABLE IF EXISTS rules;", ""]

/-- The scripts of the service. -/
def serviceScripts : List Migration := [initialScript]

/-! ### The tables of the service -/

/-- The statements of the script that makes the tables of the service. -/
def initialStatements : List Sql.Statement :=
  [.create "rules" true none, .empty, .empty, .create "hosts" true none,
    .create "versions" true none, .empty]

theorem statements_initialScript :
    initialScript.statements Sql.Statement.ofScript = initialStatements := by
  -- The lines are read one by one; they cannot be read quickly once they are joined.
  rw [Migration.statements, show initialScript.script.toList = _ from String.toList_intercalate]
  decide +kernel

/-- The scripts of the service make three tables without rows, beside the record. -/
theorem migrate_serviceScripts : migrate serviceScripts {} =
    ({ tables := [⟨recordTable, [[("filename", .text initialScript.name)]]⟩, ⟨"rules", []⟩,
        ⟨"hosts", []⟩, ⟨"versions", []⟩] }, .ok [initialScript.name]) := by
  have first : pending serviceScripts (withRecord {}) = [initialScript] := rfl
  have made : Sql.runStatements (withRecord {}) initialStatements =
      ({ tables := [⟨recordTable, []⟩, ⟨"rules", []⟩, ⟨"hosts", []⟩, ⟨"versions", []⟩] }, none) := by
    decide +kernel
  have applied : (stepwise Sql.Statement.ofScript).apply initialScript (withRecord {}) =
      ({ tables := [⟨recordTable, [[("filename", .text initialScript.name)]]⟩, ⟨"rules", []⟩,
          ⟨"hosts", []⟩, ⟨"versions", []⟩] }, .ok ()) := by
    rw [Engine.apply, stepwise, statements_initialScript, made]
    rfl
  rw [migrate, Engine.migrate, first, Engine.applyAll, applied]
  rfl

end Signpost.Store
