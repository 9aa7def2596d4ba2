import Signpost.Store.Folder

/-!
# Stores

The rules, host policies and active versions of a service, kept in memory or in the tables of a
database. Both ways answer the same calls; they differ in what they can hold, in how they fail, and
in the order of host policies.
-/
namespace Signpost

open Store (Failure DatabaseFile Memory)

/-- The rules, host policies and active versions of a service. -/
inductive Stores
  | memory (memory : Memory)
  | tables (path : String) (file : DatabaseFile)
  deriving Inhabited

namespace Stores

/-- The database in a file. -/
def opened (path : String) : DatabaseFile → Except Failure Sql.Database
  | .unopenable => .error (.cannotOpen path)
  | .foreign => .error .notADatabase
  | .transient => .ok {}
  | .present database => .ok database

/-- The file after its database has changed. -/
def kept (file : DatabaseFile) (database : Sql.Database) : DatabaseFile :=
  match file with
  | .present _ => .present database
  | other => other

/-- The criteria fit the columns, and the database in the file can be opened. -/
def queried (path : String) (file : DatabaseFile) (columns : List Sql.Column)
    (criteria : List Criterion) : Except Failure Sql.Database := do
  let _ ← Sql.Clause.ofCriteria columns criteria
  opened path file

/-- The database in the file with a change made to it. -/
def changed (path : String) (file : DatabaseFile)
    (change : Sql.Database → Except Failure Sql.Database) : Except Failure Stores := do
  let database ← opened path file
  return .tables path (kept file (← change database))

/-- The rules that satisfy the criteria, in the order of insertion. -/
def searchRules (stores : Stores) (criteria : List Criterion) : Except Failure (List Rule) :=
  match stores with
  | memory m => m.searchRules criteria
  | tables path file => do
    let database ← queried path file Store.ruleColumns criteria
    Store.Tables.searchRules database criteria

/-- The host policies that satisfy the criteria. -/
def searchHosts (stores : Stores) (criteria : List Criterion) :
    Except Failure (List HostPolicy) :=
  match stores with
  | memory m => Store.search m.others HostPolicy.attributes criteria m.hosts
  | tables path file => do
    let database ← queried path file Store.hostColumns criteria
    Store.Tables.searchHosts database criteria

/-- The active versions that satisfy the criteria, in the order of insertion. -/
def searchVersions (stores : Stores) (criteria : List Criterion) :
    Except Failure (List ActiveVersion) :=
  match stores with
  | memory m => Store.search m.others ActiveVersion.attributes criteria m.versions
  | tables path file => do
    let database ← queried path file Store.versionColumns criteria
    Store.Tables.searchVersions database criteria

/-- A rule added under an id of its own. -/
def insertRule (stores : Stores) (id : String) (rule : Rule) : Except Failure Stores :=
  match stores with
  | memory m => (m.insertRule id rule).map memory
  | tables path file => changed path file fun database => Store.Tables.insertRule database id rule

/-- The fields of a rule added under an id of its own, where they are more than a rule can hold. -/
def insertFields (stores : Stores) (id : String) (fields : List (String × Value)) :
    Except Failure Stores :=
  match stores with
  | memory _ => .error .unspoken
  | tables path file =>
    changed path file fun database => Store.Tables.insertFields database id fields

/-- A rule put in the place of the one with its id. -/
def updateRule (stores : Stores) (rule : Rule) : Except Failure Stores :=
  match stores with
  | memory m => (m.updateRule rule).map memory
  | tables path file =>
    match rule.id with
    | none => .error .noId
    | some _ => changed path file fun database => Store.Tables.updateRule database rule

/-- Names in order. -/
def sortedNames (names : List String) : List String :=
  names.foldl (fun sorted name => Store.Folder.paths.insertName name sorted) []

/-- Some attributes of the rule with the id set. -/
def patchRule (stores : Stores) (id : String) (fields : List (String × Value)) :
    Except Failure Stores :=
  match stores with
  | memory m => (m.patchRule id fields).map memory
  | tables path file =>
    let unknown := (fields.map (·.1)).filter fun name => !Rule.attributeNames.contains name
    if fields.isEmpty then .ok stores
    else if !unknown.isEmpty then .error (.unknownAttributes (sortedNames unknown))
    else changed path file fun database => Store.Tables.patchRule database id fields

/-- All rules removed, with their number. -/
def deleteRules (stores : Stores) : Except Failure (Stores × Nat) :=
  match stores with
  | memory m => .ok (memory { m with rules := [] }, m.rules.length)
  | tables path file => do
    let (database, count) ← (← opened path file).deleteAll "rules"
    return (tables path (kept file database), count)

/-- The number of rules. -/
def countRules (stores : Stores) : Except Failure Nat :=
  match stores with
  | memory m => .ok m.rules.length
  | tables path file => do Store.Tables.countRules (← opened path file)

/-- A host policy in place of any other of its host. -/
def insertHost (stores : Stores) (policy : HostPolicy) : Except Failure Stores :=
  match stores with
  | memory m => .ok (memory (m.insertHost policy))
  | tables path file => changed path file fun database => Store.Tables.insertHost database policy

/-- An active version added at the end. -/
def insertVersion (stores : Stores) (version : ActiveVersion) : Except Failure Stores :=
  match stores with
  | memory m => .ok (memory (m.insertVersion version))
  | tables path file => changed path file fun database => Store.Tables.insertVersion database version

/-- All active versions removed, with their number. -/
def deleteVersions (stores : Stores) : Except Failure (Stores × Nat) :=
  match stores with
  | memory m => .ok (memory { m with versions := [] }, m.versions.length)
  | tables path file => do
    let (database, count) ← (← opened path file).deleteAll "versions"
    return (tables path (kept file database), count)

/-- The rule with the id. -/
def rule? (stores : Stores) (id : Value) : Except Failure (Option Rule) := do
  return (← stores.searchRules [.one (.equals "id" id)]).head?

end Stores
end Signpost
