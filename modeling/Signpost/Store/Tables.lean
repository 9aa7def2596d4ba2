import Signpost.Sql.Database
import Signpost.Store.Memory

/-!
# The store in tables

Rules, host policies and active versions as rows of a database. `ruleRow` writes a rule as the cells
of a row and `ruleOfRow` reads it back. Rules and versions come in the order of insertion, host
policies in the order of their hosts.
-/
namespace Signpost.Store

open Sql (Column Cell Database Row)

/-- The columns of a rule. -/
def ruleColumns : List Column :=
  [⟨"id", .text, true⟩, ⟨"path", .text, true⟩, ⟨"host", .text, true⟩, ⟨"version", .integer, true⟩,
    ⟨"redirect_url", .text, true⟩, ⟨"status_code", .integer, true⟩,
    ⟨"utc_start_time", .integer, false⟩, ⟨"utc_end_time", .integer, false⟩,
    ⟨"operations", .text, false⟩, ⟨"regex", .integer, true⟩, ⟨"last_accessed", .integer, false⟩]

/-- The columns of a host policy. -/
def hostColumns : List Column :=
  [⟨"host", .text, false⟩, ⟨"host_only", .integer, true⟩]

/-- The column of an active version. -/
def versionColumns : List Column :=
  [⟨"active_version", .integer, true⟩]

/-- The values of a rule for its columns. -/
def ruleFields (rule : Rule) : List (String × Value) :=
  rule.attributes.map fun (name, value) => (name, Sql.asNumber value)

/-- A cell counts as true unless it is null, zero or empty. -/
def isTrue : Cell → Bool
  | .null => false
  | .integer n => n != 0
  | .real x => x.toInt? != some 0
  | .text s => s != ""

/-- The rule that a row holds. -/
def ruleOfRow (row : Row) : Schema.Checked Rule :=
  Rule.ofFields (Rule.attributeNames.map fun name =>
    (name, if name = "regex" then .bool (isTrue (row.cell name)) else (row.cell name).toValue))

/-- The host policy that a row holds. -/
def hostOfRow (row : Row) : Schema.Checked HostPolicy :=
  HostPolicy.ofValue (.object [("host", (row.cell "host").toValue),
    ("host_only", .bool (isTrue (row.cell "host_only")))])

/-- The active version that a row holds. -/
def versionOfRow (row : Row) : Schema.Checked ActiveVersion :=
  ActiveVersion.ofValue (.object [("active_version", (row.cell "active_version").toValue)])

/-- The records of rows. -/
def readRows (ofRow : Row → Schema.Checked α) : List Row → Except Failure (List α)
  | [] => .ok []
  | row :: rest =>
    match ofRow row with
    | .error problems => .error (.invalidRow problems)
    | .ok record => (readRows ofRow rest).map (record :: ·)

/-- A row put before the first one that comes after it. -/
def insertInOrder (row : Row) : List Row → List Row
  | [] => [row]
  | other :: rest =>
    if ((row.cell "host").compare (other.cell "host")) == .lt then row :: other :: rest
    else other :: insertInOrder row rest

/-- Rows in the order of their hosts. -/
def byHost (rows : List Row) : List Row :=
  rows.foldl (fun sorted row => insertInOrder row sorted) []

namespace Tables

/-- The rules that satisfy the criteria. -/
def searchRules (database : Database) (criteria : List Criterion) : Except Failure (List Rule) :=
  database.select "rules" ruleColumns criteria >>= readRows ruleOfRow

/-- A rule added under an id of its own. -/
def insertRule (database : Database) (id : String) (rule : Rule) : Except Failure Database :=
  database.insert "rules" ruleColumns (some "id") (ruleFields { rule with id := some id })

/-- The fields of a rule added under an id of its own, where they are more than a rule can hold. -/
def insertFields (database : Database) (id : String) (fields : List (String × Value)) :
    Except Failure Database :=
  database.insert "rules" ruleColumns (some "id")
    (("id", .text id) :: fields ++ [("last_accessed", .null)])

/-- A rule put in the place of the one with its id. -/
def updateRule (database : Database) (rule : Rule) : Except Failure Database :=
  match rule.id with
  | none => .error .noId
  | some id => do
    let (database, count) ←
      database.update "rules" ruleColumns "id" (.text id) (ruleFields rule)
    if count = 0 then .error (.notFound id) else return database

/-- Some attributes of the rule with the id set; without such a rule, nothing happens. -/
def patchRule (database : Database) (id : String) (fields : List (String × Value)) :
    Except Failure Database := do
  let (database, _) ← database.update "rules" ruleColumns "id" (.text id) fields
  return database

/-- The number of rules. -/
def countRules (database : Database) : Except Failure Nat := do
  return (← database.rows "rules").length

/-- The host policies that satisfy the criteria. -/
def searchHosts (database : Database) (criteria : List Criterion) :
    Except Failure (List HostPolicy) := do
  let rows ← database.select "hosts" hostColumns criteria
  readRows hostOfRow (byHost rows)

/-- A host policy in place of any other of its host. -/
def insertHost (database : Database) (policy : HostPolicy) : Except Failure Database := do
  let rows ← database.rows "hosts"
  let cells : Row :=
    [("host", .text policy.host), ("host_only", .integer (if policy.hostOnly then 1 else 0))]
  if rows.any fun row => row.cell "host" == .text policy.host then
    return database.setRows "hosts" (rows.map fun row =>
      if row.cell "host" == .text policy.host then cells else row)
  else return database.setRows "hosts" (rows ++ [cells])

/-- The active versions that satisfy the criteria. -/
def searchVersions (database : Database) (criteria : List Criterion) :
    Except Failure (List ActiveVersion) :=
  database.select "versions" versionColumns criteria >>= readRows versionOfRow

/-- An active version added at the end. -/
def insertVersion (database : Database) (version : ActiveVersion) : Except Failure Database :=
  database.insert "versions" versionColumns none version.attributes

end Tables
end Signpost.Store
