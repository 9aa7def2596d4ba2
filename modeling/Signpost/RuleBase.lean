import Signpost.Store

/-!
# The rule base

The stores of a service with the supply of ids for new rules, and the failures that a rehearsal
puts between the service and its rules. A call that is made to fail never reaches the stores. Every
insertion of a rule without an id takes a number from the supply, also one that then fails.
-/
namespace Signpost

open Store (Failure)

/-- A call on the rules. -/
inductive Call
  | search
  | insert
  | get
  | update
  | patch
  | deleteAll
  | count
  deriving DecidableEq, Repr

/-- The name of a call. -/
def Call.name : Call → String
  | search => "search"
  | insert => "insert"
  | get => "get"
  | update => "update"
  | patch => "patch"
  | deleteAll => "delete_all"
  | count => "count"

/-- Failures that are put in the way: of calls, by name, and of insertions, by path. -/
structure Faults where
  calls : List (String × String) := []
  paths : List (String × String) := []
  deriving DecidableEq, Repr, Inhabited

/-- The stores, the ids given out so far, and the failures in the way. -/
structure RuleBase where
  stores : Stores
  issued : Nat := 0
  faults : Faults := {}
  deriving Inhabited

namespace RuleBase

/-- The call is let through. -/
def allow (base : RuleBase) (call : Call) : Except Failure Unit :=
  match base.faults.calls.lookup call.name with
  | some message => .error (.unavailable message)
  | none => .ok ()

/-- The rules that satisfy the criteria. -/
def search (base : RuleBase) (criteria : List Criterion) : Except Failure (List Rule) := do
  base.allow .search
  base.stores.searchRules criteria

/-- The rule with the id. -/
def get (base : RuleBase) (id : Value) : Except Failure (Option Rule) := do
  base.allow .get
  base.stores.rule? id

/-- The number of rules. -/
def count (base : RuleBase) : Except Failure Nat := do
  base.allow .count
  base.stores.countRules

/-- The id of a rule that is not empty, or the next of the supply. -/
def nextId (base : RuleBase) (rule : Rule) : RuleBase × String :=
  match rule.id with
  | none => fresh
  | some "" => fresh
  | some id => (base, id)
where
  /-- The next id of the supply. -/
  fresh : RuleBase × String :=
    ({ base with issued := base.issued + 1 }, "id-" ++ Number.decimal (base.issued + 1 : Nat))

/-- A rule added; it is returned with its id. -/
def insert (base : RuleBase) (rule : Rule) : RuleBase × Except Failure Rule :=
  match base.allow .insert, base.faults.paths.lookup rule.path with
  | .error failure, _ => (base, .error failure)
  | .ok (), some message => (base, .error (.rejected message))
  | .ok (), none =>
    let (base, id) := base.nextId rule
    match base.stores.insertRule id rule with
    | .ok stores => ({ base with stores }, .ok { rule with id := some id })
    | .error failure => (base, .error failure)

/-- The path in the fields is one whose rule is rejected. -/
def rejection? (base : RuleBase) (fields : List (String × Value)) : Option Failure :=
  match fields.lookup "path" with
  | some (.text path) => (base.faults.paths.lookup path).map .rejected
  | _ => none

/-- A rule added of which one text is none of characters, by its fields. -/
def insertFields (base : RuleBase) (fields : List (String × Value)) :
    RuleBase × Except Failure Unit :=
  match base.allow .insert, base.rejection? fields with
  | .error failure, _ | .ok (), some failure => (base, .error failure)
  | .ok (), none =>
    let (base, id) := nextId.fresh base
    match base.stores.insertFields id fields with
    | .ok stores => ({ base with stores }, .ok ())
    | .error failure => (base, .error failure)

/-- The rule base after a change of its stores, or as it was with the failure. -/
def after (base : RuleBase) (result : α) (change : Except Failure Stores) :
    RuleBase × Except Failure α :=
  match change with
  | .ok stores => ({ base with stores }, .ok result)
  | .error failure => (base, .error failure)

/-- A rule put in the place of the one with its id. -/
def update (base : RuleBase) (rule : Rule) : RuleBase × Except Failure Rule :=
  base.after rule do
    base.allow .update
    base.stores.updateRule rule

/-- Some attributes of the rule with the id set. -/
def patch (base : RuleBase) (id : String) (fields : List (String × Value)) :
    RuleBase × Except Failure Unit :=
  base.after () do
    base.allow .patch
    base.stores.patchRule id fields

/-- The rule base after a removal, with the number of records removed. -/
def afterRemoval (base : RuleBase) (change : Except Failure (Stores × Nat)) :
    RuleBase × Except Failure Nat :=
  match change with
  | .ok (stores, count) => ({ base with stores }, .ok count)
  | .error failure => (base, .error failure)

/-- All rules removed, with their number. -/
def deleteAll (base : RuleBase) : RuleBase × Except Failure Nat :=
  base.afterRemoval do
    base.allow .deleteAll
    base.stores.deleteRules

/-- A host policy added. -/
def addHost (base : RuleBase) (policy : HostPolicy) : RuleBase × Except Failure HostPolicy :=
  base.after policy (base.stores.insertHost policy)

/-- An active version added. -/
def addVersion (base : RuleBase) (version : ActiveVersion) :
    RuleBase × Except Failure ActiveVersion :=
  base.after version (base.stores.insertVersion version)

/-- All active versions removed, with their number. -/
def clearVersions (base : RuleBase) : RuleBase × Except Failure Nat :=
  base.afterRemoval base.stores.deleteVersions

/-- The active versions replaced by one. -/
def setVersion (base : RuleBase) (version : ActiveVersion) :
    RuleBase × Except Failure ActiveVersion :=
  match base.clearVersions with
  | (base, .error failure) => (base, .error failure)
  | (base, .ok _) => base.addVersion version

end RuleBase
end Signpost
