import Signpost.Store.Failure

/-!
# The store in memory

Rules, host policies and active versions as lists in the order of insertion. Rules are told apart
by their ids; a host has one policy, the last one given. The records in memory may answer to more
names than those of their attributes.
-/
namespace Signpost.Store

/-- Rules, host policies and active versions, and what they answer to beside their attributes. -/
structure Memory where
  rules : List Rule := []
  hosts : List HostPolicy := []
  versions : List ActiveVersion := []
  others : Others := Others.none
  deriving Inhabited

/-- The records that satisfy the criteria. -/
def search (others : Others) (attributes : α → List (String × Value)) (criteria : List Criterion)
    (records : List α) : Except Failure (List α) :=
  (select others attributes criteria records).mapError Failure.ofUndecided

/-- One attribute of a rule set to a value; a value that the attribute cannot hold, and an
attribute that no rule has, leave the rule as it is. -/
def setAttribute (rule : Rule) (field : String × Value) : Rule :=
  match field with
  | ("id", value) => orKeep (Schema.nullable Schema.text value) fun x => { rule with id := x }
  | ("path", value) => orKeep (Schema.text value) fun x => { rule with path := x }
  | ("host", value) => orKeep (Schema.text value) fun x => { rule with host := x }
  | ("version", value) => orKeep (Schema.integer value) fun x => { rule with version := x }
  | ("redirect_url", value) => orKeep (Schema.text value) fun x => { rule with target := x }
  | ("status_code", value) => orKeep (Schema.integer value) fun x => { rule with status := x }
  | ("utc_start_time", value) =>
    orKeep (Schema.nullable Schema.integer value) fun x => { rule with start := x }
  | ("utc_end_time", value) =>
    orKeep (Schema.nullable Schema.integer value) fun x => { rule with stop := x }
  | ("operations", value) =>
    orKeep (Schema.nullable Schema.text value) fun x => { rule with operations := x }
  | ("regex", value) => orKeep (Schema.truth value) fun x => { rule with isPattern := x }
  | ("last_accessed", value) =>
    orKeep (Schema.nullable Schema.integer value) fun x => { rule with lastAccessed := x }
  | _ => rule
where
  /-- The rule with the value that was read, or as it was. -/
  orKeep {α : Type} (read : Except Schema.ProblemKind α) (put : α → Rule) : Rule :=
    match read with
    | .ok x => put x
    | .error _ => rule

/-- The first rule with the id replaced. -/
def replaceFirst (id : Option String) (change : Rule → Rule) : List Rule → Option (List Rule)
  | [] => none
  | rule :: rest =>
    if rule.id = id then some (change rule :: rest)
    else (replaceFirst id change rest).map (rule :: ·)

namespace Memory

/-- The rules that satisfy the criteria. -/
def searchRules (memory : Memory) (criteria : List Criterion) : Except Failure (List Rule) :=
  search memory.others Rule.attributes criteria memory.rules

/-- A rule added at the end, under an id of its own. -/
def insertRule (memory : Memory) (id : String) (rule : Rule) : Except Failure Memory :=
  if memory.rules.any (·.id = some id) then .error (.alreadyExists id)
  else .ok { memory with rules := memory.rules ++ [{ rule with id := some id }] }

/-- A rule put in the place of the one with its id. -/
def updateRule (memory : Memory) (rule : Rule) : Except Failure Memory :=
  match rule.id with
  | none => .error .noId
  | some id =>
    match replaceFirst (some id) (fun _ => rule) memory.rules with
    | some rules => .ok { memory with rules }
    | none => .error (.notFound id)

/-- Some attributes of the rule with the id set. -/
def patchRule (memory : Memory) (id : String) (fields : List (String × Value)) :
    Except Failure Memory :=
  match replaceFirst (some id) (fun rule => fields.foldl setAttribute rule) memory.rules with
  | some rules => .ok { memory with rules }
  | none => .error (.notFound id)

/-- A host policy in place of any other of its host, at the end. -/
def insertHost (memory : Memory) (policy : HostPolicy) : Memory :=
  { memory with hosts := memory.hosts.filter (·.host != policy.host) ++ [policy] }

/-- An active version added at the end. -/
def insertVersion (memory : Memory) (version : ActiveVersion) : Memory :=
  { memory with versions := memory.versions ++ [version] }

end Memory
end Signpost.Store
