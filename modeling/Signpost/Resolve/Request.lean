import Signpost.Operation
import Signpost.Resolve.Candidate
import Signpost.Resolve.Substitution
import Signpost.RuleBase
import Signpost.Url.Location

/-!
# Resolving requests

A request names a path or a URL and may set the host, the version, the host policy and the instant
for which it is asked. `resolve` answers with the rule that holds for it, its target rewritten by
the rule's operations, and with the access that is to be noted on the rule. An access is noted once
in an interval, and a failure to note it is of no consequence.
-/
namespace Signpost.Resolve

open Store (Failure)

/-- What holds where neither the request nor the stores say otherwise; the interval between two
accesses that are noted is in seconds. -/
structure Defaults where
  version : Int := 0
  hostOnly : Bool := false
  interval : Int := 30
  deriving DecidableEq, Repr, Inhabited

/-- A request for a path or a URL. -/
structure Request where
  path : String
  host : Option String := none
  version : Value := .null
  hostOnly : Option Bool := none
  instant : Option Int := none
  matchQuery : Bool := false
  ignoreSlash : Bool := false

/-- Why a request has no answer. -/
inductive Refusal
  | url (malformed : Url.Malformed)
  | store (failure : Failure)
  | pattern (fault : Pattern.Fault)
  deriving Repr

/-- An access to be noted on a rule: its id and the instant in milliseconds. -/
structure Access where
  id : String
  millis : Int
  deriving DecidableEq, Repr, Inhabited

/-- The version asked for, else the first active one, else the default. -/
def resolveVersion (stores : Stores) (explicit : Value) (default : Int) : Except Failure Int :=
  match explicit.integer? with
  | some version => .ok version
  | none => do
    let active ← stores.searchVersions [.one (.above "active_version" (.int 0))]
    return (active.head?.map (·.number)).getD default

/-- The policy asked for, else that of the host, else the default. -/
def resolveHostOnly (stores : Stores) (explicit : Option Bool) (host : String) (default : Bool) :
    Except Failure Bool :=
  match explicit with
  | some hostOnly => .ok hostOnly
  | none => do
    let policies ← stores.searchHosts [.one (.equals "host" (.text host))]
    return (policies.head?.map (·.hostOnly)).getD default

/-- The candidate for a path, else the first pattern rule that answers. -/
def findRule [Platform] (base : RuleBase) (path : String) (need : Need) (ignoreSlash : Bool) :
    Except Refusal (Option Rule) := do
  let stored ← (base.search (candidateCriteria path ignoreSlash)).mapError .store
  match selectCandidate path (filterCandidates need stored) with
  | some rule => return some rule
  | none =>
    let patterns ← (base.search [.one (.equals "regex" (.bool true))]).mapError .store
    (matchPattern path need.now patterns).mapError .pattern

/-- The access to note on a rule, unless one was noted within the interval. -/
def accessOf (defaults : Defaults) (now : Int) (rule : Rule) : Option Access :=
  let millis := now * 1000
  rule.id.bind fun id =>
    if rule.lastAccessed.any fun last => millis - last < defaults.interval * 1000 then none
    else some ⟨id, millis⟩

/-- The text, unless it is empty. -/
def nonEmpty (text : String) : Option String :=
  if text == "" then none else some text

/-- The rule that answers a request at an instant, its target rewritten, and the access to note. -/
def resolve [Platform] (base : RuleBase) (defaults : Defaults) (now : Int) (request : Request) :
    Except Refusal (Option Rule × Option Access) := do
  let location ← (Url.Location.ofText request.path).mapError .url
  let host := (request.host.bind nonEmpty).getD location.host
  let version ← (resolveVersion base.stores request.version defaults.version).mapError .store
  let hostOnly ←
    (resolveHostOnly base.stores request.hostOnly host defaults.hostOnly).mapError .store
  let path := if request.matchQuery then location.pathWithQuery else location.path
  let instant := (request.instant.filter (· != 0)).getD now
  match ← findRule base path ⟨host, version, hostOnly, instant⟩ request.ignoreSlash with
  | none => return (none, none)
  | some rule =>
    let target := (Operations.ofOption rule.operations).apply rule.target location.query
    return (some { rule with target }, accessOf defaults now rule)

/-- An access noted on its rule. -/
def note (base : RuleBase) (access : Access) : RuleBase :=
  (base.patch access.id [("last_accessed", .int access.millis)]).1

/-- What is wrong with a request, by code, in words, and the field at fault. -/
structure Notice where
  code : String
  message : String
  field : String
  deriving DecidableEq, Repr, Inhabited

/-- What is wrong with the path of a request. -/
def checkPath (path : String) : List Notice :=
  if path == "" then [⟨"path_required", "A path is required", "path"⟩]
  else
    match Url.Location.ofText path with
    | .ok _ => []
    | .error malformed =>
      [⟨"path_invalid", "Path is not a valid URL: " ++ malformed.message, "path"⟩]

/-- The answer to a request: what is wrong with it, or the rule and the access to note. -/
structure Reply where
  rule : Option Rule := none
  access : Option Access := none
  notices : List Notice := []
  deriving Repr, Inhabited

/-- The request was in order. -/
def Reply.success (reply : Reply) : Bool := reply.notices.isEmpty

/-- The answer to a request whose path is checked first. -/
def reply [Platform] (base : RuleBase) (defaults : Defaults) (now : Int) (request : Request) :
    Except Refusal Reply :=
  match checkPath request.path with
  | [] => (resolve base defaults now request).map fun (rule, access) => { rule, access }
  | notices => .ok { notices }

end Signpost.Resolve
