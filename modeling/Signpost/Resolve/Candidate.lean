import Signpost.Rule
import Signpost.Condition

/-!
# Candidates

The rules stored for a path, or for the path with its final slash put on or off, are the candidates
of a request. `filterCandidates` keeps those of the version that are active and fit the host: the
rules bound to the host if there are any, else the rules of every host. `selectCandidate` picks the
one that answers.
-/
namespace Signpost.Resolve

/-- The path without its final slash, or with one. -/
def toggleSlash (path : String) : String :=
  let cs := path.toList
  if cs.getLast? == some '/' then String.ofList cs.dropLast else String.ofList (cs ++ ['/'])

/-- The criteria by which the candidates of a path are searched. Pattern rules have no final slash
to put on or off. -/
def candidateCriteria (path : String) (ignoreSlash : Bool) : List Criterion :=
  if ignoreSlash then
    [.anyOf [.equals "path" (.text path), .equals "path" (.text (toggleSlash path))],
      .one (.equals "regex" (.bool false))]
  else [.one (.equals "path" (.text path))]

/-- What a request asks of a rule, besides its path. -/
structure Need where
  host : String
  version : Int
  hostOnly : Bool
  now : Int
  deriving DecidableEq, Repr, Inhabited

/-- The rule may answer: it is of the version, it is active, and it is bound to the host or to
none. Where the host takes rules of its own only, it is bound to it. -/
def Need.admits (need : Need) (rule : Rule) : Bool :=
  rule.version == need.version
    && !(need.hostOnly && rule.host != need.host)
    && !(rule.host != "" && need.host == "")
    && rule.activeAt need.now
    && (rule.host == need.host || rule.host == "")

/-- The rules that may answer; if any is bound to the host, only those. -/
def filterCandidates (need : Need) (rules : List Rule) : List Rule :=
  let eligible := rules.filter need.admits
  if eligible.any (·.host == need.host) then eligible.filter (·.host == need.host) else eligible

/-- The one candidate, or of two the one stored for the path itself. -/
def selectCandidate (path : String) : List Rule → Option Rule
  | [rule] => some rule
  | [first, second] => [first, second].find? (·.path == path)
  | _ => none

end Signpost.Resolve
