import Signpost.Text.Blank

/-!
# Routes

A path leads to an endpoint, which answers to certain methods. One line feed at the end of a path
does not count. A path that leads nowhere may still lead to an endpoint once the slash at its end is
taken away, or one is added.
-/
namespace Signpost.Http

/-- What the service answers to. -/
inductive Endpoint
  | check (path : Option String)
  | sheet
  | rules
  | rule (id : String)
  | hosts
  | version
  | health
  | ready
  | live
  deriving DecidableEq, Repr, Inhabited

/-- The endpoints with a fixed path. -/
def fixedEndpoints : List (String × Endpoint) :=
  [("/checkredirect", .check none), ("/redirect", .sheet), ("/rule", .rules), ("/hosts", .hosts),
    ("/version", .version), ("/health", .health), ("/health/ready", .ready),
    ("/health/live", .live)]

/-- The text without a line feed at its end. -/
def withoutLastBreak (cs : List Char) : List Char :=
  if cs.getLast? == some '\n' then cs.dropLast else cs

/-- What follows a front. -/
def after? (front : String) (cs : List Char) : Option (List Char) :=
  if front.toList.isPrefixOf cs then some (cs.drop front.length) else none

namespace Endpoint

/-- The endpoint with a fixed path. -/
def ofFixedPath (path : List Char) : Option Endpoint :=
  (fixedEndpoints.find? fun entry => entry.1.toList == withoutLastBreak path).map (·.2)

/-- The endpoint that checks the rest of its path. -/
def ofCheckedPath (path : List Char) : Option Endpoint := do
  let rest := withoutLastBreak (← after? "/checkredirect/" path)
  if rest.contains '\n' then none else some (.check (some (String.ofList rest)))

/-- The endpoint of one rule. -/
def ofRulePath (path : List Char) : Option Endpoint := do
  let id ← after? "/rule/" path
  if id.isEmpty || id.contains '/' then none else some (.rule (String.ofList id))

/-- The endpoint that a path leads to. -/
def ofPath (path : List Char) : Option Endpoint :=
  ofFixedPath path <|> ofCheckedPath path <|> ofRulePath path

/-- The methods that an endpoint answers to. -/
def methods : Endpoint → List String
  | sheet => ["POST"]
  | rules => ["GET", "DELETE"]
  | rule _ => ["GET", "PUT"]
  | hosts | version => ["GET", "POST"]
  | check _ | health | ready | live => ["GET"]

end Endpoint

/-- The path with the slashes at its end taken away, or with one added. -/
def toggledPath (path : List Char) : List Char :=
  if path.getLast? == some '/' then Text.dropEndWhile (· == '/') path else path ++ ['/']

/-- Where a request goes: to an endpoint, to the path with its slash toggled, or nowhere. -/
inductive Route
  | found (endpoint : Endpoint)
  | elsewhere
  | wrongMethod
  | nowhere
  deriving DecidableEq, Repr

/-- The route of a method and a path. -/
def Route.of (method : String) (path : List Char) : Route :=
  match Endpoint.ofPath path with
  | some endpoint =>
    if endpoint.methods.contains method then .found endpoint else .wrongMethod
  | none =>
    if path != ['/'] && (Endpoint.ofPath (toggledPath path)).isSome then .elsewhere else .nowhere

end Signpost.Http
