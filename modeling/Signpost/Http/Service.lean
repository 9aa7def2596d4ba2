import Signpost.Http.Document
import Signpost.Http.Route
import Signpost.Session

/-!
# The service over HTTP

Requests are answered one at a time. `respond` gives the session after a request and the response;
an access is noted once the response is made. A failure of the store makes the service unavailable,
any other failure is the service's own.
-/
namespace Signpost.Http

open Store (Failure)

/-- The version of the service. -/
def serviceVersion : String := "0.1.0"

/-- The response to a request on which the store fails. -/
def Response.ofFailure (failure : Failure) : Response :=
  if failure.isOwn then .detail 503 "Store unavailable"
  else if failure = .unspoken then .unspoken
  else .broken

/-- What a call gives, as a response. -/
def Response.ofCall (response : α → Response) : Except Failure α → Response
  | .ok x => response x
  | .error failure => .ofFailure failure

/-- The session after a call on its rule base, with the response. -/
def answer (session : Session) (response : α → Response) (call : RuleBase × Except Failure α) :
    Session × Response :=
  ({ session with base := call.1 }, .ofCall response call.2)

/-- The session as it is, with what a call gives as a response. -/
def asked (session : Session) (response : α → Response) (call : Except Failure α) :
    Session × Response :=
  (session, .ofCall response call)

/-- A flag: set by the digit one, and not set by anything else. -/
def flag (text : String) : Bool :=
  Text.trim text.toList == ['1']

/-- A text that is there and not empty. -/
def present (text : Option String) : Option String :=
  text.bind Resolve.nonEmpty

/-- The path that a request asks about: that of its parameter, else that of its header, else what
stands at the end of its own path. -/
def askedPath (request : Request) (path : Option String) : Option String :=
  present (request.parameter? "path") <|> present (request.header? "path")
    <|> (present path).map fun path =>
      "/" ++ String.ofList (path.toList.dropWhile (· == '/'))

/-- The question that a request asks about a path. -/
def question (request : Request) (path : String) : Resolve.Request where
  path := path
  host := request.parameter? "h"
  version := .ofOption .text (request.parameter? "v")
  hostOnly := (request.parameter? "ho").map flag
  instant := (request.parameter? "t").bind fun text => (Value.text text).integer?
  matchQuery := request.parameter? "qs" == some "m"
  ignoreSlash := (request.parameter? "si").any flag

/-- The response to a question that has been answered. -/
def replyResponse (reply : Resolve.Reply) : Response :=
  match reply.notices, reply.rule with
  | notice :: _, _ => .detail 400 notice.message
  | [], none => .detail 404 "Not found"
  | [], some rule => .json 200 rule.toPublic

variable [Platform]

/-- A path checked. -/
def check (session : Session) (request : Request) (path : Option String) : Session × Response :=
  match askedPath request path with
  | none => (session, .detail 400 "A path is required")
  | some path =>
    match session.resolve (question request path) with
    | (session, .ok reply) => (session, replyResponse reply)
    | (session, .error (.store failure)) => (session, .ofFailure failure)
    | (session, .error _) => (session, .broken)

/-- The text occurs in another. -/
def occursIn (part : List Char) : List Char → Bool
  | [] => part.isEmpty
  | c :: rest => part.isPrefixOf (c :: rest) || occursIn part rest

/-- The response to an import: its message and the rows that were skipped. -/
def summaryResponse (summary : Sheet.Summary) : Response :=
  if summary.errors.isEmpty then
    let skip (skip : Sheet.Skip) : Value :=
      .object [("reason", .text skip.reason), ("item", Json.finite (.object skip.item))]
    .json 200 (.object [("message", .text summary.report.message),
      ("skipped", .list (summary.report.skipped.map skip))])
  else .detail 400 ("; ".intercalate summary.errors)

/-- The session after an import, with the response. -/
def imported (session : Session) (call : RuleBase × Except Sheet.Refusal Sheet.Summary) :
    Session × Response :=
  let response :=
    match call.2 with
    | .ok summary => summaryResponse summary
    | .error (.store failure) => .ofFailure failure
    | .error (.payload fault) => if fault.isUnspoken then .unspoken else .broken
    | .error (.csv _) => .broken
  ({ session with base := call.1 }, response)

/-- A sheet imported: comma-separated text where the request says so, else JSON. -/
def importSheet (session : Session) (request : Request) : Session × Response :=
  let contentType := (request.header? "content-type").getD ""
  if occursIn "text/csv".toList contentType.toList then
    match Text.decodeUtf8 request.body with
    | .error u => (session, .detail 400 ("CSV must be UTF-8: " ++ u.message))
    | .ok text =>
      imported session (Sheet.importCsv session.base session.import_ (String.ofList text))
  else imported session (Sheet.importPayload session.base session.import_ (.bytes request.body))

/-- A rule as it is stored. -/
def showRule (session : Session) (id : String) : Session × Response :=
  asked session (fun rule => match rule with
    | some rule => .json 200 rule.toPublic
    | none => .detail 404 "Rule not found") (session.base.get (.text id))

/-- The response to a record with a text that is none of characters, which no table can hold; in memory
nothing is told of it. -/
def unheld (session : Session) (table : String) : Response :=
  match session.base.stores with
  | .memory _ => .unspoken
  | .tables path file =>
    match Stores.opened path file >>= (·.rows table) with
    | .ok _ => .broken
    | .error failure => .ofFailure failure

/-- A rule put in the place of a stored one, whose id it takes. -/
def replaceRule (session : Session) (request : Request) (id : String) : Session × Response :=
  match readBody request Rule.ofValue with
  | .error (.answered response) => (session, response)
  | .error .unpaired =>
    match session.base.get (.text id), session.base.allow .update with
    | .error failure, _ => (session, .ofFailure failure)
    | .ok none, _ => (session, .detail 404 "Rule not found")
    | .ok (some _), .error failure => (session, .ofFailure failure)
    | .ok (some _), .ok () => (session, unheld session "rules")
  | .ok rule =>
    match session.base.get (.text id) with
    | .error failure => (session, .ofFailure failure)
    | .ok none => (session, .detail 404 "Rule not found")
    | .ok (some _) =>
      answer session (fun _ => .empty 204) (session.base.update { rule with id := some id })

/-- A host policy added, in place of any other of its host. -/
def addHost (session : Session) (request : Request) : Session × Response :=
  match readBody request HostPolicy.ofValue with
  | .error (.answered response) => (session, response)
  | .error .unpaired => (session, unheld session "hosts")
  | .ok policy =>
    answer session (fun policy => .object 201 policy.publicFields) (session.base.addHost policy)

/-- The active versions replaced by one. -/
def setVersion (session : Session) (request : Request) : Session × Response :=
  match readBody request ActiveVersion.ofValue with
  | .error (.answered response) => (session, response)
  | .error .unpaired => (session, .unspoken)
  | .ok version =>
    answer session (fun version => .json 201 (.object version.publicFields))
      (session.base.setVersion version)

/-- A check of the store as it is shown. -/
def checkValue (check : Check) : Value :=
  .object [("name", .text check.name), ("status", .text check.status),
    ("message", .text check.message)]

/-- The response to a question about the health of the service, with fields in front. -/
def healthResponse (front : Check → List (String × Value)) (check : Check) : Response :=
  .object (if check.healthy then 200 else 503)
    (front check ++ [("checks", .list [checkValue check])])

/-- The response of an endpoint to a request whose method it answers to. -/
def serve (session : Session) (request : Request) (method : String) :
    Endpoint → Session × Response
  | .check path => check session request path
  | .sheet => importSheet session request
  | .rules =>
    if method == "DELETE" then
      answer session (fun (n : Nat) => .object 200 [("deleted", .int n)]) session.base.deleteAll
    else asked session (fun (n : Nat) => .object 200 [("recordCount", .int n)]) session.base.count
  | .rule id => if method == "PUT" then replaceRule session request id else showRule session id
  | .hosts =>
    if method == "POST" then addHost session request
    else
      asked session (fun policies =>
        .json 200 (.list (policies.map fun policy => .object policy.publicFields)))
        (session.base.stores.searchHosts [])
  | .version =>
    if method == "POST" then setVersion session request
    else
      asked session (fun versions =>
        .json 200 (.list (versions.map fun version => .object version.publicFields)))
        (session.base.stores.searchVersions [])
  | .health =>
    asked session (healthResponse fun check =>
      [("status", .text check.status), ("version", .text serviceVersion)]) session.base.check
  | .ready =>
    asked session (healthResponse fun check => [("ready", .bool check.healthy)])
      session.base.check
  | .live => (session, .object 200 [("alive", .bool true)])

/-- The session after a request, with the response. -/
def respond (session : Session) (request : Request) : Session × Response :=
  let method := String.ofList (request.method.toList.map Char.toUpper)
  let (session, response) :=
    match Route.of method request.path.toList with
    | .found endpoint => serve session request method endpoint
    | .elsewhere => (session, .empty 307)
    | .wrongMethod => (session, .detail 405 "Method Not Allowed")
    | .nowhere => (session, .detail 404 "Not Found")
  (session, if method == "HEAD" then response.withoutBody else response)

end Signpost.Http
