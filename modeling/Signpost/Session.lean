import Signpost.Health
import Signpost.Number.Calendar
import Signpost.Sheet.Import

/-!
# Sessions

A session is a service over time: its stores, a clock that is set by hand, the defaults of
resolution and import, and the accesses that still have to be noted where that is put off. A step
changes the session and gives a result, or gives a refusal; a refused step may have changed the
session up to the place where it failed.
-/
namespace Signpost

open Store (Failure)

/-- A service over time. -/
structure Session where
  base : RuleBase
  clock : Int
  resolution : Resolve.Defaults := {}
  import_ : Sheet.Defaults := {}
  defers : Bool := false
  pending : List Resolve.Access := []

/-- A step of a session. -/
inductive Step
  | insert (rule : Rule)
  | update (rule : Rule)
  | get (id : Value)
  | patch (id : String) (fields : List (String × Value))
  | deleteAll
  | count
  | search (criteria : List Criterion)
  | addHost (policy : HostPolicy)
  | searchHosts (criteria : List Criterion)
  | addVersion (version : ActiveVersion)
  | searchVersions (criteria : List Criterion)
  | clearVersions
  | advance (seconds : Int)
  | resolve (request : Resolve.Request)
  | findRule (path : String) (need : Resolve.Need) (ignoreSlash : Bool)
  | importRows (rows : List Sheet.Row)
  | importCsv (text : String)
  | importPayload (payload : Sheet.Payload)
  | importDirect (rows : List Sheet.Row)
  | runPending
  | setFaults (faults : Faults)
  | health
  | dump

/-- The contents of the stores. -/
structure Contents where
  rules : List Rule
  hosts : List HostPolicy
  versions : List ActiveVersion
  deriving Repr, Inhabited

/-- The result of a step. -/
inductive Result
  | done
  | rule (rule : Option Rule)
  | rules (rules : List Rule)
  | number (n : Nat)
  | host (policy : HostPolicy)
  | hosts (policies : List HostPolicy)
  | version (version : ActiveVersion)
  | versions (versions : List ActiveVersion)
  | instant (seconds : Int) (text : String)
  | reply (reply : Resolve.Reply)
  | summary (summary : Sheet.Summary)
  | report (report : Sheet.Report)
  | check (check : Check)
  | contents (contents : Contents)

/-- Why a step has no result. -/
inductive Refusal
  | store (failure : Failure)
  | resolve (refusal : Resolve.Refusal)
  | sheet (refusal : Sheet.Refusal)
  | undated (instant : Number.UndatedInstant)

/-- The contents of the stores. -/
def RuleBase.contents (base : RuleBase) : Except Failure Contents := do
  return ⟨← base.search [], ← base.stores.searchHosts [], ← base.stores.searchVersions []⟩

namespace Session

/-- The session after a call on its rule base. -/
def after (session : Session) (result : α → Result) (call : RuleBase × Except Failure α) :
    Session × Except Refusal Result :=
  ({ session with base := call.1 }, (call.2.map result).mapError .store)

/-- The session as it is, with what a call on its rule base gives. -/
def asked (session : Session) (result : α → Result) (answer : Except Failure α) :
    Session × Except Refusal Result :=
  (session, (answer.map result).mapError .store)

/-- The session after an import. -/
def imported (session : Session) (call : RuleBase × Except Sheet.Refusal Sheet.Summary) :
    Session × Except Refusal Result :=
  ({ session with base := call.1 }, (call.2.map .summary).mapError .sheet)

/-- An access noted, or put off. -/
def record (session : Session) (access : Resolve.Access) : Session :=
  if session.defers then { session with pending := session.pending ++ [access] }
  else { session with base := Resolve.note session.base access }

/-- A request answered, its access noted or put off. -/
def resolve [Platform] (session : Session) (request : Resolve.Request) :
    Session × Except Resolve.Refusal Resolve.Reply :=
  match Resolve.reply session.base session.resolution session.clock request with
  | .error refusal => (session, .error refusal)
  | .ok reply =>
    match reply.access with
    | none => (session, .ok reply)
    | some access => (session.record access, .ok reply)

/-- The accesses that were put off, noted. -/
def runPending (session : Session) : Session :=
  { session with base := session.pending.foldl Resolve.note session.base, pending := [] }

/-- The clock moved. -/
def advance (session : Session) (seconds : Int) : Session :=
  { session with clock := session.clock + seconds }

/-- One step. -/
def step [Platform] (session : Session) : Step → Session × Except Refusal Result
  | .insert rule => session.after (fun rule => .rule (some rule)) (session.base.insert rule)
  | .update rule => session.after (fun rule => .rule (some rule)) (session.base.update rule)
  | .get id => session.asked .rule (session.base.get id)
  | .patch id fields => session.after (fun _ => .done) (session.base.patch id fields)
  | .deleteAll => session.after .number session.base.deleteAll
  | .count => session.asked .number session.base.count
  | .search criteria => session.asked .rules (session.base.search criteria)
  | .addHost policy => session.after .host (session.base.addHost policy)
  | .searchHosts criteria => session.asked .hosts (session.base.stores.searchHosts criteria)
  | .addVersion version => session.after .version (session.base.addVersion version)
  | .searchVersions criteria =>
    session.asked .versions (session.base.stores.searchVersions criteria)
  | .clearVersions => session.after .number session.base.clearVersions
  | .advance seconds =>
    let moved := session.advance seconds
    (moved, ((Number.isoText moved.clock).map (.instant moved.clock)).mapError .undated)
  | .resolve request =>
    let (session, answer) := session.resolve request
    (session, (answer.map .reply).mapError .resolve)
  | .findRule path need ignoreSlash =>
    (session,
      ((Resolve.findRule session.base path need ignoreSlash).map .rule).mapError .resolve)
  | .importRows rows => session.imported (Sheet.importRead session.base session.import_ rows)
  | .importCsv text => session.imported (Sheet.importCsv session.base session.import_ text)
  | .importPayload payload =>
    session.imported (Sheet.importPayload session.base session.import_ payload)
  | .importDirect rows =>
    session.after .report (Sheet.importRows session.base session.import_ rows)
  | .runPending => (session.runPending, .ok (.number session.pending.length))
  | .setFaults faults => ({ session with base := { session.base with faults } }, .ok .done)
  | .health => session.asked .check session.base.check
  | .dump => session.asked .contents session.base.contents

end Session
end Signpost
