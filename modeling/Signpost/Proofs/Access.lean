import Signpost.Proofs.Fallback
import Signpost.Proofs.Keeping

/-!
# Accesses

When a request is answered with a rule, an access to it is decided on if one is due. The access is
noted on the rule at once, or it is put off and noted later. Requests, moves of the clock and accesses
that are carried out after they were put off are the turns of a session.

## Main results

`exists_rule_of_access`: an access that is decided on is one to a stored rule, on which it is due.
`note_holds`: noting an access sets the last access of its rule, or leaves all rules as they are.
`afterTurn_base`: in a turn, nothing happens to the stores but that an access is noted.
`runPending_eq`: the accesses that were put off are carried out all at once by turns as well.

## Proof strategy

What a request asks for is fixed by the contents of the stores (`reply_of_holds`), so an answer goes
back to one call of `findRule`, which finds a stored rule up to its target. What noting does in stores
of either kind is said in `Proofs.Keeping`; here it is said once for both outcomes.
-/
namespace Signpost

open Store (Failure)

/-! ### What a request asks for -/

/-- What a request that names the location needs of a rule. -/
def Contents.needOf (contents : Contents) (defaults : Resolve.Defaults) (now : Int)
    (request : Resolve.Request) (location : Url.Location) : Resolve.Need :=
  let host := (request.host.bind Resolve.nonEmpty).getD location.host
  { host
    version := request.version.integer?.getD (contents.activeVersion defaults.version)
    hostOnly := request.hostOnly.getD
      (((policyOf contents.hosts host).map (·.hostOnly)).getD defaults.hostOnly)
    now := (request.instant.filter (· != 0)).getD now }

/-- The rule with its target rewritten by its operations, as they have it for the query. -/
def Rule.rewritten (rule : Rule) (query : String) : Rule :=
  { rule with target := (Operations.ofOption rule.operations).apply rule.target query }

namespace Resolve

variable [Platform] {base : RuleBase} {contents : Contents} {path : String} {need : Need} {ignoreSlash : Bool}
  {defaults : Defaults} {now : Int} {request : Request} {rule served : Rule} {access : Access}

/-- The path that a request asks for. -/
def Request.pathAt (request : Request) (location : Url.Location) : String :=
  if request.matchQuery then location.pathWithQuery else location.path

/-- The reply that is given with what is found: the rule with its target rewritten, and the access. -/
def replyWith (defaults : Defaults) (now : Int) (location : Url.Location) (found : Option Rule) :
    Reply where
  rule := found.map (·.rewritten location.query)
  access := found.bind (accessOf defaults now)

/-- A request is resolved to the rule found for what it asks of the contents. -/
theorem resolve_of_holds (held : base.stores.Holds contents) (defaults : Defaults) (now : Int)
    (request : Request) : resolve base defaults now request = do
      let location ← (Url.Location.ofText request.path).mapError .url
      let found ← findRule base (request.pathAt location)
        (contents.needOf defaults now request location) request.ignoreSlash
      return (found.map (·.rewritten location.query), found.bind (accessOf defaults now)) := by
  unfold resolve
  cases (Url.Location.ofText request.path).mapError Refusal.url with
  | error refusal => rfl
  | ok location =>
    simp only [resolveVersion_of_holds held, resolveHostOnly_of_holds held, Except.mapError,
      Bind.bind, Except.bind, Request.pathAt, Contents.needOf]
    split
    next => rfl
    next found _ => cases found <;> rfl

/-- A request whose path is in order is replied to with the rule found for what it asks of the
contents. -/
theorem reply_of_holds (held : base.stores.Holds contents) (defaults : Defaults) (now : Int)
    (request : Request) : reply base defaults now request =
      match checkPath request.path with
      | [] => do
        let location ← (Url.Location.ofText request.path).mapError .url
        let found ← findRule base (request.pathAt location)
          (contents.needOf defaults now request location) request.ignoreSlash
        return replyWith defaults now location found
      | notices => .ok { notices } := by
  unfold reply
  cases checkPath request.path with
  | cons notice others => rfl
  | nil =>
    rw [resolve_of_holds held]
    cases (Url.Location.ofText request.path).mapError Refusal.url with
    | error refusal => rfl
    | ok location =>
      simp only [Bind.bind, Except.bind]
      cases findRule base (request.pathAt location)
        (contents.needOf defaults now request location) request.ignoreSlash <;> rfl

/-! ### The rule of an access -/

theorem allowed_of_findRule {found : Option Rule}
    (answered : findRule base path need ignoreSlash = .ok found) :
    base.allow .search = .ok () := by
  cases allowed : base.allow .search with
  | ok _ => rfl
  | error failure =>
    -- The first search would have failed already.
    have failed (criteria : List Criterion) : base.search criteria = .error failure := by
      rw [RuleBase.search, allowed]
      rfl
    rw [findRule_eq, failed] at answered
    cases answered

/-- The rule that is found is a stored one, but for its target. -/
theorem exists_stored_of_findRule (held : base.stores.Holds contents)
    (found : findRule base path need ignoreSlash = .ok (some served)) :
    ∃ rule ∈ contents.rules, ∃ target, served = { rule with target } := by
  have serves : base.Serves contents := ⟨allowed_of_findRule found, held⟩
  rcases (findRule_eq_some_iff serves).mp found with selected | ⟨rule, target, fallsBack, same⟩
  · exact ⟨served, (entitled_of_selected selected).1, served.target, rfl⟩
  · exact ⟨rule, List.mem_of_mem_filter (mem_of_answersFirst fallsBack.2), target, same⟩

end Resolve

/-- An access at the instant is due on the rule: none was noted on it yet, or the last one an interval
ago or earlier. -/
def Rule.Due (rule : Rule) (interval now : Int) : Prop :=
  ∀ last, rule.lastAccessed = some last → last + interval * 1000 ≤ now * 1000

namespace Resolve

variable {base : RuleBase} {contents : Contents} {defaults : Defaults} {now : Int}
  {request : Request} {rule : Rule} {access : Access}

theorem accessOf_eq_some_iff : accessOf defaults now rule = some access ↔
    rule.id = some access.id ∧ access.millis = now * 1000 ∧ rule.Due defaults.interval now := by
  obtain ⟨id, millis⟩ := access
  unfold accessOf Rule.Due
  cases rule.id with
  | none => simp
  | some other =>
    cases rule.lastAccessed with
    | none =>
      constructor
      · intro decided
        cases decided
        simp
      · rintro ⟨named, rfl, _⟩
        cases named
        rfl
    | some last =>
      simp only [Option.bind_some, Option.any_some, decide_eq_true_eq]
      split
      next recent =>
        -- The last access is too recent, which is what it means that none is due.
        constructor
        · intro decided
          cases decided
        · rintro ⟨_, _, due⟩
          have := due last rfl
          omega
      next old =>
        constructor
        · intro decided
          cases decided
          refine ⟨rfl, rfl, fun earlier same => ?_⟩
          cases same
          omega
        · rintro ⟨named, rfl, _⟩
          cases named
          rfl

/-- An access that is decided on is one to a stored rule, and it is due on the rule. -/
theorem exists_rule_of_access [Platform] (held : base.stores.Holds contents) {answer : Reply}
    (answered : reply base defaults now request = .ok answer)
    (decided : answer.access = some access) :
    ∃ rule ∈ contents.rules, rule.id = some access.id ∧ access.millis = now * 1000 ∧
      rule.Due defaults.interval now := by
  rw [reply_of_holds held] at answered
  split at answered
  next =>
    cases named : (Url.Location.ofText request.path).mapError Refusal.url with
    | error refusal =>
      rw [named] at answered
      cases answered
    | ok location =>
      simp only [named, Bind.bind, Except.bind] at answered
      split at answered
      next => cases answered
      next found called =>
        cases answered
        -- An access is decided on only if a rule was found, which is a stored one.
        obtain ⟨served, rfl, decided⟩ := Option.bind_eq_some_iff.mp decided
        obtain ⟨rule, member, target, rfl⟩ := exists_stored_of_findRule held called
        exact ⟨rule, member, accessOf_eq_some_iff.mp decided⟩
  next =>
    cases answered
    cases decided

end Resolve

/-! ### Noting an access -/

/-- Where ids differ, an access that goes through is noted on the rule with the id. -/
theorem Stores.patchRule_holds {stores after : Stores} {contents : Contents}
    (held : stores.Holds contents) (distinct : (contents.rules.map (·.id)).Nodup) {id : String}
    {millis : Int} (patched : stores.patchRule id [("last_accessed", .int millis)] = .ok after) :
    after.Holds { contents with rules := contents.rules.map (Rule.noted id millis) } := by
  cases held with
  | memory m =>
    simp only [patchRule, Store.Memory.patchRule, List.foldl_cons, List.foldl_nil,
      setAttribute_lastAccessed, replaceFirst_eq_map distinct] at patched
    split at patched
    next rules replaced =>
      cases patched
      split at replaced
      next => exact Option.some.inj replaced ▸ .memory _
      next => cases replaced
    next => cases patched
  | tables held => exact holds_of_changed (fun _ done => held.noteAccess done) patched

namespace RuleBase

variable {base : RuleBase} {contents : Contents}

/-- The access goes through: noting it is not made to fail, and the stores do not refuse it. -/
def takes (base : RuleBase) (access : Resolve.Access) : Bool :=
  (base.patch access.id [("last_accessed", .int access.millis)]).2.isOk

/-- An access that goes through is noted on the rule with its id; any other leaves no trace. -/
theorem note_holds (held : base.stores.Holds contents)
    (distinct : (contents.rules.map (·.id)).Nodup) (access : Resolve.Access) :
    (Resolve.note base access).stores.Holds
      (if base.takes access then
        { contents with rules := contents.rules.map (Rule.noted access.id access.millis) }
      else contents) := by
  unfold Resolve.note takes patch
  cases patched : (do
      base.allow .patch
      base.stores.patchRule access.id [("last_accessed", .int access.millis)]) with
  | error failure => exact held
  | ok stores => exact Stores.patchRule_holds held distinct (ok_of_allowed patched)

theorem note_faults (base : RuleBase) (access : Resolve.Access) :
    (Resolve.note base access).faults = base.faults := by
  unfold Resolve.note patch after
  split <;> rfl

end RuleBase

/-! ### Turns -/

/-- What a session does in turn: a request is answered, the clock moves, or of the accesses that were
put off, the one at a place of the queue is noted. -/
inductive Turn
  | ask (request : Resolve.Request)
  | advance (seconds : Int)
  | carryOut (place : Nat)

/-- The seconds by which the clock moves in a turn. -/
def Turn.seconds : Turn → Int
  | .advance seconds => seconds
  | .ask _ | .carryOut _ => 0

namespace Session

variable [Platform] {session : Session} {turn : Turn}

/-- The access at a place of the queue, noted and taken from the queue. -/
def carryOut (session : Session) (place : Nat) : Session :=
  match session.pending[place]? with
  | some access =>
    { session with
      base := Resolve.note session.base access
      pending := session.pending.eraseIdx place }
  | none => session

/-- The session after a turn. -/
def afterTurn (session : Session) : Turn → Session
  | .ask request => (session.resolve request).1
  | .advance seconds => session.advance seconds
  | .carryOut place => session.carryOut place

/-- The session after turns. -/
def afterTurns (session : Session) (turns : List Turn) : Session :=
  turns.foldl afterTurn session

/-- The access that is decided on in a turn. -/
def decided (session : Session) : Turn → Option Resolve.Access
  | .ask request =>
    (Resolve.reply session.base session.resolution session.clock request).toOption.bind (·.access)
  | .advance _ | .carryOut _ => none

/-- The access that is to be noted in a turn. -/
def noting (session : Session) : Turn → Option Resolve.Access
  | .ask request => if session.defers then none else session.decided (.ask request)
  | .advance _ => none
  | .carryOut place => session.pending[place]?

/-- A request is answered whatever becomes of the access that is decided on. -/
theorem resolve_eq (session : Session) (request : Resolve.Request) :
    session.resolve request =
      (((session.decided (.ask request)).map session.record).getD session,
        Resolve.reply session.base session.resolution session.clock request) := by
  simp only [Session.resolve, decided]
  cases Resolve.reply session.base session.resolution session.clock request with
  | error refusal => rfl
  | ok reply =>
    simp only [Except.toOption, Option.bind_some]
    cases reply.access <;> rfl

/-- In a turn, nothing happens to the stores but that an access is noted. -/
theorem afterTurn_base (session : Session) (turn : Turn) : (session.afterTurn turn).base =
    ((session.noting turn).map (Resolve.note session.base)).getD session.base := by
  cases turn with
  | ask request =>
    simp only [afterTurn, resolve_eq, noting]
    cases session.decided (.ask request) with
    | none => cases session.defers <;> rfl
    | some access =>
      simp only [Option.map_some, Option.getD_some, record]
      cases session.defers <;> rfl
  | advance seconds => rfl
  | carryOut place =>
    simp only [afterTurn, carryOut, noting]
    cases session.pending[place]? <;> rfl

/-- To carry out all accesses that were put off is to carry out the first of the queue time after time. -/
theorem runPending_eq (session : Session) : session.runPending =
    session.afterTurns (List.replicate session.pending.length (.carryOut 0)) := by
  induction queue : session.pending generalizing session with
  | nil =>
    obtain ⟨base, clock, resolution, import_, defers, pending⟩ := session
    cases queue
    rfl
  | cons access rest ih =>
    have first : session.carryOut 0 =
        { session with base := Resolve.note session.base access, pending := rest } := by
      simp [carryOut, queue]
    rw [List.length_cons, List.replicate_succ, afterTurns, List.foldl_cons]
    have later := ih (session.carryOut 0) (by rw [first])
    rw [afterTurns] at later
    rw [afterTurn, ← later, first]
    simp [runPending, queue]

omit [Platform] in
theorem record_settings (session : Session) (access : Resolve.Access) :
    (session.record access).clock = session.clock ∧
      (session.record access).resolution = session.resolution ∧
      (session.record access).defers = session.defers ∧
      (session.record access).import_ = session.import_ := by
  unfold record
  split <;> exact ⟨rfl, rfl, rfl, rfl⟩

/-- A turn moves the clock by its seconds, and changes no setting. -/
theorem afterTurn_settings (session : Session) (turn : Turn) :
    (session.afterTurn turn).clock = session.clock + turn.seconds ∧
      (session.afterTurn turn).resolution = session.resolution ∧
      (session.afterTurn turn).defers = session.defers ∧
      (session.afterTurn turn).import_ = session.import_ := by
  cases turn with
  | ask request =>
    simp only [afterTurn, resolve_eq, Turn.seconds, Int.add_zero]
    cases session.decided (.ask request) with
    | none => exact ⟨rfl, rfl, rfl, rfl⟩
    | some access => exact session.record_settings access
  | advance seconds => exact ⟨rfl, rfl, rfl, rfl⟩
  | carryOut place =>
    simp only [afterTurn, carryOut, Turn.seconds, Int.add_zero]
    split <;> exact ⟨rfl, rfl, rfl, rfl⟩

end Session
end Signpost
