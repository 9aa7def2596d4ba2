import Signpost.Proofs.Access
import Signpost.Proofs.History

/-!
# Replies do not depend on accesses

A service deals with accesses under some regime: it notes them at once or puts them off, it decides on
them more or less often, and the call that notes them may always fail. What was put off is carried out
at any later turn and in any order, or never.

## Main result

`replies_eq`: under any two regimes, the same requests at the same instants are given the same replies,
but for the accesses noted on the rules in them.

## Proof strategy

Forgetting accesses commutes with every stage at which a rule is looked for
(`answerFrom_withoutAccess`). So rule bases that hold the same rules but for accesses reply alike
(`Akin.reply_eq`). A turn that carries out an access keeps a session akin to one that does nothing in
the meantime, so both runs are compared with a third in which nothing is ever carried out.
-/
namespace Signpost

open Store (Failure)

/-! ### Regimes -/

/-- How a service deals with accesses: whether it puts them off, the seconds between two of a rule, and
the failure, if any, that the call to note them always meets. -/
structure Regime where
  defers : Bool
  interval : Int
  failure : Option String

/-- The turn is a request or a move of the clock. -/
def Turn.isVisible : Turn → Bool
  | .ask _ | .advance _ => true
  | .carryOut _ => false

/-- The reply without the accesses that were noted on its rule or decided on. -/
def Resolve.Reply.withoutAccess (reply : Resolve.Reply) : Resolve.Reply :=
  { reply with rule := reply.rule.map Rule.withoutAccess, access := none }

namespace Session

/-- The session as it deals with accesses under the regime. -/
def under (session : Session) (regime : Regime) : Session :=
  { session with
    base := { session.base with
      faults := { session.base.faults with
        calls := (regime.failure.map fun message => (Call.patch.name, message)).toList ++
          session.base.faults.calls } }
    resolution := { session.resolution with interval := regime.interval }
    defers := regime.defers }

/-- The reply that is given in a turn, or the refusal. -/
def reply? [Platform] (session : Session) : Turn → Option (Except Resolve.Refusal Resolve.Reply)
  | .ask request => some (session.resolve request).2
  | .advance _ | .carryOut _ => none

/-- What is given in reply in the course of turns. -/
def replies [Platform] (session : Session) : List Turn → List (Except Resolve.Refusal Resolve.Reply)
  | [] => []
  | turn :: rest => (session.reply? turn).toList ++ (session.afterTurn turn).replies rest

end Session

/-! ### Accesses forgotten -/

namespace Resolve

variable [Platform] {rules : List Rule} {path : String} {need : Need} {now : Int}

omit [Platform] in
theorem filterCandidates_withoutAccess (need : Need) (rules : List Rule) :
    filterCandidates need (rules.map Rule.withoutAccess) =
      (filterCandidates need rules).map Rule.withoutAccess := by
  have admits : need.admits ∘ Rule.withoutAccess = need.admits := rfl
  have bound : (fun (rule : Rule) => rule.host == need.host) ∘ Rule.withoutAccess =
      fun rule => rule.host == need.host := rfl
  simp only [filterCandidates, List.filter_map, List.any_map, admits, bound]
  split <;> rfl

omit [Platform] in
theorem selectCandidate_withoutAccess (path : String) (rules : List Rule) :
    selectCandidate path (rules.map Rule.withoutAccess) =
      (selectCandidate path rules).map Rule.withoutAccess := by
  match rules with
  | [] | [_] | _ :: _ :: _ :: _ => rfl
  | [first, second] =>
    have asked : [first, second].map Rule.withoutAccess =
        [first.withoutAccess, second.withoutAccess] := rfl
    simp only [asked, selectCandidate]
    rw [← asked, List.find?_map]
    rfl

theorem applyPattern_withoutAccess (rule : Rule) (path : String) (now : Int) :
    applyPattern rule.withoutAccess path now =
      (applyPattern rule path now).map (Option.map Rule.withoutAccess) := by
  have source : rule.withoutAccess.path = rule.path := rfl
  have active : rule.withoutAccess.activeAt now = rule.activeAt now := rfl
  have target : rule.withoutAccess.target = rule.target := rfl
  simp only [applyPattern, source, active, target]
  cases Expression.ofText rule.path with
  | error fault => rfl
  | ok expression =>
    simp only [Bind.bind, Except.bind]
    cases expression.pattern.search path.toList with
    | none => rfl
    | some found =>
      simp only
      cases rule.activeAt now with
      | false => rfl
      | true =>
        simp only [if_true]
        cases substitute expression rule.target found <;> rfl

theorem matchPattern_withoutAccess (path : String) (now : Int) (rules : List Rule) :
    matchPattern path now (rules.map Rule.withoutAccess) =
      (matchPattern path now rules).map (Option.map Rule.withoutAccess) := by
  induction rules with
  | nil => rfl
  | cons rule rest ih =>
    rw [List.map_cons, matchPattern, matchPattern, applyPattern_withoutAccess]
    rcases applyPattern rule path now with fault | _ | found
    · cases fault with
      | malformed => exact ih
      | _ => rfl
    · exact ih
    · rfl

/-- Without accesses, the rules that two searches find lead to the same answer without accesses. -/
theorem answerFrom_withoutAccess (path : String) (need : Need) (candidates patterns : List Rule) :
    answerFrom path need (.ok (candidates.map Rule.withoutAccess))
        (.ok (patterns.map Rule.withoutAccess)) =
      (answerFrom path need (.ok candidates) (.ok patterns)).map (Option.map Rule.withoutAccess) := by
  simp only [answerFrom, Bind.bind, Except.bind, filterCandidates_withoutAccess,
    selectCandidate_withoutAccess, matchPattern_withoutAccess]
  cases selectCandidate path (filterCandidates need candidates) with
  | some rule => rfl
  | none => cases matchPattern path need.now patterns <;> rfl

omit [Platform] in
/-- What is shown of a reply depends on what is shown of the rule that is found. -/
theorem shown_replyWith (defaults : Defaults) (now : Int) (location : Url.Location)
    (found : Except Refusal (Option Rule)) :
    (do return replyWith defaults now location (← found)).map Reply.withoutAccess =
      (found.map (Option.map Rule.withoutAccess)).map fun rule =>
        { rule := rule.map (·.rewritten location.query) } := by
  rcases found with refusal | _ | rule <;> rfl

end Resolve

/-! ### Rule bases that differ in accesses -/

/-- The rule bases hold the same but for the accesses noted on rules, and both can be searched or
neither. -/
structure RuleBase.Akin (a b : RuleBase) : Prop where
  allow : a.allow .search = b.allow .search
  held : ∃ contents others, a.stores.Holds contents ∧ b.stores.Holds { contents with rules := others } ∧
    others.map Rule.withoutAccess = contents.rules.map Rule.withoutAccess

namespace RuleBase.Akin

variable [Platform] {a b : RuleBase}

omit [Platform] in
theorem symm (akin : a.Akin b) : b.Akin a := by
  obtain ⟨contents, others, heldA, heldB, same⟩ := akin.held
  exact ⟨akin.allow.symm, { contents with rules := others }, contents.rules, heldB, heldA, same.symm⟩

omit [Platform] in
/-- Noting an access on one side keeps the rule bases akin. -/
theorem note (akin : a.Akin b) (access : Resolve.Access) : (Resolve.note a access).Akin b := by
  obtain ⟨contents, others, heldA, heldB, same⟩ := akin.held
  obtain ⟨noted, holds, kept⟩ := note_keeps heldA access
  constructor
  · rw [RuleBase.allow, note_faults]
    exact akin.allow
  · exact ⟨{ contents with rules := noted }, others, holds, heldB, same.trans kept.symm⟩

/-- So does a turn of a session on one side. -/
theorem afterTurn {session : Session} (akin : session.base.Akin b) (turn : Turn) :
    (session.afterTurn turn).base.Akin b := by
  rw [Session.afterTurn_base]
  cases session.noting turn with
  | none => exact akin
  | some access => exact akin.note access

theorem findRule_eq (akin : a.Akin b) (path : String) (need : Resolve.Need) (ignoreSlash : Bool) :
    (Resolve.findRule a path need ignoreSlash).map (Option.map Rule.withoutAccess) =
      (Resolve.findRule b path need ignoreSlash).map (Option.map Rule.withoutAccess) := by
  obtain ⟨contents, others, heldA, heldB, same⟩ := akin.held
  cases allowed : a.allow .search with
  | error failure =>
    -- Neither can be searched, so both refuse for the same reason.
    have refused {base : RuleBase} (stopped : base.allow .search = .error failure)
        (criteria : List Criterion) : base.search criteria = .error failure := by
      rw [RuleBase.search, stopped]
      rfl
    rw [Resolve.findRule_eq, Resolve.findRule_eq, refused allowed, refused allowed,
      refused (akin.allow.symm.trans allowed), refused (akin.allow.symm.trans allowed)]
  | ok _ =>
    have servesA : a.Serves contents := ⟨allowed, heldA⟩
    have servesB : b.Serves { contents with rules := others } :=
      ⟨akin.allow.symm.trans allowed, heldB⟩
    -- What the searches find is the same without accesses, as neither of them looks at these.
    have found (rules : List Rule) (wanted : Rule → Bool)
        (blind : ∀ rule : Rule, wanted rule.withoutAccess = wanted rule) :
        (rules.filter wanted).map Rule.withoutAccess =
          (rules.map Rule.withoutAccess).filter wanted := by
      rw [List.filter_map]
      exact congrArg _ (congrArg (List.filter · rules) (funext fun rule => (blind rule).symm))
    rw [Resolve.findRule_eq, Resolve.findRule_eq, Resolve.search_candidates servesA,
      Resolve.search_candidates servesB, Resolve.search_patterns servesA,
      Resolve.search_patterns servesB]
    simp only [Except.mapError, ← Resolve.answerFrom_withoutAccess]
    rw [found _ _ fun _ => rfl, found _ _ fun _ => rfl, found _ _ fun _ => rfl,
      found _ _ fun _ => rfl, same]

/-- Rule bases that are akin reply alike but for accesses, however often these are decided on. -/
theorem reply_eq (akin : a.Akin b) {here there : Resolve.Defaults}
    (version : here.version = there.version) (hostOnly : here.hostOnly = there.hostOnly) (now : Int)
    (request : Resolve.Request) :
    (Resolve.reply a here now request).map Resolve.Reply.withoutAccess =
      (Resolve.reply b there now request).map Resolve.Reply.withoutAccess := by
  obtain ⟨contents, others, heldA, heldB, _⟩ := akin.held
  rw [Resolve.reply_of_holds heldA, Resolve.reply_of_holds heldB]
  cases Resolve.checkPath request.path with
  | cons notice rest => rfl
  | nil =>
    cases (Url.Location.ofText request.path).mapError Resolve.Refusal.url with
    | error refusal => rfl
    | ok location =>
      -- What is asked for is fixed by the host policies and the versions, which are the same.
      have need : contents.needOf here now request location =
          Contents.needOf { contents with rules := others } there now request location := by
        simp only [Contents.needOf, Contents.activeVersion, version, hostOnly]
      have found := akin.findRule_eq (request.pathAt location)
        (contents.needOf here now request location) request.ignoreSlash
      have shownA := Resolve.shown_replyWith here now location (Resolve.findRule a
        (request.pathAt location) (contents.needOf here now request location) request.ignoreSlash)
      have shownB := Resolve.shown_replyWith there now location (Resolve.findRule b
        (request.pathAt location) (Contents.needOf { contents with rules := others } there now request
          location) request.ignoreSlash)
      refine shownA.trans (Eq.trans ?_ shownB.symm)
      rw [found, need]

end RuleBase.Akin

/-! ### Sessions that differ in accesses -/

/-- The sessions hold the same but for accesses, are at the same instant and have the same defaults for
the version and the host policy. -/
structure Session.Akin (a b : Session) : Prop where
  bases : a.base.Akin b.base
  clock : a.clock = b.clock
  version : a.resolution.version = b.resolution.version
  hostOnly : a.resolution.hostOnly = b.resolution.hostOnly

namespace Session.Akin

variable [Platform] {a b : Session}

/-- A turn in which the clock stays may be taken by one of the sessions alone. -/
theorem afterTurn_left (akin : a.Akin b) {turn : Turn} (still : turn.seconds = 0) :
    (a.afterTurn turn).Akin b := by
  obtain ⟨clock, resolution, _, _⟩ := a.afterTurn_settings turn
  refine ⟨akin.bases.afterTurn turn, ?_, ?_, ?_⟩
  · rw [clock, still, Int.add_zero, akin.clock]
  · rw [resolution, akin.version]
  · rw [resolution, akin.hostOnly]

/-- Any turn may be taken by both sessions. -/
theorem afterTurn (akin : a.Akin b) (turn : Turn) : (a.afterTurn turn).Akin (b.afterTurn turn) := by
  obtain ⟨clockA, resolutionA, _, _⟩ := a.afterTurn_settings turn
  obtain ⟨clockB, resolutionB, _, _⟩ := b.afterTurn_settings turn
  refine ⟨((akin.bases.afterTurn turn).symm.afterTurn turn).symm, ?_, ?_, ?_⟩
  · rw [clockA, clockB, akin.clock]
  · rw [resolutionA, resolutionB, akin.version]
  · rw [resolutionA, resolutionB, akin.hostOnly]

/-- In the same turn, sessions that are akin give the same reply but for accesses. -/
theorem reply?_eq (akin : a.Akin b) (turn : Turn) :
    (a.reply? turn).map (Except.map Resolve.Reply.withoutAccess) =
      (b.reply? turn).map (Except.map Resolve.Reply.withoutAccess) := by
  cases turn with
  | ask request =>
    have same := akin.bases.reply_eq akin.version akin.hostOnly b.clock request
    simp only [reply?, resolve_eq, Option.map_some, akin.clock, same]
  | advance seconds | carryOut place => rfl

/-- Whatever turns a session takes, its replies are those of one that is akin to it and carries out
nothing. -/
theorem replies_eq_visible (akin : a.Akin b) (turns : List Turn) :
    (a.replies turns).map (Except.map Resolve.Reply.withoutAccess) =
      (b.replies (turns.filter (·.isVisible))).map (Except.map Resolve.Reply.withoutAccess) := by
  -- Both take a turn that is visible; the other turns are taken by the first session alone.
  induction turns generalizing a b with
  | nil => rfl
  | cons turn rest ih =>
    cases visible : turn.isVisible with
    | true =>
      have first := congrArg Option.toList (akin.reply?_eq turn)
      simp only [Option.toList_map] at first
      rw [List.filter_cons_of_pos visible, replies, replies, List.map_append, List.map_append, first,
        ih (akin.afterTurn turn)]
    | false =>
      rw [List.filter_cons_of_neg (by simp [visible])]
      cases turn with
      | ask request | advance seconds => cases visible
      | carryOut place => exact ih (akin.afterTurn_left rfl)

end Session.Akin

namespace Session

section

variable [Platform] {session : Session} {contents : Contents}

omit [Platform] in
/-- A session is akin to itself under any regime. -/
theorem under_akin (held : session.base.stores.Holds contents) (regime : Regime) :
    (session.under regime).Akin session := by
  refine ⟨⟨?_, contents, contents.rules, held, held, rfl⟩, rfl, rfl, rfl⟩
  -- A failure of the call that notes accesses is none of the search.
  cases failing : regime.failure with
  | none => simp [under, failing, RuleBase.allow]
  | some message =>
    have other : Call.search.name ≠ Call.patch.name := by decide
    simp [under, failing, RuleBase.allow, List.lookup_cons, beq_eq_false_iff_ne.mpr other]

/-- Under any two regimes, sessions that start with the same contents are given the same requests at
the same instants, while each carries out what it put off in turns of its own. They give the same
replies: what is wrong with a request, whether a rule is found, and the rule but for its accesses. -/
theorem replies_eq (held : session.base.stores.Holds contents) (regime other : Regime)
    {turns others : List Turn}
    (same : turns.filter (·.isVisible) = others.filter (·.isVisible)) :
    ((session.under regime).replies turns).map (Except.map Resolve.Reply.withoutAccess) =
      ((session.under other).replies others).map (Except.map Resolve.Reply.withoutAccess) := by
  have first := (under_akin held regime).replies_eq_visible turns
  have second := (under_akin held other).replies_eq_visible others
  rw [first, same, second]

end

attribute [local instance] Platform.usual

/-- A rule is asked for three times. Where accesses are put off, the second is carried out before the
first, so the rules in the replies show other accesses than where they are noted at once. -/
theorem replies_eq_of_late_accesses :
    let rule : Rule := ⟨some "id-1", "/a", "", 0, "/to", 301, none, none, none, false, none⟩
    let session : Session := { base := { stores := .memory { rules := [rule] } }, clock := 50 }
    let prompt : Regime := ⟨false, 30, none⟩
    let late : Regime := ⟨true, 5, none⟩
    let request : Resolve.Request := { path := "/a" }
    let turns : List Turn :=
      [.ask request, .advance 9, .ask request, .advance 9, .ask request]
    let others : List Turn :=
      [.ask request, .advance 9, .ask request, .carryOut 1, .advance 9, .ask request, .carryOut 0]
    let seen (replies : List (Except Resolve.Refusal Resolve.Reply)) : List (Option Int) :=
      replies.map fun reply => (reply.toOption.bind (·.rule)).bind (·.lastAccessed)
    session.base.stores.Holds ⟨[rule], [], []⟩ ∧
      turns.filter (·.isVisible) = others.filter (·.isVisible) ∧
      seen ((session.under prompt).replies turns) = [none, some 50000, some 50000] ∧
      seen ((session.under late).replies others) = [none, none, some 59000] ∧
      ((session.under prompt).replies turns).map (Except.map Resolve.Reply.withoutAccess) =
        ((session.under late).replies others).map (Except.map Resolve.Reply.withoutAccess) := by
  intro rule session prompt late request turns others seen
  have held : session.base.stores.Holds ⟨[rule], [], []⟩ := .memory _
  have same : turns.filter (·.isVisible) = others.filter (·.isVisible) := rfl
  exact ⟨held, same, by decide +kernel, by decide +kernel, replies_eq held prompt late same⟩

end Session
end Signpost
