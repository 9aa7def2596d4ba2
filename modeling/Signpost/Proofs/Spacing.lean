import Mathlib.Data.List.Forall2
import Signpost.Proofs.Access

/-!
# The time between two accesses

Of the accesses to a rule, two that are noted shall lie an interval apart. The last access of a rule is
looked at when the next is decided on, and it is set when that is noted; an access that waits to be noted
is seen by nobody.

## Main results

`accesses_move_forward`: where accesses are noted at once, the last access of a rule is only ever set to
the instant of the clock, an interval after the one before or later, whichever way the clock moves.

`writes_apart_iff`: where accesses may be put off, those that are noted on a rule are an interval apart,
one after the other, as long as no access is decided on while an earlier one of the same rule waits and
is more recent than that. If all are noted in the end, this condition is needed as well.

## Proof strategy

A turn sets the last access of one rule at most (`afterTurn_holds`), to an access that was decided on
then or earlier. The accesses noted so far and behind them those that wait keep apart in every turn
(`Paced.afterTurn`): one that is decided on comes behind the waiting ones by assumption, and behind the
ones already noted because the last of these is what its rule shows.
-/
namespace Signpost

open Resolve (Access)

/-! ### What a turn does to the rules -/

/-- The rules after the access, if there is one, was noted. -/
def notedIn (rules : List Rule) : Option Access → List Rule
  | none => rules
  | some access => rules.map (Rule.noted access.id access.millis)

theorem ids_notedIn (rules : List Rule) (access : Option Access) :
    (notedIn rules access).map (·.id) = rules.map (·.id) := by
  cases access with
  | none => rfl
  | some access => exact ids_map (Rule.id_noted access.id access.millis) rules

namespace Session

variable [Platform] {session : Session} {contents : Contents}

/-- The access that is noted in a turn, if one is to be noted and goes through. -/
def written (session : Session) (turn : Turn) : Option Access :=
  (session.noting turn).filter session.base.takes

/-- In a turn, the access that is noted sets the last access of its rule, and nothing else happens to
the stores. -/
theorem afterTurn_holds (held : session.base.stores.Holds contents)
    (distinct : (contents.rules.map (·.id)).Nodup) (turn : Turn) :
    (session.afterTurn turn).base.stores.Holds
      { contents with rules := notedIn contents.rules (session.written turn) } := by
  rw [afterTurn_base, written]
  cases session.noting turn with
  | none => exact held
  | some access =>
    have noted := session.base.note_holds held distinct access
    simp only [Option.map_some, Option.getD_some, Option.filter_some]
    split at noted
    next through => rwa [if_pos through]
    next lost => rwa [if_neg lost]

/-- An access that is decided on in a turn is one to a stored rule, and it is due on the rule. -/
theorem exists_rule_of_decided (held : session.base.stores.Holds contents) {turn : Turn}
    {access : Access} (decided : session.decided turn = some access) :
    ∃ rule ∈ contents.rules, rule.id = some access.id ∧ access.millis = session.clock * 1000 ∧
      rule.Due session.resolution.interval session.clock := by
  cases turn with
  | advance | carryOut => cases decided
  | ask request =>
    obtain ⟨reply, answered, decided⟩ := Option.bind_eq_some_iff.mp decided
    have replied : Resolve.reply session.base session.resolution session.clock request = .ok reply := by
      cases result : Resolve.reply session.base session.resolution session.clock request with
      | error refusal =>
        rw [result] at answered
        cases answered
      | ok other =>
        rw [result] at answered
        cases answered
        rfl
    exact Resolve.exists_rule_of_access held replied decided

/-- Nothing waits in a session that notes accesses at once. -/
def Orderly (session : Session) : Prop :=
  session.defers = false → session.pending = []

theorem Orderly.afterTurn (orderly : session.Orderly) (turn : Turn) :
    (session.afterTurn turn).Orderly := by
  intro prompt
  rw [(session.afterTurn_settings turn).2.2.1] at prompt
  have idle := orderly prompt
  cases turn with
  | ask request =>
    simp only [Session.afterTurn, resolve_eq]
    cases session.decided (.ask request) with
    | none => exact idle
    | some access =>
      simp only [Option.map_some, Option.getD_some, record, prompt]
      exact idle
  | advance seconds => exact idle
  | carryOut place =>
    simp only [Session.afterTurn, carryOut, idle, List.getElem?_nil]

theorem decided_of_noting (prompt : session.defers = false) (orderly : session.Orderly) {turn : Turn}
    {access : Access} (noting : session.noting turn = some access) :
    session.decided turn = some access := by
  cases turn with
  | ask request => simpa only [Session.noting, prompt, Bool.false_eq_true, if_false] using noting
  | advance => cases noting
  | carryOut place =>
    simp only [Session.noting, orderly prompt, List.getElem?_nil] at noting
    cases noting

end Session

/-! ### Accesses noted at once -/

/-- The rule as it was, or with an access noted at the instant, one that was due. -/
def Rule.Touched (interval now : Int) (rule after : Rule) : Prop :=
  after = rule ∨
    rule.Due interval now ∧ after = { rule with lastAccessed := some (now * 1000) }

/-- The rule but for its last access, which is no earlier than before. -/
def Rule.Forward (rule after : Rule) : Prop :=
  after.withoutAccess = rule.withoutAccess ∧
    ∀ last, rule.lastAccessed = some last → ∃ later, after.lastAccessed = some later ∧ last ≤ later

namespace Rule

variable {interval now : Int} {rule after later : Rule}

theorem Forward.refl (rule : Rule) : rule.Forward rule :=
  ⟨rfl, fun last same => ⟨last, same, Int.le_refl last⟩⟩

theorem Forward.trans (first : rule.Forward after) (second : after.Forward later) :
    rule.Forward later := by
  refine ⟨second.1.trans first.1, fun last same => ?_⟩
  obtain ⟨middle, noted, before⟩ := first.2 last same
  obtain ⟨final, still, behind⟩ := second.2 middle noted
  exact ⟨final, still, Int.le_trans before behind⟩

theorem Touched.forward (touched : Touched interval now rule after) (positive : 0 ≤ interval) :
    rule.Forward after := by
  rcases touched with rfl | ⟨due, rfl⟩
  · exact Forward.refl after
  · refine ⟨rfl, fun last same => ⟨now * 1000, rfl, ?_⟩⟩
    have := due last same
    omega

end Rule

/-- Where ids differ, an access that is due on its rule touches that rule alone. -/
theorem touched_notedIn {rules : List Rule} (distinct : (rules.map (·.id)).Nodup)
    {interval now : Int} {access : Option Access}
    (due : ∀ noted, access = some noted → ∃ rule ∈ rules, rule.id = some noted.id ∧
      noted.millis = now * 1000 ∧ rule.Due interval now) :
    List.Forall₂ (Rule.Touched interval now) rules (notedIn rules access) := by
  cases access with
  | none => exact List.forall₂_same.mpr fun rule _ => Or.inl rfl
  | some noted =>
    obtain ⟨target, present, named, millis, due⟩ := due noted rfl
    rw [notedIn, List.forall₂_map_right_iff, List.forall₂_same]
    intro rule member
    unfold Rule.noted
    split
    next same =>
      -- The rule with the id is the one on which the access is due.
      have found := List.inj_on_of_nodup_map distinct member present (same.trans named.symm)
      rw [found, millis]
      exact Or.inr ⟨due, rfl⟩
    next => exact Or.inl rfl

theorem forward_trans {rules after later : List Rule} (first : List.Forall₂ Rule.Forward rules after)
    (second : List.Forall₂ Rule.Forward after later) : List.Forall₂ Rule.Forward rules later := by
  induction first generalizing later with
  | nil => exact second
  | cons head _ ih =>
    cases second with
    | cons next rest => exact .cons (head.trans next) (ih rest)

namespace Session

section

variable [Platform] {session : Session} {contents : Contents}

theorem afterTurns_kept (orderly : session.Orderly) (turns : List Turn) :
    (session.afterTurns turns).resolution = session.resolution ∧
      (session.afterTurns turns).defers = session.defers ∧ (session.afterTurns turns).Orderly := by
  induction turns generalizing session with
  | nil => exact ⟨rfl, rfl, orderly⟩
  | cons turn rest ih =>
    obtain ⟨_, resolution, defers, _⟩ := session.afterTurn_settings turn
    obtain ⟨later, still, kept⟩ := ih (orderly.afterTurn turn)
    exact ⟨later.trans resolution, still.trans defers, kept⟩

/-- Where accesses are noted at once, a turn touches the rules on which an access is due at most. -/
theorem afterTurn_touches (held : session.base.stores.Holds contents)
    (distinct : (contents.rules.map (·.id)).Nodup) (prompt : session.defers = false)
    (orderly : session.Orderly) (turn : Turn) :
    ∃ rules, (session.afterTurn turn).base.stores.Holds { contents with rules } ∧
      rules.map (·.id) = contents.rules.map (·.id) ∧
      List.Forall₂ (Rule.Touched session.resolution.interval session.clock) contents.rules rules := by
  refine ⟨_, afterTurn_holds held distinct turn, ids_notedIn _ _, ?_⟩
  refine touched_notedIn distinct fun access written => ?_
  obtain ⟨noting, _⟩ := Option.filter_eq_some_iff.mp written
  exact exists_rule_of_decided held (decided_of_noting prompt orderly noting)

theorem afterTurns_forward (held : session.base.stores.Holds contents)
    (distinct : (contents.rules.map (·.id)).Nodup) (prompt : session.defers = false)
    (orderly : session.Orderly) (positive : 0 ≤ session.resolution.interval) (turns : List Turn) :
    ∃ rules, (session.afterTurns turns).base.stores.Holds { contents with rules } ∧
      rules.map (·.id) = contents.rules.map (·.id) ∧
      List.Forall₂ Rule.Forward contents.rules rules := by
  -- A turn keeps the ids and the settings, so the next one is taken under the same conditions.
  induction turns generalizing session contents with
  | nil => exact ⟨_, held, rfl, List.forall₂_same.mpr fun rule _ => Rule.Forward.refl rule⟩
  | cons turn rest ih =>
    obtain ⟨rules, holds, ids, touched⟩ := afterTurn_touches held distinct prompt orderly turn
    obtain ⟨_, resolution, defers, _⟩ := session.afterTurn_settings turn
    obtain ⟨later, final, same, forward⟩ := ih holds (ids ▸ distinct) (defers.trans prompt)
      (orderly.afterTurn turn) (resolution ▸ positive)
    have first := touched.imp fun rule after change => change.forward positive
    exact ⟨later, final, same.trans ids, forward_trans first forward⟩

/-- Let accesses be noted at once, and nothing but requests and moves of the clock, in either direction,
happen to a session whose rules have ids of their own. After any turns, the last access of each rule is no
earlier than at the start, and in the next turn it stays or is set to the instant of the clock, an
interval after the one before or later. -/
theorem accesses_move_forward (held : session.base.stores.Holds contents)
    (distinct : (contents.rules.map (·.id)).Nodup) (prompt : session.defers = false)
    (idle : session.pending = []) (positive : 0 ≤ session.resolution.interval) (turns : List Turn)
    (turn : Turn) :
    ∃ earlier later,
      (session.afterTurns turns).base.stores.Holds { contents with rules := earlier } ∧
      (session.afterTurns (turns ++ [turn])).base.stores.Holds { contents with rules := later } ∧
      List.Forall₂ Rule.Forward contents.rules earlier ∧
      List.Forall₂ Rule.Forward earlier later ∧
      List.Forall₂ (Rule.Touched session.resolution.interval (session.afterTurns turns).clock)
        earlier later := by
  have orderly : session.Orderly := fun _ => idle
  obtain ⟨earlier, holds, ids, forward⟩ := afterTurns_forward held distinct prompt orderly positive turns
  obtain ⟨resolution, defers, kept⟩ := afterTurns_kept orderly turns
  obtain ⟨later, after, _, touched⟩ :=
    afterTurn_touches holds (ids ▸ distinct) (defers.trans prompt) kept turn
  rw [resolution] at touched
  refine ⟨earlier, later, holds, ?_, forward, ?_, touched⟩
  · rw [afterTurns, List.foldl_append]
    exact after
  · exact touched.imp fun rule after change => change.forward positive

end

attribute [local instance] Platform.usual

/-- The clock is set back after a rule and a pattern have been asked for, so a request that comes then notes
nothing; the next one comes an interval after the first. -/
theorem accesses_move_forward_of_setback :
    let rule : Rule := ⟨some "id-1", "/a", "", 0, "/b", 301, none, none, none, false, none⟩
    let pattern : Rule :=
      ⟨some "id-2", "^/old/(.*)$", "", 0, "/new/$1", 301, none, none, none, true, some 20000⟩
    let session : Session := { base := { stores := .memory { rules := [rule, pattern] } }, clock := 50 }
    let turns : List Turn := [.ask { path := "/a" }, .ask { path := "/old/x" }, .advance (-20),
      .ask { path := "/a" }, .advance 50]
    let shown (session : Session) : List (Option Int) :=
      match session.base.stores with
      | .memory memory => memory.rules.map (·.lastAccessed)
      | .tables _ _ => []
    session.base.stores.Holds ⟨[rule, pattern], [], []⟩ ∧ ([rule, pattern].map (·.id)).Nodup ∧
      session.defers = false ∧ session.pending = [] ∧ session.resolution.interval = 30 ∧
      shown (session.afterTurns (turns.take 4)) = [some 50000, some 50000] ∧
      shown (session.afterTurns (turns ++ [.ask { path := "/a" }])) = [some 80000, some 50000] ∧
      ∃ earlier later, (session.afterTurns turns).base.stores.Holds ⟨earlier, [], []⟩ ∧
        (session.afterTurns (turns ++ [.ask { path := "/a" }])).base.stores.Holds ⟨later, [], []⟩ ∧
        List.Forall₂ (Rule.Touched 30 80) earlier later := by
  intro rule pattern session turns shown
  have held : session.base.stores.Holds ⟨[rule, pattern], [], []⟩ := .memory _
  have distinct : ([rule, pattern].map (·.id)).Nodup := by decide
  obtain ⟨earlier, later, before, after, _, _, touched⟩ :=
    accesses_move_forward held distinct rfl rfl (by decide) turns (.ask { path := "/a" })
  have clock : (session.afterTurns turns).clock = 80 := by decide +kernel
  rw [clock] at touched
  exact ⟨held, distinct, rfl, rfl, rfl, by decide +kernel, by decide +kernel, earlier, later, before,
    after, touched⟩

end Session

/-! ### Accesses put off -/

/-- Of two accesses to the same rule, the one behind is an interval later than the other or more. -/
def Apart (interval : Int) (accesses : List Access) : Prop :=
  accesses.Pairwise fun earlier later =>
    earlier.id = later.id → earlier.millis + interval * 1000 ≤ later.millis

instance (interval : Int) (accesses : List Access) : Decidable (Apart interval accesses) :=
  inferInstanceAs (Decidable (accesses.Pairwise _))

/-- An access that was put off is carried out only if it is the first of the queue. -/
def Turn.inOrder : Turn → Bool
  | .carryOut place => place == 0
  | .ask _ | .advance _ => true

namespace Session

section

variable [Platform] {session : Session} {contents : Contents} {log : List Access} {turn : Turn}

/-- The accesses that are noted in the course of turns. -/
def writes (session : Session) : List Turn → List Access
  | [] => []
  | turn :: rest => (session.written turn).toList ++ (session.afterTurn turn).writes rest

/-- The accesses that are decided on in the course of turns. -/
def decisions (session : Session) : List Turn → List Access
  | [] => []
  | turn :: rest => (session.decided turn).toList ++ (session.afterTurn turn).decisions rest

/-- An access that is decided on in the turn is an interval later or more than those to its rule that
wait. -/
def SpacedTurn (session : Session) (turn : Turn) : Prop :=
  ∀ access, session.decided turn = some access → ∀ waiting ∈ session.pending,
    waiting.id = access.id → waiting.millis + session.resolution.interval * 1000 ≤ access.millis

instance (session : Session) (turn : Turn) : Decidable (session.SpacedTurn turn) :=
  inferInstanceAs (Decidable (∀ access ∈ session.decided turn, _))

/-- Every access that is decided on in the course of turns is an interval later or more than those to its
rule that wait at the time. -/
def Spaced (session : Session) : List Turn → Prop
  | [] => True
  | turn :: rest => session.SpacedTurn turn ∧ (session.afterTurn turn).Spaced rest

instance decidableSpaced (session : Session) : (turns : List Turn) → Decidable (session.Spaced turns)
  | [] => .isTrue trivial
  | turn :: rest =>
    have := decidableSpaced (session.afterTurn turn) rest
    inferInstanceAs (Decidable (_ ∧ _))

/-- Where the queue is kept in order, an access that is decided on in a turn comes behind those that wait,
and one that is to be noted comes from their front. -/
theorem pending_afterTurn (orderly : session.Orderly) (inOrder : turn.inOrder = true) :
    session.pending ++ (session.decided turn).toList =
      (session.noting turn).toList ++ (session.afterTurn turn).pending := by
  cases turn with
  | ask request =>
    simp only [noting, afterTurn, resolve_eq]
    cases session.decided (.ask request) with
    | none => cases session.defers <;> simp
    | some access =>
      cases defers : session.defers with
      | true => simp [record, defers]
      | false => simp [record, defers, orderly defers]
  | advance seconds => simp [decided, noting, afterTurn, advance]
  | carryOut place =>
    have first : place = 0 := by simpa [Turn.inOrder] using inOrder
    subst first
    cases queue : session.pending with
    | nil => simp [decided, noting, afterTurn, carryOut, queue]
    | cons next others => simp [decided, noting, afterTurn, carryOut, queue]

/-- The accesses noted so far and behind them those that wait keep apart, and a rule shows an access that
is no earlier than any that was noted on it. -/
structure Paced (session : Session) (contents : Contents) (log : List Access) : Prop where
  held : session.base.stores.Holds contents
  distinct : (contents.rules.map (·.id)).Nodup
  orderly : session.Orderly
  apart : Apart session.resolution.interval (log ++ session.pending)
  shown : ∀ access ∈ log, ∀ rule ∈ contents.rules, rule.id = some access.id →
    ∃ last, rule.lastAccessed = some last ∧ access.millis ≤ last

namespace Paced

/-- An access that is decided on in a spaced turn comes behind all that were noted and all that wait. -/
theorem apart_decided (paced : session.Paced contents log) (spaced : session.SpacedTurn turn) :
    Apart session.resolution.interval (log ++ session.pending ++ (session.decided turn).toList) := by
  cases decided : session.decided turn with
  | none => simpa using paced.apart
  | some access =>
    refine List.pairwise_append.mpr ⟨paced.apart, List.pairwise_singleton _ _, ?_⟩
    intro earlier before last member same
    cases List.mem_singleton.mp member
    rcases List.mem_append.mp before with noted | waiting
    · -- The access was due on a rule that shows one no earlier than the one that was noted.
      obtain ⟨rule, present, named, millis, due⟩ := exists_rule_of_decided paced.held decided
      obtain ⟨last, shows, after⟩ :=
        paced.shown earlier noted rule present (named.trans (congrArg some same.symm))
      have := due last shows
      omega
    · exact spaced access decided earlier waiting same

/-- What was noted, what is noted in a turn and what waits after it keep apart. -/
theorem apart_afterTurn (paced : session.Paced contents log) (inOrder : turn.inOrder = true)
    (spaced : session.SpacedTurn turn) :
    Apart session.resolution.interval
      (log ++ (session.noting turn).toList ++ (session.afterTurn turn).pending) := by
  have all := paced.apart_decided spaced
  rwa [List.append_assoc, pending_afterTurn paced.orderly inOrder, ← List.append_assoc] at all

theorem shown_afterTurn (paced : session.Paced contents log)
    (positive : 0 ≤ session.resolution.interval) (inOrder : turn.inOrder = true)
    (spaced : session.SpacedTurn turn) :
    ∀ access ∈ log ++ (session.written turn).toList,
      ∀ rule ∈ notedIn contents.rules (session.written turn), rule.id = some access.id →
        ∃ last, rule.lastAccessed = some last ∧ access.millis ≤ last := by
  intro access member rule present named
  cases written : session.written turn with
  | none =>
    rw [written] at member present
    exact paced.shown access (by simpa using member) rule present named
  | some noted =>
    rw [written] at member present
    obtain ⟨noting, _⟩ := Option.filter_eq_some_iff.mp written
    have apart := paced.apart_afterTurn inOrder spaced
    rw [noting, List.append_assoc] at apart
    obtain ⟨before, found, rfl⟩ := List.mem_map.mp present
    unfold Rule.noted at named ⊢
    split at named
    next same =>
      -- The access that is noted now is an interval later than any noted before on its rule.
      rw [if_pos same]
      refine ⟨noted.millis, rfl, ?_⟩
      have id : access.id = noted.id := Option.some.inj (named.symm.trans same)
      rcases List.mem_append.mp member with earlier | now
      · have := (List.pairwise_append.mp apart).2.2 access earlier noted (.head _) id
        omega
      · rw [List.mem_singleton.mp now]
    next other =>
      rw [if_neg other]
      rcases List.mem_append.mp member with earlier | now
      · exact paced.shown access earlier before found named
      · rw [List.mem_singleton.mp now] at named
        exact absurd named other

theorem afterTurn (paced : session.Paced contents log) (positive : 0 ≤ session.resolution.interval)
    (inOrder : turn.inOrder = true) (spaced : session.SpacedTurn turn) :
    (session.afterTurn turn).Paced
      { contents with rules := notedIn contents.rules (session.written turn) }
      (log ++ (session.written turn).toList) where
  held := afterTurn_holds paced.held paced.distinct turn
  distinct := (ids_notedIn contents.rules (session.written turn)).symm ▸ paced.distinct
  orderly := paced.orderly.afterTurn turn
  apart := by
    rw [(session.afterTurn_settings turn).2.1]
    -- An access that does not go through drops out, which leaves the others apart.
    have within : (session.written turn).toList.Sublist (session.noting turn).toList := by
      rw [written]
      cases session.noting turn with
      | none => exact .slnil
      | some access =>
        rw [Option.filter_some]
        split
        · exact .refl _
        · exact List.nil_sublist _
    exact (paced.apart_afterTurn inOrder spaced).sublist
      (((List.Sublist.refl log).append within).append (.refl _))
  shown := paced.shown_afterTurn positive inOrder spaced

/-- In the course of spaced turns, all accesses that are noted keep apart. -/
theorem apart_writes (paced : session.Paced contents log)
    (positive : 0 ≤ session.resolution.interval) {turns : List Turn}
    (inOrder : ∀ turn ∈ turns, turn.inOrder = true) (spaced : session.Spaced turns) :
    Apart session.resolution.interval (log ++ session.writes turns) := by
  induction turns generalizing session contents log with
  | nil =>
    rw [writes, List.append_nil]
    exact paced.apart.sublist (List.sublist_append_left _ _)
  | cons turn rest ih =>
    have same := (session.afterTurn_settings turn).2.1
    have next := paced.afterTurn positive (inOrder turn (.head _)) spaced.1
    have later := ih next (same ▸ positive) (fun other member => inOrder other (.tail _ member))
      spaced.2
    rw [same, List.append_assoc] at later
    exact later

end Paced

/-- If all accesses that are decided on keep apart from each other and from those that wait already, the
turns are spaced. -/
theorem spaced_of_apart (orderly : session.Orderly) {turns : List Turn}
    (inOrder : ∀ turn ∈ turns, turn.inOrder = true)
    (apart : Apart session.resolution.interval (session.pending ++ session.decisions turns)) :
    session.Spaced turns := by
  induction turns generalizing session with
  | nil => trivial
  | cons turn rest ih =>
    rw [decisions, ← List.append_assoc] at apart
    constructor
    · intro access decided waiting member same
      have first := apart.sublist (List.sublist_append_left _ _)
      rw [decided] at first
      exact (List.pairwise_append.mp first).2.2 waiting member access (.head _) same
    · refine ih (orderly.afterTurn turn) (fun other member => inOrder other (.tail _ member)) ?_
      rw [pending_afterTurn orderly (inOrder turn (.head _)), List.append_assoc] at apart
      rw [(session.afterTurn_settings turn).2.1]
      exact apart.sublist (List.sublist_append_right _ _)

/-- Where accesses are noted at once, none waits, so all turns are spaced. -/
theorem spaced_of_prompt (prompt : session.defers = false) (orderly : session.Orderly)
    (turns : List Turn) : session.Spaced turns := by
  induction turns generalizing session with
  | nil => trivial
  | cons turn rest ih =>
    constructor
    · intro access _ waiting member
      rw [orderly prompt] at member
      cases member
    · exact ih ((session.afterTurn_settings turn).2.2.1.trans prompt) (orderly.afterTurn turn)

/-- Let the accesses that were put off be carried out in their order, between requests and moves of the
clock. Those that are noted on a rule are an interval apart as long as no access is decided on while one
to the same rule waits that is more recent. Where accesses are noted at once, this is always so; and if
all accesses that are decided on are noted, those to a rule are an interval apart only then. -/
theorem writes_apart_iff (held : session.base.stores.Holds contents)
    (distinct : (contents.rules.map (·.id)).Nodup) (idle : session.pending = [])
    (positive : 0 < session.resolution.interval) {turns : List Turn}
    (inOrder : ∀ turn ∈ turns, turn.inOrder = true) :
    (session.Spaced turns → Apart session.resolution.interval (session.writes turns)) ∧
    (session.defers = false → session.Spaced turns) ∧
    (session.writes turns = session.decisions turns →
      (Apart session.resolution.interval (session.writes turns) ↔ session.Spaced turns)) := by
  have orderly : session.Orderly := fun _ => idle
  have paced : session.Paced contents [] := by
    refine ⟨held, distinct, orderly, ?_, fun access member => nomatch member⟩
    rw [idle]
    exact List.Pairwise.nil
  have apart (spaced : session.Spaced turns) :
      Apart session.resolution.interval (session.writes turns) :=
    paced.apart_writes positive.le inOrder spaced
  refine ⟨apart, fun prompt => spaced_of_prompt prompt orderly turns, fun all => ⟨fun kept => ?_, apart⟩⟩
  rw [all] at kept
  refine spaced_of_apart orderly inOrder ?_
  rw [idle]
  exact kept

end

attribute [local instance] Platform.usual

/-- Two requests within ten seconds are answered with the same rule before the first access is noted; then
both are, though the interval is half a minute. -/
theorem writes_within_interval :
    let rule : Rule := ⟨some "id-1", "/a", "", 0, "/b", 301, none, none, none, false, none⟩
    let session : Session :=
      { base := { stores := .memory { rules := [rule] } }, clock := 1750000000, defers := true }
    let turns : List Turn := [.ask { path := "/a" }, .advance 10, .ask { path := "/a" },
      .carryOut 0, .carryOut 0]
    (∀ turn ∈ turns, turn.inOrder = true ∧ 0 ≤ turn.seconds) ∧ session.resolution.interval = 30 ∧
      session.writes turns = [⟨"id-1", 1750000000000⟩, ⟨"id-1", 1750000010000⟩] ∧
      ¬ Apart session.resolution.interval (session.writes turns) := by
  intro rule session turns
  have written : session.writes turns = [⟨"id-1", 1750000000000⟩, ⟨"id-1", 1750000010000⟩] := by
    decide +kernel
  refine ⟨by decide, rfl, written, ?_⟩
  rw [written]
  decide

/-- A rule is asked for every twenty seconds, and each access is noted before the next request. -/
theorem writes_apart_iff_of_haste :
    let rule : Rule := ⟨some "id-1", "/a", "", 0, "/b", 301, none, none, none, false, none⟩
    let session : Session :=
      { base := { stores := .memory { rules := [rule] } }, clock := 1750000000, defers := true }
    let turns : List Turn := [.ask { path := "/a" }, .carryOut 0, .advance 20, .ask { path := "/a" },
      .carryOut 0, .advance 20, .ask { path := "/a" }, .carryOut 0]
    session.base.stores.Holds ⟨[rule], [], []⟩ ∧ ([rule].map (·.id)).Nodup ∧ session.pending = [] ∧
      0 < session.resolution.interval ∧ (∀ turn ∈ turns, turn.inOrder = true) ∧
      session.writes turns = [⟨"id-1", 1750000000000⟩, ⟨"id-1", 1750000040000⟩] ∧
      session.writes turns = session.decisions turns ∧
      session.Spaced turns ∧ Apart session.resolution.interval (session.writes turns) := by
  intro rule session turns
  have held : session.base.stores.Holds ⟨[rule], [], []⟩ := .memory _
  have distinct : ([rule].map (·.id)).Nodup := by decide
  have positive : 0 < session.resolution.interval := by decide
  have inOrder : ∀ turn ∈ turns, turn.inOrder = true := by decide
  have spaced : session.Spaced turns := by decide +kernel
  have all : session.writes turns = session.decisions turns := by decide +kernel
  obtain ⟨_, _, exactly⟩ := writes_apart_iff held distinct rfl positive inOrder
  exact ⟨held, distinct, rfl, positive, inOrder, by decide +kernel, all, spaced, (exactly all).mpr spaced⟩

end Session
end Signpost
