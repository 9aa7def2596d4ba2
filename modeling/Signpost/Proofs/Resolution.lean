import Signpost.Proofs.Candidates
import Signpost.Proofs.Holdings
import Signpost.Resolve.Request

/-!
# Finding the rule for a request

A request is answered from the stores by two searches: one for the candidates of its path, and one
for the pattern rules, which is needed only where no candidate is selected.

## Main result

`findRule_answers_winner`: where no two stored rules have the same key, a request is answered by the
rule that comes before all others entitled to answer it, and by the pattern rules exactly where no
rule is.

## Proof strategy

`search_candidates` and `search_patterns` say what the searches find in stores of either kind. With
them `findRule` becomes a function of the stored rules, to which the results on candidates apply.
-/
namespace Signpost

/-- The rules can be searched, and the stores hold the contents. -/
structure RuleBase.Serves (base : RuleBase) (contents : Contents) : Prop where
  allowed : base.allow .search = .ok ()
  held : base.stores.Holds contents

namespace Resolve

open Store (ruleColumns)

variable {base : RuleBase} {contents : Contents}

/-! ### The searches -/

/-- The criteria for the candidates of a path hold of the rules that are stored for it. -/
theorem satisfies_candidateCriteria (path : String) (ignoreSlash : Bool) (rule : Rule) :
    satisfies (candidateCriteria path ignoreSlash) rule.attributes =
      decide (StoredFor path ignoreSlash rule) := by
  apply Bool.eq_iff_iff.mpr
  rw [satisfies_iff, decide_eq_true_eq]
  cases ignoreSlash with
  | false => simp [candidateCriteria, StoredFor, Criterion.holds, Rule.holds_path]
  | true =>
    -- The second path is looked at only if the first is another.
    have either : anyHolds .none rule.attributes
        [.equals "path" (.text path), .equals "path" (.text (toggleSlash path))] =
          .ok (rule.path == path || rule.path == toggleSlash path) := by
      simp only [anyHolds, Rule.holds_path]
      cases rule.path == path <;> cases rule.path == toggleSlash path <;> rfl
    simp [candidateCriteria, StoredFor, Criterion.holds, either, Rule.holds_isPattern]

theorem satisfies_isPattern (rule : Rule) :
    satisfies [.one (.equals "regex" (.bool true))] rule.attributes = rule.isPattern := by
  apply Bool.eq_iff_iff.mpr
  simp [satisfies_iff, Criterion.holds, Rule.holds_isPattern]

/-- A search by a few terms with values that can be bound succeeds. -/
theorem search_eq_filter (serves : base.Serves contents) {criteria : List Criterion}
    (suits : ∀ criterion ∈ criteria, criterion.suits ruleColumns = true)
    {clauses : List Sql.Clause} {values : List Value} {cells : List Sql.Cell}
    (made : Sql.Clause.ofCriteria ruleColumns criteria = .ok (clauses, values))
    (small : Sql.sizeOfAll clauses ≤ 4) (bound : Sql.bindAll 1 values = .ok cells) :
    base.search criteria =
      .ok (contents.rules.filter fun rule => satisfies criteria rule.attributes) := by
  simp only [RuleBase.search, serves.allowed,
    Stores.searchRules_eq_filter serves.held suits made small bound]
  rfl

theorem candidateCriteria_suits (path : String) (ignoreSlash : Bool) :
    ∀ criterion ∈ candidateCriteria path ignoreSlash, criterion.suits ruleColumns = true := by
  intro criterion member
  cases ignoreSlash with
  | false =>
    cases List.mem_singleton.mp member
    rfl
  | true =>
    rcases List.mem_cons.mp member with rfl | later
    · rfl
    · cases List.mem_singleton.mp later
      rfl

theorem search_candidates (serves : base.Serves contents) (path : String) (ignoreSlash : Bool) :
    base.search (candidateCriteria path ignoreSlash) =
      .ok (contents.rules.filter (StoredFor path ignoreSlash)) := by
  have suits := candidateCriteria_suits path ignoreSlash
  have searched : base.search (candidateCriteria path ignoreSlash) =
      .ok (contents.rules.filter fun rule =>
        satisfies (candidateCriteria path ignoreSlash) rule.attributes) := by
    -- The values are texts and a truth value, which can always be bound.
    cases ignoreSlash with
    | false => exact search_eq_filter serves suits rfl (by simp [Sql.sizeOfAll, Sql.Clause.size]) rfl
    | true => exact search_eq_filter serves suits rfl (by simp [Sql.sizeOfAll, Sql.Clause.size]) rfl
  simp only [searched, satisfies_candidateCriteria]

theorem search_patterns (serves : base.Serves contents) :
    base.search [.one (.equals "regex" (.bool true))] =
      .ok (contents.rules.filter (·.isPattern)) := by
  have suits : ∀ criterion ∈ [Criterion.one (.equals "regex" (.bool true))],
      criterion.suits ruleColumns = true := by
    intro criterion member
    cases List.mem_singleton.mp member
    rfl
  have searched : base.search [.one (.equals "regex" (.bool true))] =
      .ok (contents.rules.filter fun rule =>
        satisfies [.one (.equals "regex" (.bool true))] rule.attributes) :=
    search_eq_filter serves suits rfl (by decide) rfl
  simp only [searched, satisfies_isPattern]

/-! ### The answer -/

section

variable [Platform]

/-- The answer to a request from what the two searches give: the selected candidate, or else what
the pattern rules give. -/
def answerFrom (path : String) (need : Need) (candidates patterns : Except Refusal (List Rule)) :
    Except Refusal (Option Rule) := do
  match selectCandidate path (filterCandidates need (← candidates)) with
  | some rule => return some rule
  | none => (matchPattern path need.now (← patterns)).mapError .pattern

theorem findRule_eq (base : RuleBase) (path : String) (need : Need) (ignoreSlash : Bool) :
    findRule base path need ignoreSlash =
      answerFrom path need ((base.search (candidateCriteria path ignoreSlash)).mapError .store)
        ((base.search [.one (.equals "regex" (.bool true))]).mapError .store) := by
  cases searched : base.search (candidateCriteria path ignoreSlash) with
  | error failure =>
    simp [findRule, answerFrom, searched, Except.mapError, Bind.bind, Except.bind]
  | ok stored =>
    cases selected : selectCandidate path (filterCandidates need stored) with
    | some rule =>
      simp [findRule, answerFrom, searched, selected, Except.mapError, Bind.bind, Except.bind]
    | none =>
      cases patterns : base.search [.one (.equals "regex" (.bool true))] <;>
        simp [findRule, answerFrom, searched, selected, patterns, Except.mapError, Bind.bind,
          Except.bind]

/-- A candidate that is selected is the answer, whatever the pattern rules are. -/
theorem answerFrom_of_selected {path : String} {need : Need} {stored : List Rule} {rule : Rule}
    (selected : selectCandidate path (filterCandidates need stored) = some rule)
    (patterns : Except Refusal (List Rule)) :
    answerFrom path need (.ok stored) patterns = .ok (some rule) := by
  simp only [answerFrom, Bind.bind, Except.bind, selected]
  rfl

variable {path : String} {need : Need} {ignoreSlash : Bool} {rule : Rule}

theorem findRule_of_selected (serves : base.Serves contents)
    (selected : selectCandidate path (keptFor contents.rules path ignoreSlash need) = some rule) :
    findRule base path need ignoreSlash = .ok (some rule) := by
  rw [findRule_eq, search_candidates serves]
  exact answerFrom_of_selected selected _

/-- Where no candidate is selected, the pattern rules decide. -/
theorem findRule_of_unselected (serves : base.Serves contents)
    (unselected : selectCandidate path (keptFor contents.rules path ignoreSlash need) = none) :
    findRule base path need ignoreSlash =
      (matchPattern path need.now (contents.rules.filter (·.isPattern))).mapError .pattern := by
  rw [findRule_eq, search_candidates serves, search_patterns serves]
  simp only [keptFor] at unselected
  simp only [answerFrom, Except.mapError, Bind.bind, Except.bind, unselected]

/-- The rule that comes before all others entitled to answer is the one that is found. -/
theorem findRule_of_wins (serves : base.Serves contents) (unique : KeysUnique contents.rules)
    (wins : Wins contents.rules path ignoreSlash need rule) :
    findRule base path need ignoreSlash = .ok (some rule) :=
  findRule_of_selected serves (selectCandidate_of_wins unique wins)

/-- Where no two stored rules have the same key, the filter leaves at most two candidates, one of
them for the path itself if there are two. If a rule is entitled to answer, the one that comes
before all others is found, whatever the pattern rules are. If none is, the pattern rules decide. -/
theorem findRule_answers_winner (serves : base.Serves contents) (unique : KeysUnique contents.rules)
    (path : String) (need : Need) (ignoreSlash : Bool) :
    ((∀ rule ∈ contents.rules, ¬ Entitled path ignoreSlash need rule) →
      findRule base path need ignoreSlash =
        (matchPattern path need.now (contents.rules.filter (·.isPattern))).mapError .pattern) ∧
    ((∃ rule ∈ contents.rules, Entitled path ignoreSlash need rule) →
      ∃ rule, Wins contents.rules path ignoreSlash need rule) ∧
    ∃ stored, base.search (candidateCriteria path ignoreSlash) = .ok stored ∧
      (∀ rule, Wins contents.rules path ignoreSlash need rule →
        findRule base path need ignoreSlash = .ok (some rule) ∧
        ∀ patterns, answerFrom path need (.ok stored) patterns = .ok (some rule)) ∧
      (filterCandidates need stored).length ≤ 2 ∧
      ((filterCandidates need stored).length = 2 →
        ∃ rule ∈ filterCandidates need stored, rule.path = path) := by
  refine ⟨fun none => ?_, fun ⟨rule, member, entitled⟩ => ?_, _,
    search_candidates serves path ignoreSlash, fun rule wins => ⟨?_, fun patterns => ?_⟩, ?_, ?_⟩
  · have unselected : selectCandidate path (keptFor contents.rules path ignoreSlash need) =
        Option.none := by
      rw [keptFor_eq_nil none]
      rfl
    exact findRule_of_unselected serves unselected
  · obtain ⟨winner, wins, _⟩ := exists_wins unique member entitled
    exact ⟨winner, wins⟩
  · exact findRule_of_wins serves unique wins
  · exact answerFrom_of_selected (selectCandidate_of_wins unique wins) patterns
  · exact kept_length_le unique
  · exact exists_path_of_two unique

end

attribute [local instance] Platform.usual

/-- Of four rules, the one of the host is found, though one of every host is stored for the path
itself; the third is not active and the fourth of another version. -/
theorem findRule_prefers_host :
    let rule (id path host : String) : Rule :=
      ⟨some id, path, host, 0, "/to", 301, none, none, none, false, none⟩
    let rules := [rule "1" "/a/" "", rule "2" "/a" "shop",
      { rule "3" "/a/" "shop" with stop := some 3 }, { rule "4" "/a" "" with version := 7 }]
    (⟨.memory ⟨rules, [], [], .none⟩, 0, {}⟩ : RuleBase).Serves ⟨rules, [], []⟩ ∧ KeysUnique rules ∧
      findRule ⟨.memory ⟨rules, [], [], .none⟩, 0, {}⟩ "/a/" ⟨"shop", 0, false, 5⟩ true =
        .ok (some (rule "2" "/a" "shop")) := by
  intro rule rules
  have serves : (⟨.memory ⟨rules, [], [], .none⟩, 0, {}⟩ : RuleBase).Serves ⟨rules, [], []⟩ :=
    ⟨rfl, .memory _⟩
  have unique : KeysUnique rules := by decide
  obtain ⟨_, _, _, _, answers, _⟩ :=
    findRule_answers_winner serves unique "/a/" ⟨"shop", 0, false, 5⟩ true
  exact ⟨serves, unique, (answers (rule "2" "/a" "shop") (by decide)).1⟩

end Resolve
end Signpost
