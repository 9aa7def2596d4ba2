import Signpost.Proofs.Resolution

/-!
# Which rules are served

A candidate is served only if it is eligible for what the request needs. Of a pattern rule, only the
window of time is looked at, so a pattern rule of another version or another host is served as well.

## Main result

`served_eligible_iff`: every rule that a request is answered with is eligible if and only if the
pattern rule that the request falls back to, where there is one, is of the version and fits the host.

## Proof strategy

`matchPattern_eq_some_iff` describes the pattern rule that answers by its place: all rules before it
are passed over. A request is answered with a candidate, which passed the filter, or with this rule.
-/
namespace Signpost.Resolve

open Pattern (Fault)

section

variable [Platform]

/-- The pattern rule does not answer: its pattern is malformed or not found in the path, it is not
active, or nothing can be put in for its target. -/
def PassedOver (path : String) (now : Int) (rule : Rule) : Prop :=
  applyPattern rule path now = .ok none ∨ applyPattern rule path now = .error .malformed

/-- The rule is the first that is not passed over, and it answers with the target. -/
def AnswersFirst (path : String) (now : Int) (rules : List Rule) (rule : Rule) (target : String) :
    Prop :=
  ∃ before after, rules = before ++ rule :: after ∧
    (∀ earlier ∈ before, PassedOver path now earlier) ∧
    applyPattern rule path now = .ok (some { rule with target })

/-- The version and the host of the rule are those that the request needs. -/
def Fits (need : Need) (rule : Rule) : Prop :=
  rule.version = need.version ∧
    (rule.host = need.host ∨ need.hostOnly = false ∧ rule.host = "")

/-- No candidate is selected, and the rule is the pattern rule that answers with the target. -/
def FallsBackTo (rules : List Rule) (path : String) (ignoreSlash : Bool) (need : Need)
    (rule : Rule) (target : String) : Prop :=
  selectCandidate path (keptFor rules path ignoreSlash need) = none ∧
    AnswersFirst path need.now (rules.filter (·.isPattern)) rule target

variable {rules : List Rule} {path target : String} {now : Int} {rule served : Rule}

/-! ### Pattern rules -/

/-- A pattern rule answers while it is active and its pattern matches, with the template put in place of
the match. -/
theorem exists_of_applyPattern (applied : applyPattern rule path now = .ok (some served)) :
    ∃ expression found target, Expression.ofText rule.path = .ok expression ∧
      expression.pattern.search path.toList = some found ∧ rule.activeAt now = true ∧
      substitute expression rule.target found = .ok target ∧ served = { rule with target } := by
  simp only [applyPattern, Bind.bind, Except.bind, Pure.pure, Except.pure] at applied
  cases read : Expression.ofText rule.path with
  | error fault => simp [read] at applied
  | ok expression =>
    simp only [read] at applied
    split at applied
    · cases applied
    next found searched =>
      split at applied
      next active =>
        cases put : substitute expression rule.target found with
        | error fault => simp [put] at applied
        | ok target =>
          simp only [put, Except.ok.injEq, Option.some.injEq] at applied
          exact ⟨expression, found, target, rfl, searched, active, put, applied.symm⟩
      next => cases applied

/-- A pattern rule answers with a new target, and only while it is active. -/
theorem eq_of_applyPattern (applied : applyPattern rule path now = .ok (some served)) :
    served = { rule with target := served.target } ∧ rule.activeAt now = true := by
  obtain ⟨_, _, _, _, _, active, _, rfl⟩ := exists_of_applyPattern applied
  exact ⟨rfl, active⟩

theorem matchPattern_of_passedOver (passed : PassedOver path now rule) (rest : List Rule) :
    matchPattern path now (rule :: rest) = matchPattern path now rest := by
  rw [matchPattern]
  rcases passed with nothing | malformed
  · rw [nothing]
  · rw [malformed]

theorem matchPattern_of_answersFirst (first : AnswersFirst path now rules rule target) :
    matchPattern path now rules = .ok (some { rule with target }) := by
  obtain ⟨before, after, rfl, passed, answers⟩ := first
  induction before with
  | nil => simp only [List.nil_append, matchPattern, answers]
  | cons earlier others ih =>
    rw [List.cons_append, matchPattern_of_passedOver (passed earlier (.head _))]
    exact ih fun other member => passed other (.tail _ member)

theorem answersFirst_of_matchPattern (matched : matchPattern path now rules = .ok (some served)) :
    ∃ rule target, AnswersFirst path now rules rule target ∧ served = { rule with target } := by
  induction rules with
  | nil => cases matched
  | cons rule rest ih =>
    -- A rule that is passed over stands before the one that answers.
    have later (passed : PassedOver path now rule)
        (found : matchPattern path now rest = .ok (some served)) :
        ∃ source target, AnswersFirst path now (rule :: rest) source target ∧
          served = { source with target } := by
      obtain ⟨source, target, ⟨before, after, rfl, skipped, answers⟩, eq⟩ := ih found
      refine ⟨source, target, ⟨rule :: before, after, rfl, fun earlier member => ?_, answers⟩, eq⟩
      rcases List.mem_cons.mp member with rfl | behind
      · exact passed
      · exact skipped earlier behind
    rw [matchPattern] at matched
    split at matched
    next found answers =>
      cases matched
      have same := (eq_of_applyPattern answers).1
      exact ⟨rule, served.target, ⟨[], rest, rfl, by simp, answers.trans (same ▸ rfl)⟩, same⟩
    next nothing => exact later (Or.inl nothing) matched
    next malformed => exact later (Or.inr malformed) matched
    next => cases matched

theorem mem_of_answersFirst (first : AnswersFirst path now rules rule target) : rule ∈ rules := by
  obtain ⟨before, after, rfl, _⟩ := first
  exact List.mem_append_right _ (.head _)

/-- The pattern rules answer with the first of them that is not passed over. -/
theorem matchPattern_eq_some_iff : matchPattern path now rules = .ok (some served) ↔
    ∃ rule target, AnswersFirst path now rules rule target ∧ served = { rule with target } := by
  constructor
  · exact answersFirst_of_matchPattern
  · rintro ⟨rule, target, first, rfl⟩
    exact matchPattern_of_answersFirst first

/-! ### What a request is answered with -/

variable {base : RuleBase} {contents : Contents} {need : Need} {ignoreSlash : Bool}

/-- A request is answered with the selected candidate or with the pattern rule it falls back to. -/
theorem findRule_eq_some_iff (serves : base.Serves contents) :
    findRule base path need ignoreSlash = .ok (some served) ↔
      selectCandidate path (keptFor contents.rules path ignoreSlash need) = some served ∨
      ∃ rule target, FallsBackTo contents.rules path ignoreSlash need rule target ∧
        served = { rule with target } := by
  -- The pattern rules are looked at only where no candidate is selected.
  cases chosen : selectCandidate path (keptFor contents.rules path ignoreSlash need) with
  | some candidate =>
    rw [findRule_of_selected serves chosen]
    simp [FallsBackTo, chosen]
  | none =>
    have lifted (answer : Except Fault (Option Rule)) :
        answer.mapError Refusal.pattern = .ok (some served) ↔ answer = .ok (some served) := by
      cases answer <;> simp [Except.mapError]
    rw [findRule_of_unselected serves chosen, lifted, matchPattern_eq_some_iff]
    simp [FallsBackTo, chosen]

/-- The pattern rule that a request falls back to is active. -/
theorem active_of_fallsBackTo
    (fallsBack : FallsBackTo rules path ignoreSlash need rule target) :
    rule.activeAt need.now = true := by
  obtain ⟨_, _, _, _, _, answers⟩ := fallsBack
  exact (eq_of_applyPattern answers).2

omit [Platform] in
/-- The rule that is served in place of an active pattern rule is eligible if that one fits. -/
theorem eligible_iff_fits (active : rule.activeAt need.now = true) (target : String) :
    Eligible need { rule with target } ↔ Fits need rule := by
  constructor
  · exact fun eligible => ⟨eligible.version, eligible.host⟩
  · exact fun fits => ⟨fits.1, active, fits.2⟩

/-- Every rule that a request is answered with is active, and one that was selected as a candidate
is eligible. All of them are eligible just where the pattern rule that the request falls back to
fits. -/
theorem served_eligible_iff (serves : base.Serves contents) (path : String) (need : Need)
    (ignoreSlash : Bool) :
    (∀ served, findRule base path need ignoreSlash = .ok (some served) →
      served.activeAt need.now = true ∧
      (selectCandidate path (keptFor contents.rules path ignoreSlash need) ≠ none →
        Eligible need served)) ∧
    ((∀ served, findRule base path need ignoreSlash = .ok (some served) → Eligible need served) ↔
      ∀ rule target, FallsBackTo contents.rules path ignoreSlash need rule target →
        Fits need rule) := by
  have selected : ∀ served,
      selectCandidate path (keptFor contents.rules path ignoreSlash need) = some served →
        Eligible need served :=
    fun served chosen => (entitled_of_selected chosen).2.eligible
  refine ⟨fun served found => ?_, fun all rule target fallsBack => ?_, fun fits served found => ?_⟩
  · rcases (findRule_eq_some_iff serves).mp found with chosen | ⟨rule, target, fallsBack, rfl⟩
    · exact ⟨(selected served chosen).active, fun _ => selected served chosen⟩
    · have active : rule.activeAt need.now = true := active_of_fallsBackTo fallsBack
      exact ⟨active, fun chosen => absurd fallsBack.1 chosen⟩
  · have found := (findRule_eq_some_iff serves).mpr (Or.inr ⟨rule, target, fallsBack, rfl⟩)
    have active : rule.activeAt need.now = true := active_of_fallsBackTo fallsBack
    exact (eligible_iff_fits active target).mp (all _ found)
  · rcases (findRule_eq_some_iff serves).mp found with chosen | ⟨rule, target, fallsBack, rfl⟩
    · exact selected served chosen
    · have active : rule.activeAt need.now = true := active_of_fallsBackTo fallsBack
      exact (eligible_iff_fits active target).mpr (fits rule target fallsBack)

end

attribute [local instance] Platform.usual

/-- A pattern rule of version 7 is served to a request for version 0. -/
theorem findRule_serves_other_version :
    let rule : Rule := ⟨some "id-1", "^/a", "", 7, "/b", 301, none, none, none, true, none⟩
    let need : Need := ⟨"", 0, false, 1750000000⟩
    findRule ⟨.memory ⟨[rule], [], [], .none⟩, 1, {}⟩ "/a" need false = .ok (some rule) ∧
      ¬ Eligible need rule := by
  intro rule need
  have serves : (⟨.memory ⟨[rule], [], [], .none⟩, 1, {}⟩ : RuleBase).Serves ⟨[rule], [], []⟩ :=
    ⟨rfl, .memory _⟩
  have applied : applyPattern rule "/a" 1750000000 = .ok (some rule) := by decide +kernel
  have first : AnswersFirst "/a" 1750000000 [rule] rule "/b" := ⟨[], [], rfl, List.forall_mem_nil _, applied⟩
  exact ⟨(findRule_eq_some_iff serves).mpr (Or.inr ⟨rule, "/b", ⟨by decide, first⟩, rfl⟩),
    by decide⟩

/-- Where the only pattern rule is one of the shop, all that the shop is served is eligible. -/
theorem served_eligible_at_shop :
    let rule : Rule := ⟨some "id-1", "^/a", "shop", 3, "/b", 301, none, none, none, true, none⟩
    let base : RuleBase := ⟨.memory ⟨[rule], [], [], .none⟩, 1, {}⟩
    base.Serves ⟨[rule], [], []⟩ ∧
      ∀ served, findRule base "/a" ⟨"shop", 3, true, 5⟩ false = .ok (some served) →
        Eligible ⟨"shop", 3, true, 5⟩ served := by
  intro rule base
  have serves : base.Serves ⟨[rule], [], []⟩ := ⟨rfl, .memory _⟩
  refine ⟨serves, (served_eligible_iff serves "/a" ⟨"shop", 3, true, 5⟩ false).2.mpr ?_⟩
  intro source target fallsBack
  have member : source ∈ [rule] := List.mem_of_mem_filter (mem_of_answersFirst fallsBack.2)
  rw [List.mem_singleton.mp member]
  exact ⟨rfl, Or.inl rfl⟩

end Signpost.Resolve
