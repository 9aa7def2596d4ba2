import Signpost.Proofs.Access

/-!
# Pattern rules that break a request

A pattern rule whose pattern or target is malformed is passed over. There are patterns that cannot be
read and are not passed over either: their numbers are too large, they ask for two alphabets at once,
or they are nested too deep. A request that comes to a rule with such a pattern has no answer.

## Main result

`answered_iff_shielded`: the pattern rules answer a path, if only with nothing, if and only if each of
them that breaks comes behind one that answers, and a request has an answer if and only if this holds
of the pattern rules wherever it falls back to them.

## Proof strategy

A rule is passed over, answers or breaks (`passedOver_or_answers_or_breaks`), because all that can be
wrong with a target is that it is malformed (`onlyMalformed_expand`). The rules are then taken one
after the other, as they are tried.
-/
namespace Signpost

open Pattern (Fault)

/-! ### Targets -/

namespace Pattern

/-- All that can be wrong is that the text is malformed. -/
def OnlyMalformed (result : Except Fault α) : Prop :=
  ∀ fault, result = .error fault → fault = .malformed

theorem onlyMalformed_ok (x : α) : OnlyMalformed (.ok x) := by
  intro fault failed
  cases failed

theorem onlyMalformed_malformed : OnlyMalformed (.error .malformed : Except Fault α) := by
  intro fault failed
  cases failed
  rfl

theorem OnlyMalformed.map {result : Except Fault α} (only : OnlyMalformed result) (f : α → β) :
    OnlyMalformed (result.map f) := by
  cases result with
  | ok x => exact onlyMalformed_ok (f x)
  | error fault =>
    intro other failed
    cases failed
    exact only fault rfl

namespace Piece

variable (expression : Expression)

theorem onlyMalformed_groupOf (name : List Char) : OnlyMalformed (groupOf expression name) := by
  unfold groupOf
  repeat' split
  all_goals first | exact onlyMalformed_ok _ | exact onlyMalformed_malformed

theorem onlyMalformed_numbered (number : Nat) : OnlyMalformed (numbered expression number) := by
  unfold numbered
  split
  · exact onlyMalformed_ok _
  · exact onlyMalformed_malformed

theorem onlyMalformed_ofDigit (c : Char) (rest : List Token) :
    OnlyMalformed (ofDigit expression c rest) := by
  simp only [ofDigit]
  repeat' split
  all_goals first
    | exact onlyMalformed_ok _
    | exact onlyMalformed_malformed
    | exact (onlyMalformed_numbered expression _).map _

theorem onlyMalformed_ofSign (c : Char) : OnlyMalformed (ofSign c) := by
  unfold ofSign
  repeat' split
  all_goals first | exact onlyMalformed_ok _ | exact onlyMalformed_malformed

theorem onlyMalformed_ofTokens (tokens : List Token) :
    OnlyMalformed (ofTokens expression tokens) := by
  fun_induction ofTokens expression tokens with
  | case1 => exact onlyMalformed_ok _
  | case2 c rest ih => exact ih.map _
  | case3 => exact onlyMalformed_malformed
  | case4 more name _ number _ ih => exact ih.map _
  | case5 more name _ fault failed =>
    have only := onlyMalformed_groupOf expression _ _ failed
    exact only ▸ onlyMalformed_malformed
  | case6 => exact onlyMalformed_malformed
  | case7 => exact onlyMalformed_malformed
  | case8 c rest _ _ piece taken _ ih => exact ih.map _
  | case9 c rest _ _ fault failed =>
    have only := onlyMalformed_ofDigit expression _ _ _ failed
    exact only ▸ onlyMalformed_malformed
  | case10 c rest _ _ pieces _ ih => exact ih.map _
  | case11 c rest _ _ fault failed =>
    have only := onlyMalformed_ofSign _ _ failed
    exact only ▸ onlyMalformed_malformed

end Piece

/-- All that can be wrong with a template is that it is malformed. -/
theorem onlyMalformed_expand (expression : Expression) (template : List Char) (found : Match) :
    OnlyMalformed (expand expression template found) :=
  (Piece.onlyMalformed_ofTokens expression _).map _

end Pattern

/-! ### Rules -/

/-- The pattern of the rule cannot be read, and not because it is malformed. -/
def Rule.Breaks [Platform] (rule : Rule) : Prop :=
  ∃ fault, Expression.ofText rule.path = .error fault ∧ fault ≠ .malformed

namespace Resolve

section

variable [Platform] {rules : List Rule} {path : String} {now : Int} {rule : Rule}

/-- The pattern rule answers the path. -/
def Answers (path : String) (now : Int) (rule : Rule) : Prop :=
  ∃ found, applyPattern rule path now = .ok (some found)

/-- Every rule that breaks comes behind one that answers. -/
def Shielded (path : String) (now : Int) (rules : List Rule) : Prop :=
  ∀ before rule after, rules = before ++ rule :: after → rule.Breaks →
    ∃ earlier ∈ before, Answers path now earlier

omit [Platform] in
theorem onlyMalformed_substitute (expression : Expression) (target : String)
    (found : Match) : Pattern.OnlyMalformed (substitute expression target found) :=
  (Pattern.onlyMalformed_expand expression _ found).map _

theorem applyPattern_of_breaks {fault : Fault} (read : Expression.ofText rule.path = .error fault)
    (path : String) (now : Int) : applyPattern rule path now = .error fault := by
  rw [applyPattern, read]
  rfl

/-- Where the pattern can be read, all that can be wrong is that the target is malformed. -/
theorem onlyMalformed_applyPattern {expression : Expression}
    (read : Expression.ofText rule.path = .ok expression) (path : String) (now : Int) :
    Pattern.OnlyMalformed (applyPattern rule path now) := by
  simp only [applyPattern, read, Bind.bind, Except.bind, Pure.pure, Except.pure]
  split
  · exact Pattern.onlyMalformed_ok _
  next found _ =>
    split
    next =>
      have only := onlyMalformed_substitute expression rule.target found
      cases put : substitute expression rule.target found with
      | ok target => exact Pattern.onlyMalformed_ok _
      | error fault =>
        rw [put] at only
        exact only fault rfl ▸ Pattern.onlyMalformed_malformed
    next => exact Pattern.onlyMalformed_ok _

theorem passedOver_or_answers_or_breaks (path : String) (now : Int) (rule : Rule) :
    PassedOver path now rule ∨ Answers path now rule ∨ rule.Breaks := by
  cases applied : applyPattern rule path now with
  | ok answer =>
    cases answer with
    | none => exact Or.inl (Or.inl applied)
    | some found => exact Or.inr (Or.inl ⟨found, applied⟩)
  | error fault =>
    by_cases malformed : fault = .malformed
    · exact Or.inl (Or.inr (malformed ▸ applied))
    · refine Or.inr (Or.inr ⟨fault, ?_, malformed⟩)
      cases read : Expression.ofText rule.path with
      | ok expression => exact absurd (onlyMalformed_applyPattern read path now fault applied) malformed
      | error other =>
        cases (applyPattern_of_breaks read path now).symm.trans applied
        rfl

/-- A rule that breaks is not passed over and does not answer. -/
theorem error_of_breaks (breaks : rule.Breaks) (path : String) (now : Int) :
    ∃ fault, applyPattern rule path now = .error fault ∧ fault ≠ .malformed := by
  obtain ⟨fault, read, other⟩ := breaks
  exact ⟨fault, applyPattern_of_breaks read path now, other⟩

theorem not_breaks_of_passedOver (passed : PassedOver path now rule) : ¬ rule.Breaks := by
  intro breaks
  obtain ⟨fault, applied, other⟩ := error_of_breaks breaks path now
  rcases passed with nothing | malformed
  · cases nothing.symm.trans applied
  · cases malformed.symm.trans applied
    exact other rfl

theorem not_breaks_of_answers (answers : Answers path now rule) : ¬ rule.Breaks := by
  intro breaks
  obtain ⟨fault, applied, _⟩ := error_of_breaks breaks path now
  obtain ⟨found, answered⟩ := answers
  cases answered.symm.trans applied

theorem not_answers_of_passedOver (passed : PassedOver path now rule) :
    ¬ Answers path now rule := by
  rintro ⟨found, answered⟩
  rcases passed with nothing | malformed
  · cases nothing.symm.trans answered
  · cases malformed.symm.trans answered

theorem shielded_cons_of_passedOver (passed : PassedOver path now rule) :
    Shielded path now (rule :: rules) ↔ Shielded path now rules := by
  constructor
  · rintro shielded before other after rfl breaks
    obtain ⟨earlier, member, answers⟩ := shielded (rule :: before) other after rfl breaks
    rcases List.mem_cons.mp member with rfl | behind
    · exact absurd answers (not_answers_of_passedOver passed)
    · exact ⟨earlier, behind, answers⟩
  · intro shielded before other after split breaks
    cases before with
    | nil =>
      cases split
      exact absurd breaks (not_breaks_of_passedOver passed)
    | cons first others =>
      cases split
      obtain ⟨earlier, behind, answers⟩ := shielded others other after rfl breaks
      exact ⟨earlier, .tail _ behind, answers⟩

theorem shielded_cons_of_answers (answers : Answers path now rule) (rules : List Rule) :
    Shielded path now (rule :: rules) := by
  intro before other after split breaks
  cases before with
  | nil =>
    cases split
    exact absurd breaks (not_breaks_of_answers answers)
  | cons first others =>
    cases split
    exact ⟨rule, .head _, answers⟩

theorem not_shielded_cons_of_breaks (breaks : rule.Breaks) (rules : List Rule) :
    ¬ Shielded path now (rule :: rules) := by
  intro shielded
  obtain ⟨_, member, _⟩ := shielded [] rule rules rfl breaks
  cases member

/-- The pattern rules answer exactly if each that breaks comes behind one that answers. -/
theorem matchPattern_answers_iff (path : String) (now : Int) (rules : List Rule) :
    (∃ answer, matchPattern path now rules = .ok answer) ↔ Shielded path now rules := by
  induction rules with
  | nil =>
    refine iff_of_true ⟨none, rfl⟩ fun before rule after split _ => ?_
    cases before <;> cases split
  | cons rule rest ih =>
    rcases passedOver_or_answers_or_breaks path now rule with passed | answers | breaks
    · rw [matchPattern_of_passedOver passed, shielded_cons_of_passedOver passed]
      exact ih
    · refine iff_of_true ?_ (shielded_cons_of_answers answers rest)
      obtain ⟨found, applied⟩ := answers
      exact ⟨some found, by rw [matchPattern, applied]⟩
    · refine iff_of_false ?_ (not_shielded_cons_of_breaks breaks rest)
      obtain ⟨fault, applied, other⟩ := error_of_breaks breaks path now
      rintro ⟨answer, matched⟩
      rw [matchPattern, applied] at matched
      cases fault with
      | malformed => exact other rfl
      | repetitionTooLarge | numeralTooLong _ | alphabetsClash | tooDeep => cases matched

/-- A rule that is passed over might as well not be there. -/
theorem matchPattern_without {before after : List Rule} (passed : PassedOver path now rule) :
    matchPattern path now (before ++ rule :: after) = matchPattern path now (before ++ after) := by
  induction before with
  | nil => exact matchPattern_of_passedOver passed after
  | cons first others ih => simp only [List.cons_append, matchPattern, ih]

/-! ### Requests -/

/-- Wherever a request falls back to the pattern rules, those that break come behind ones that
answer. -/
def ShieldedFor (contents : Contents) (defaults : Defaults) (now : Int) (request : Request) : Prop :=
  ∀ location, request.path ≠ "" → Url.Location.ofText request.path = .ok location →
    let need := contents.needOf defaults now request location
    let path := request.pathAt location
    selectCandidate path (keptFor contents.rules path request.ignoreSlash need) = none →
      Shielded path need.now (contents.rules.filter (·.isPattern))

variable {base : RuleBase} {contents : Contents} {need : Need} {ignoreSlash : Bool}

theorem findRule_answers_iff (serves : base.Serves contents) (path : String) (need : Need)
    (ignoreSlash : Bool) : (∃ found, findRule base path need ignoreSlash = .ok found) ↔
      (selectCandidate path (keptFor contents.rules path ignoreSlash need) = none →
        Shielded path need.now (contents.rules.filter (·.isPattern))) := by
  cases chosen : selectCandidate path (keptFor contents.rules path ignoreSlash need) with
  | some candidate =>
    refine iff_of_true ⟨_, findRule_of_selected serves chosen⟩ fun unselected => ?_
    cases unselected
  | none =>
    rw [findRule_of_unselected serves chosen, ← matchPattern_answers_iff]
    cases matchPattern path need.now (contents.rules.filter (·.isPattern)) with
    | ok answer => exact iff_of_true ⟨answer, rfl⟩ fun _ => ⟨answer, rfl⟩
    | error fault =>
      refine iff_of_false ?_ fun answers => ?_
      · rintro ⟨found, answered⟩
        cases answered
      · obtain ⟨answer, matched⟩ := answers rfl
        cases matched

omit [Platform] in
/-- A request whose path is not in order has an answer, which says so. -/
theorem checkPath_eq_nil_iff {path : String} :
    checkPath path = [] ↔ path ≠ "" ∧ ∃ location, Url.Location.ofText path = .ok location := by
  unfold checkPath
  split
  next empty => exact iff_of_false (List.cons_ne_nil _ _) fun both => both.1 (beq_iff_eq.mp empty)
  next named =>
    have some : path ≠ "" := fun empty => named (beq_iff_eq.mpr empty)
    cases Url.Location.ofText path with
    | ok location => exact iff_of_true rfl ⟨some, location, rfl⟩
    | error malformed =>
      refine iff_of_false (List.cons_ne_nil _ _) fun both => ?_
      obtain ⟨_, location, read⟩ := both
      cases read

theorem reply_answers_iff (serves : base.Serves contents) (defaults : Defaults) (now : Int)
    (request : Request) : (∃ answer, reply base defaults now request = .ok answer) ↔
      ShieldedFor contents defaults now request := by
  rw [reply_of_holds serves.held]
  cases checked : checkPath request.path with
  | cons notice others =>
    refine iff_of_true ⟨_, rfl⟩ fun location some read => ?_
    have none : checkPath request.path = [] := checkPath_eq_nil_iff.mpr ⟨some, location, read⟩
    cases checked.symm.trans none
  | nil =>
    obtain ⟨some, location, read⟩ := checkPath_eq_nil_iff.mp checked
    have shielded : ShieldedFor contents defaults now request ↔
        (∃ found, findRule base (request.pathAt location)
          (contents.needOf defaults now request location) request.ignoreSlash = .ok found) := by
      rw [findRule_answers_iff serves]
      constructor
      · exact fun wherever => wherever location some read
      · intro here other _ readOther
        cases read.symm.trans readOther
        exact here
    rw [shielded]
    simp only [read, Except.mapError, Bind.bind, Except.bind]
    cases findRule base (request.pathAt location)
        (contents.needOf defaults now request location) request.ignoreSlash with
    | ok found => exact iff_of_true ⟨_, rfl⟩ ⟨found, rfl⟩
    | error refusal =>
      refine iff_of_false ?_ ?_ <;>
      · rintro ⟨_, answered⟩
        cases answered

/-- The pattern rules answer a path, if only with nothing, exactly if each of them that breaks comes
behind one that answers; a rule that is passed over, as one is whose pattern or target is malformed,
might as well not be there. A request to stores that can be searched has an answer exactly if this
holds of the pattern rules wherever it falls back to them. -/
theorem answered_iff_shielded (serves : base.Serves contents) (defaults : Defaults) (now : Int)
    (request : Request) (path : String) (rules : List Rule) :
    ((∃ answer, matchPattern path now rules = .ok answer) ↔ Shielded path now rules) ∧
    (∀ before rule after, rules = before ++ rule :: after → PassedOver path now rule →
      matchPattern path now rules = matchPattern path now (before ++ after)) ∧
    ((∃ answer, reply base defaults now request = .ok answer) ↔
      ShieldedFor contents defaults now request) := by
  refine ⟨matchPattern_answers_iff path now rules, ?_, reply_answers_iff serves defaults now request⟩
  rintro before rule after rfl passed
  exact matchPattern_without passed

end

attribute [local instance] Platform.usual

/-- A repetition that is too large breaks the request, though a rule behind it would answer. -/
theorem matchPattern_breaks_on_repetition :
    let rule (path target : String) : Rule :=
      ⟨none, path, "", 0, target, 301, none, none, none, true, none⟩
    matchPattern "/a" 1750000000 [rule "a\x7b4294967295\x7d" "/b", rule "^/a$" "/c"] =
        .error .repetitionTooLarge ∧
      matchPattern "/a" 1750000000 [rule "^/a$" "/c"] = .ok (some (rule "^/a$" "/c")) := by
  decide +kernel

/-- The rule that breaks does no harm behind one that answers. -/
theorem reply_answers_before_repetition :
    let rule (id path target : String) : Rule :=
      ⟨some id, path, "", 0, target, 301, none, none, none, true, none⟩
    let rules := [rule "id-1" "^/a$" "/c", rule "id-2" "a\x7b4294967295\x7d" "/b"]
    let base : RuleBase := { stores := .memory { rules }, issued := 2 }
    base.Serves ⟨rules, [], []⟩ ∧
      ∃ answer, reply base {} 1750000000 { path := "/a" } = .ok answer := by
  intro rule rules base
  have serves : base.Serves ⟨rules, [], []⟩ := ⟨rfl, .memory _⟩
  have applied : applyPattern (rule "id-1" "^/a$" "/c") "/a" 1750000000 =
      .ok (some (rule "id-1" "^/a$" "/c")) := by decide +kernel
  obtain ⟨_, _, answered⟩ :=
    answered_iff_shielded serves {} 1750000000 { path := "/a" } "/a" rules
  refine ⟨serves, answered.mpr ?_⟩
  rintro location _ read _ _ _
  cases (show Url.Location.ofText "/a" = .ok ⟨"", "/a", ""⟩ from rfl).symm.trans read
  exact shielded_cons_of_answers ⟨_, applied⟩ _

end Resolve
end Signpost
