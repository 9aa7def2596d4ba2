import Signpost.Proofs.Breaking
import Signpost.Proofs.Leftmost

/-!
# The first usable pattern rule

A pattern rule is usable for a path if its pattern can be read and is found in the path, if it is
active, and if its target can be put in for the leftmost match.

## Main result

`matchPattern_serves_first_usable`: the first usable rule answers, with the path in which its target
stands in the place of the leftmost match; nothing answers where no rule is usable, and rules that are
not usable may be left out.

## Proof strategy

`Puts` describes the target that a rule gives without the functions that compute it;
`applyPattern_of_puts` and `puts_of_applyPattern` join the two. A rule that is not usable is passed over
unless its pattern breaks the request (`passedOver_of_unusable`), so the rules are taken one after the
other.
-/
namespace Signpost.Resolve

open Pattern (Fault IsLeftmost)

section

variable [Platform]

/-- The rule gives the path the target: its pattern can be read, the match is the leftmost one in the
path, the rule is active, and the replacement is what its template stands for. -/
inductive Puts (path : String) (now : Int) (rule : Rule) : String → Prop
  | intro {expression : Expression} {found : Match} {replacement : List Char}
    (read : Expression.ofText rule.path = .ok expression)
    (leftmost : IsLeftmost expression.pattern path.toList found)
    (active : rule.activeAt now = true)
    (expanded : Pattern.expand expression (Pattern.convert rule.target.toList) found =
      .ok replacement) :
    Puts path now rule (String.ofList (found.before ++ replacement ++ found.after))

def Usable (path : String) (now : Int) (rule : Rule) : Prop :=
  ∃ target, Puts path now rule target

/-- The rules with some left out that are not usable. -/
inductive Spares (path : String) (now : Int) : List Rule → List Rule → Prop
  | nil : Spares path now [] []
  | keep {kept rules : List Rule} (rule : Rule) (spares : Spares path now kept rules) :
    Spares path now (rule :: kept) (rule :: rules)
  | leaveOut {kept rules : List Rule} {rule : Rule} (unusable : ¬ Usable path now rule)
    (spares : Spares path now kept rules) : Spares path now kept (rule :: rules)

variable {path target : String} {now : Int} {rule served : Rule} {rules kept : List Rule}

theorem applyPattern_of_puts (puts : Puts path now rule target) :
    applyPattern rule path now = .ok (some { rule with target }) := by
  obtain @⟨expression, found, replacement, read, leftmost, active, expanded⟩ := puts
  have searched : expression.pattern.search path.toList = some found :=
    Pattern.search_eq_some_iff.mpr leftmost
  have put : substitute expression rule.target found =
      .ok (String.ofList (found.before ++ replacement ++ found.after)) := by
    rw [substitute, expanded]
    rfl
  simp only [applyPattern, read, searched, active, put, Bind.bind, Except.bind, Pure.pure,
    Except.pure, if_true]

theorem puts_of_applyPattern (applied : applyPattern rule path now = .ok (some served)) :
    Puts path now rule served.target := by
  obtain ⟨expression, found, target, read, searched, active, put, rfl⟩ :=
    exists_of_applyPattern applied
  have leftmost := Pattern.search_eq_some_iff.mp searched
  unfold substitute at put
  cases expanded : Pattern.expand expression (Pattern.convert rule.target.toList) found with
  | error fault => simp [expanded, Except.map] at put
  | ok replacement =>
    rw [expanded] at put
    cases put
    exact .intro read leftmost active expanded

theorem passedOver_of_unusable (unusable : ¬ Usable path now rule) (readable : ¬ rule.Breaks) :
    PassedOver path now rule := by
  rcases passedOver_or_answers_or_breaks path now rule with passed | answers | breaks
  · exact passed
  · obtain ⟨served, applied⟩ := answers
    exact absurd ⟨_, puts_of_applyPattern applied⟩ unusable
  · exact absurd breaks readable

theorem matchPattern_of_unusable (readable : ∀ rule ∈ rules, ¬ rule.Breaks)
    (unusable : ∀ rule ∈ rules, ¬ Usable path now rule) (more : List Rule) :
    matchPattern path now (rules ++ more) = matchPattern path now more := by
  induction rules with
  | nil => rfl
  | cons rule rest ih =>
    have passed := passedOver_of_unusable (unusable rule (.head _)) (readable rule (.head _))
    rw [List.cons_append, matchPattern_of_passedOver passed]
    exact ih (fun other member => readable other (.tail _ member))
      fun other member => unusable other (.tail _ member)

theorem exists_first_usable (some : ∃ rule ∈ rules, Usable path now rule) :
    ∃ before rule after target, rules = before ++ rule :: after ∧
      (∀ earlier ∈ before, ¬ Usable path now earlier) ∧ Puts path now rule target := by
  induction rules with
  | nil =>
    obtain ⟨_, member, _⟩ := some
    cases member
  | cons rule rest ih =>
    by_cases usable : Usable path now rule
    · obtain ⟨target, puts⟩ := usable
      exact ⟨[], rule, rest, target, rfl, List.forall_mem_nil _, puts⟩
    · obtain ⟨other, member, usableToo⟩ := some
      have behind : other ∈ rest := by
        rcases List.mem_cons.mp member with rfl | behind
        · exact absurd usableToo usable
        · exact behind
      obtain ⟨before, first, after, target, split, unusable, puts⟩ := ih ⟨other, behind, usableToo⟩
      refine ⟨rule :: before, first, after, target, congrArg _ split, ?_, puts⟩
      exact List.forall_mem_cons.mpr ⟨usable, unusable⟩

theorem matchPattern_of_spares (readable : ∀ rule ∈ rules, ¬ rule.Breaks)
    (spares : Spares path now kept rules) :
    matchPattern path now kept = matchPattern path now rules := by
  induction spares with
  | nil => rfl
  | keep rule spares ih =>
    rw [matchPattern, matchPattern, ih fun other member => readable other (.tail _ member)]
  | leaveOut unusable spares ih =>
    have passed := passedOver_of_unusable unusable (readable _ (.head _))
    rw [matchPattern_of_passedOver passed]
    exact ih fun other member => readable other (.tail _ member)

/-- Of rules whose patterns can be read or are malformed, the first that is usable answers; it differs
in its target alone, which is the path with the replacement in the place of the leftmost match. If no
rule is usable, nothing answers, and rules that are not usable can be left out. -/
theorem matchPattern_serves_first_usable (path : String) (now : Int) {rules : List Rule}
    (readable : ∀ rule ∈ rules, ¬ rule.Breaks) :
    ((∀ rule ∈ rules, ¬ Usable path now rule) → matchPattern path now rules = .ok none) ∧
    ((∃ rule ∈ rules, Usable path now rule) →
      ∃ before rule after target, rules = before ++ rule :: after ∧
        (∀ earlier ∈ before, ¬ Usable path now earlier) ∧ Puts path now rule target ∧
        matchPattern path now rules = .ok (some { rule with target })) ∧
    ∀ kept, Spares path now kept rules →
      matchPattern path now kept = matchPattern path now rules := by
  refine ⟨?_, ?_, fun kept => matchPattern_of_spares readable⟩
  · intro unusable
    have nothing := matchPattern_of_unusable readable unusable []
    rwa [List.append_nil] at nothing
  · intro some
    obtain ⟨before, rule, after, target, rfl, unusable, puts⟩ := exists_first_usable some
    refine ⟨before, rule, after, target, rfl, unusable, puts, ?_⟩
    have earlier : ∀ rule ∈ before, ¬ rule.Breaks :=
      fun rule member => readable rule (List.mem_append_left _ member)
    rw [matchPattern_of_unusable earlier unusable, matchPattern, applyPattern_of_puts puts]

end

attribute [local instance] Platform.usual

/-- Before the rule that answers stand one with a malformed pattern, one whose pattern is not found, one
that is no longer active and one that refers to a group that is not there. The match of the one that
answers is empty, and its group took no part in it. -/
theorem matchPattern_serves_fifth :
    let rule (path target : String) (stop : Option Int) : Rule :=
      ⟨none, path, "", 0, target, 301, none, stop, none, true, none⟩
    let first := [rule "(" "/x" none, rule "zzz" "/x" none, rule "a" "/x" (some 5), rule "a" "$2" none]
    let usable := rule "(b)|x*" "<$1$&>" none
    let last := rule "a" "/y" none
    let rules := first ++ [usable, last]
    (∀ rule ∈ rules, ¬ rule.Breaks) ∧ Spares "/ab" 6 [usable, last] rules ∧
      matchPattern "/ab" 6 [usable, last] = matchPattern "/ab" 6 rules ∧
      ∃ before rule after target, rules = before ++ rule :: after ∧ Puts "/ab" 6 rule target ∧
        { rule with target } = { usable with target := "<>/ab" } := by
  intro rule first usable last rules
  have passed : ∀ rule ∈ first, applyPattern rule "/ab" 6 = .ok none ∨
      applyPattern rule "/ab" 6 = .error .malformed := by
    decide +kernel
  have answers : applyPattern usable "/ab" 6 = .ok (some { usable with target := "<>/ab" }) := by
    decide +kernel
  have answersToo : applyPattern last "/ab" 6 = .ok (some { last with target := "//yb" }) := by
    decide +kernel
  have readable : ∀ rule ∈ rules, ¬ rule.Breaks := by
    intro rule member
    rcases List.mem_append.mp member with early | late
    · exact not_breaks_of_passedOver (passed rule early)
    · simp only [List.mem_cons, List.not_mem_nil, or_false] at late
      rcases late with rfl | rfl
      · exact not_breaks_of_answers ⟨_, answers⟩
      · exact not_breaks_of_answers ⟨_, answersToo⟩
  have unusable : ∀ rule ∈ first, ¬ Usable "/ab" 6 rule := by
    rintro rule member ⟨target, puts⟩
    exact not_answers_of_passedOver (passed rule member) ⟨_, applyPattern_of_puts puts⟩
  have spares : Spares "/ab" 6 [usable, last] rules := by
    have behind : Spares "/ab" 6 [usable, last] [usable, last] := .keep _ (.keep _ .nil)
    simp only [first, List.forall_mem_cons] at unusable
    obtain ⟨malformed, absent, expired, unknown, _⟩ := unusable
    exact .leaveOut malformed (.leaveOut absent (.leaveOut expired (.leaveOut unknown behind)))
  obtain ⟨_, serves, spared⟩ := matchPattern_serves_first_usable "/ab" 6 readable
  obtain ⟨before, rule, after, target, split, _, puts, served⟩ :=
    serves ⟨usable, by simp [rules], "<>/ab", puts_of_applyPattern answers⟩
  refine ⟨readable, spares, spared _ spares, before, rule, after, target, split, puts, ?_⟩
  have computed : matchPattern "/ab" 6 rules = .ok (some { usable with target := "<>/ab" }) := by
    decide +kernel
  exact Option.some.inj (Except.ok.inj (served.symm.trans computed))

end Signpost.Resolve
