import Signpost.Proofs.Candidates

/-!
# Precedence of the host

A rule is in force for a request if it is of its version and within its window. The filter on
candidates looks at hosts twice: it drops the rules of other hosts, and then the rules of every host
if the host has rules of its own. What is left are all rules in force of a single host.

## Main result

`filterCandidates_takes_one_host`: the filter keeps the rules in force of the host that is asked for
if it has any, else those of every host, and none where the host takes only rules of its own.

## Proof strategy

Whether the host has a rule in force of its own decides the second pass. Where it has none, being
eligible comes down to being in force for every host (`eligible_iff_of_unbound`).
-/
namespace Signpost.Resolve

/-- The rule is of the version, and the instant lies in its window, which may be open on each side. -/
structure InForce (need : Need) (rule : Rule) : Prop where
  version : rule.version = need.version
  begun : ∀ start ∈ rule.start, start ≤ need.now
  lasts : ∀ stop ∈ rule.stop, need.now ≤ stop

instance (need : Need) (rule : Rule) : Decidable (InForce need rule) :=
  decidable_of_iff (rule.version = need.version ∧ (∀ start ∈ rule.start, start ≤ need.now) ∧
      ∀ stop ∈ rule.stop, need.now ≤ stop)
    ⟨fun ⟨version, begun, lasts⟩ => ⟨version, begun, lasts⟩,
      fun ⟨version, begun, lasts⟩ => ⟨version, begun, lasts⟩⟩

/-- A rule in force is bound to the host that is asked for. -/
def HasOwn (need : Need) (rules : List Rule) : Prop :=
  ∃ rule ∈ rules, InForce need rule ∧ rule.host = need.host

instance (need : Need) (rules : List Rule) : Decidable (HasOwn need rules) :=
  inferInstanceAs (Decidable (∃ rule ∈ rules, _))

/-- The host whose rules answer: the one that is asked for if a rule in force is bound to it, else
none in particular. -/
def servedHost (need : Need) (rules : List Rule) : String :=
  if HasOwn need rules then need.host else ""

variable {need : Need} {rules others : List Rule} {rule : Rule}

theorem activeAt_iff {now : Int} : rule.activeAt now = true ↔
    (∀ start ∈ rule.start, start ≤ now) ∧ ∀ stop ∈ rule.stop, now ≤ stop := by
  cases start : rule.start <;> cases stop : rule.stop <;> simp [Rule.activeAt, start, stop]

theorem eligible_iff : Eligible need rule ↔
    InForce need rule ∧ (rule.host = need.host ∨ need.hostOnly = false ∧ rule.host = "") := by
  constructor
  · rintro ⟨version, active, host⟩
    obtain ⟨begun, lasts⟩ := activeAt_iff.mp active
    exact ⟨⟨version, begun, lasts⟩, host⟩
  · rintro ⟨⟨version, begun, lasts⟩, host⟩
    exact ⟨version, activeAt_iff.mpr ⟨begun, lasts⟩, host⟩

theorem hasOwn_iff : HasOwn need rules ↔
    (rules.filter need.admits).any (·.host == need.host) = true := by
  simp only [List.any_eq_true, List.mem_filter, admits_iff, beq_iff_eq, eligible_iff]
  constructor
  · rintro ⟨rule, member, force, own⟩
    exact ⟨rule, ⟨member, force, Or.inl own⟩, own⟩
  · rintro ⟨rule, ⟨member, force, _⟩, own⟩
    exact ⟨rule, member, force, own⟩

/-- Without a rule of the host's own, a rule is eligible if it is in force for every host, unless
the host takes only rules of its own. -/
theorem eligible_iff_of_unbound (none : ¬ HasOwn need rules) (member : rule ∈ rules) :
    Eligible need rule ↔ (InForce need rule ∧ rule.host = "") ∧
      ¬ (need.hostOnly = true ∧ need.host ≠ "") := by
  rw [eligible_iff]
  constructor
  · rintro ⟨force, own | ⟨open_, everywhere⟩⟩
    · exact absurd ⟨rule, member, force, own⟩ none
    · exact ⟨⟨force, everywhere⟩, fun strict => Bool.noConfusion (open_.symm.trans strict.1)⟩
  · rintro ⟨⟨force, everywhere⟩, lenient⟩
    refine ⟨force, ?_⟩
    cases policy : need.hostOnly with
    | false => exact Or.inr ⟨rfl, everywhere⟩
    | true =>
      -- A request without a host takes the rules of every host for its own.
      by_cases hostless : need.host = ""
      · exact Or.inl (everywhere.trans hostless.symm)
      · exact absurd ⟨policy, hostless⟩ lenient

theorem filterCandidates_of_own (own : HasOwn need rules) : filterCandidates need rules =
    rules.filter fun rule => InForce need rule ∧ rule.host = need.host := by
  rw [filterCandidates, if_pos (hasOwn_iff.mp own), List.filter_filter]
  refine List.filter_congr fun rule _ => Bool.eq_iff_iff.mpr ?_
  rw [Bool.and_eq_true, admits_iff, eligible_iff, beq_iff_eq, decide_eq_true_eq]
  constructor
  · rintro ⟨bound, force, _⟩
    exact ⟨force, bound⟩
  · rintro ⟨force, bound⟩
    exact ⟨bound, force, Or.inl bound⟩

theorem filterCandidates_of_unbound (none : ¬ HasOwn need rules) : filterCandidates need rules =
    if need.hostOnly = true ∧ need.host ≠ "" then []
    else rules.filter fun rule => InForce need rule ∧ rule.host = "" := by
  rw [filterCandidates, if_neg (fun some => none (hasOwn_iff.mpr some))]
  split
  next strict =>
    refine List.filter_eq_nil_iff.mpr fun rule member kept => ?_
    exact ((eligible_iff_of_unbound none member).mp (admits_iff.mp kept)).2 strict
  next lenient =>
    refine List.filter_congr fun rule member => Bool.eq_iff_iff.mpr ?_
    rw [admits_iff, eligible_iff_of_unbound none member, decide_eq_true_eq]
    exact and_iff_left lenient

/-- The rules that pass the filter, in order. -/
theorem filterCandidates_eq (need : Need) (rules : List Rule) : filterCandidates need rules =
    if ¬ HasOwn need rules ∧ need.hostOnly = true ∧ need.host ≠ "" then []
    else rules.filter fun rule => InForce need rule ∧ rule.host = servedHost need rules := by
  by_cases own : HasOwn need rules
  · -- The policy of the host does not matter to rules of its own.
    rw [if_neg (fun strict => strict.1 own), servedHost, if_pos own, filterCandidates_of_own own]
  · simp only [own, not_false_eq_true, true_and, servedHost, if_false]
    exact filterCandidates_of_unbound own

theorem hasOwn_of_perm (reordered : others.Perm rules) :
    HasOwn need others ↔ HasOwn need rules := by
  simp only [HasOwn, reordered.mem_iff]

theorem filterCandidates_perm (reordered : others.Perm rules) :
    (filterCandidates need others).Perm (filterCandidates need rules) := by
  -- The host that is served is the same for both, and filters keep the order of what they keep.
  simp only [filterCandidates_eq, servedHost, hasOwn_of_perm reordered]
  split
  · exact List.Perm.refl []
  · exact reordered.filter _

/-- All rules in force of one host pass the filter, in their order: of the host that is asked for if
it has any, else of every host, unless the host takes only rules of its own. So they share their
host, and rules in another order leave the same ones. -/
theorem filterCandidates_takes_one_host (need : Need) (rules : List Rule) :
    (filterCandidates need rules =
      if ¬ HasOwn need rules ∧ need.hostOnly = true ∧ need.host ≠ "" then []
      else rules.filter fun rule => InForce need rule ∧ rule.host = servedHost need rules) ∧
    (∀ rule ∈ filterCandidates need rules, rule.host = servedHost need rules) ∧
    ∀ others : List Rule, others.Perm rules →
      (filterCandidates need others).Perm (filterCandidates need rules) := by
  refine ⟨filterCandidates_eq need rules, fun rule kept => ?_, fun others => filterCandidates_perm⟩
  rw [filterCandidates_eq] at kept
  split at kept
  · cases kept
  · exact (decide_eq_true_eq.mp (List.mem_filter.mp kept).2).2

/-- A rule stored twice for a host gives way to none of every host, whichever of them come first. -/
theorem filterCandidates_takes_shop :
    let shared : Rule := ⟨none, "/a", "", 0, "/to", 301, none, none, none, false, none⟩
    let bound : Rule := { shared with host := "shop", stop := some 5 }
    let rules := [shared, bound, { bound with stop := some 4 }, { bound with version := 7 }, bound]
    let need : Need := ⟨"shop", 0, false, 5⟩
    rules.reverse.Perm rules ∧ filterCandidates need rules = [bound, bound] ∧
      (filterCandidates need rules.reverse).Perm (filterCandidates need rules) := by
  intro shared bound rules need
  obtain ⟨kept, _, reordered⟩ := filterCandidates_takes_one_host need rules
  have perm : rules.reverse.Perm rules := List.reverse_perm rules
  exact ⟨perm, kept.trans (by decide), reordered rules.reverse perm⟩

end Signpost.Resolve
