import Signpost.Proofs.Clauses
import Signpost.Proofs.Holdings

/-!
# Searches by unknown attributes

A condition may be on an attribute that rules do not have. Tables notice it while the query is made;
memory notices it on the first rule whose conditions are decided as far as that one, unless rules in
memory answer to the name for another reason. Tables also refuse a condition that is too large.

## Main results

`search_tables_fails_iff`: a search of tables fails with an error of the store if and only if one of
its conditions is on an unknown attribute or all of them together are too large.
`search_memory_fails_iff`: a search in memory does so if and only if a stored rule comes to a condition
on a name that it does not answer to, and what is asked before is decided.

## Proof strategy

Conditions, criteria and rules are asked one after the other, as long as the answers let pass. So a
search stops at an unknown attribute exactly where it comes to one (`stops_of_loop`).
-/
namespace Signpost

open Sql Store

/-- The call fails with an error of the store. -/
def Fails (result : Except Failure α) : Prop :=
  ∃ failure, result = .error failure ∧ failure.isOwn = true

/-- Rules have the attribute that the condition is on. -/
def Condition.isKnown (condition : Condition) : Bool :=
  Rule.attributeNames.contains condition.subject

/-- The condition is on a name that the rule in memory does not answer to. -/
def Condition.Unanswered (others : Others) (rule : Rule) (condition : Condition) : Prop :=
  condition.isKnown = false ∧ others rule.attributes condition.subject = none

/-- A condition of the criteria is on an attribute that rules do not have. -/
def NamesUnknown (criteria : List Criterion) : Prop :=
  ∃ criterion ∈ criteria, ∃ condition ∈ criterion.conditions, condition.isKnown = false

/-- The conditions on attributes that rules have are asked with values of the kind of the column. -/
def Typed (criteria : List Criterion) : Prop :=
  ∀ criterion ∈ criteria, ∀ condition ∈ criterion.conditions,
    condition.isKnown = true → condition.suits ruleColumns = true

/-- One of the items stops, and all before it let pass. -/
def Reaches (passes stops : α → Prop) (items : List α) : Prop :=
  ∃ before item after, items = before ++ item :: after ∧ (∀ earlier ∈ before, passes earlier) ∧
    stops item

/-- On the rule, the criterion comes to a condition that is not answered: those before it do not
hold. -/
def Criterion.ComesToUnknown (others : Others) (criterion : Criterion) (rule : Rule) : Prop :=
  Reaches (fun condition : Condition => condition.holds others rule.attributes = .ok false)
    (·.Unanswered others rule) criterion.conditions

/-- On the rule, the criteria come to a condition that is not answered: the criteria before it hold. -/
def ComesToUnknown (others : Others) (criteria : List Criterion) (rule : Rule) : Prop :=
  Reaches (fun criterion : Criterion => criterion.holds others rule.attributes = .ok true)
    (·.ComesToUnknown others rule) criteria

/-- One of the rules comes to a condition that is not answered: on those before it the criteria are
decided. -/
def OneComesToUnknown (others : Others) (criteria : List Criterion) (rules : List Rule) : Prop :=
  Reaches (fun rule : Rule => ∃ kept, recordMatches others rule.attributes criteria = .ok kept)
    (ComesToUnknown others criteria) rules

/-- The condition that the criteria make together is too large. -/
def TooLarge (limits : Limits) (criteria : List Criterion) : Prop :=
  ∃ clauses values fault, Clause.ofCriteria ruleColumns criteria = .ok (clauses, values) ∧
    limits.check clauses = .error fault

section

variable {passes stops : α → Prop} {item : α} {items : List α}

theorem not_reaches_nil : ¬ Reaches passes stops ([] : List α) := by
  rintro ⟨before, item, after, split, _⟩
  cases before <;> cases split

theorem reaches_cons :
    Reaches passes stops (item :: items) ↔ stops item ∨ passes item ∧ Reaches passes stops items := by
  constructor
  · rintro ⟨before, other, after, split, passed, stopped⟩
    cases before with
    | nil =>
      cases split
      exact Or.inl stopped
    | cons first others =>
      cases split
      exact Or.inr ⟨passed item (.head _), others, other, after, rfl,
        fun earlier member => passed earlier (.tail _ member), stopped⟩
  · rintro (stopped | ⟨passed, before, other, after, rfl, others, stopped⟩)
    · exact ⟨[], item, items, rfl, List.forall_mem_nil _, stopped⟩
    · exact ⟨item :: before, other, after, rfl, List.forall_mem_cons.mpr ⟨passed, others⟩, stopped⟩

theorem exists_of_reaches (reaches : Reaches passes stops items) : ∃ item ∈ items, stops item := by
  obtain ⟨before, item, after, rfl, _, stopped⟩ := reaches
  exact ⟨item, List.mem_append_right _ (.head _), stopped⟩

theorem Reaches.congr {others : α → Prop} (same : ∀ item, stops item ↔ others item) :
    Reaches passes stops items ↔ Reaches passes others items := by
  rw [show stops = others from funext fun item => propext (same item)]

end

/-- The question stops at an unknown attribute. -/
def Stops (result : Except Undecided α) : Prop :=
  ∃ name, result = .error (.unknownAttribute name)

variable {others : Others} {condition : Condition} {conditions : List Condition}
  {criterion : Criterion} {criteria : List Criterion}

/-! ### Decisions on a rule -/

theorem lookup_attributes_of_unknown {name : String}
    (unknown : Rule.attributeNames.contains name = false) (rule : Rule) :
    rule.attributes.lookup name = none := by
  rw [List.lookup_eq_none_iff]
  intro field member
  have named : field.1 ∈ Rule.attributeNames := (List.of_mem_zip member).1
  refine bne_iff_ne.mpr fun same => ?_
  rw [← same] at named
  cases unknown.symm.trans (List.contains_iff_mem.mpr named)

theorem lookup_attributes_of_known {name : String}
    (known : Rule.attributeNames.contains name = true) (rule : Rule) :
    ∃ value, rule.attributes.lookup name = some value := by
  have names : rule.attributes.map (·.1) = Rule.attributeNames := rfl
  rw [← names, List.contains_iff_mem] at known
  obtain ⟨field, member, rfl⟩ := List.mem_map.mp known
  rw [← Option.isSome_iff_exists, List.lookup_isSome_iff]
  exact ⟨field, member, beq_self_eq_true _⟩

theorem not_stops_mapError (answer : Except Value.Unordered α) :
    ¬ Stops (answer.mapError Undecided.unordered) := by
  rintro ⟨name, same⟩
  cases answer <;> cases same

theorem not_stops_test (test : Test) (actual : Value) : ¬ Stops (test.holds actual) := by
  rintro ⟨name, stopped⟩
  unfold Test.holds at stopped
  split at stopped
  · cases stopped
  · cases stopped
  · exact not_stops_mapError _ ⟨name, stopped⟩
  · split at stopped
    · cases stopped
    · cases stopped
    · exact not_stops_mapError _ ⟨name, stopped⟩

/-- A condition stops at an attribute exactly if the rule does not answer to it. -/
theorem condition_stops_iff (rule : Rule) :
    Stops (condition.holds others rule.attributes) ↔ condition.Unanswered others rule := by
  unfold Condition.Unanswered Condition.holds
  cases known : condition.isKnown with
  | true =>
    obtain ⟨actual, has⟩ := lookup_attributes_of_known known rule
    simp only [has, Bool.true_eq_false, false_and, iff_false]
    exact not_stops_test condition.test actual
  | false =>
    rw [lookup_attributes_of_unknown known]
    cases answered : others rule.attributes condition.subject with
    | some answer => simpa using not_stops_mapError (answer condition.test)
    | none => simp [Stops]

/-- Items are asked one after the other, as long as the answer is the one that lets pass; the first
other answer is the result. It stops exactly if the items come to one that does. -/
theorem stops_of_loop {α : Type} {ask : α → Except Undecided Bool}
    {loop : List α → Except Undecided Bool} {passing : Bool} (nil : loop [] = .ok passing)
    (passed : ∀ item rest, ask item = .ok passing → loop (item :: rest) = loop rest)
    (decided : ∀ item rest, ask item ≠ .ok passing → loop (item :: rest) = ask item)
    (items : List α) :
    Stops (loop items) ↔ Reaches (ask · = .ok passing) (fun item => Stops (ask item)) items := by
  induction items with
  | nil =>
    refine iff_of_false ?_ not_reaches_nil
    rintro ⟨name, stopped⟩
    cases nil.symm.trans stopped
  | cons item rest ih =>
    rw [reaches_cons, ← ih]
    by_cases passes : ask item = .ok passing
    · have goes : ¬ Stops (ask item) := by
        rintro ⟨name, stopped⟩
        cases passes.symm.trans stopped
      rw [passed item rest passes]
      exact ⟨fun later => Or.inr ⟨passes, later⟩, fun found => (found.resolve_left goes).2⟩
    · rw [decided item rest passes]
      simp [passes]

theorem criterion_stops_iff (rule : Rule) :
    Stops (criterion.holds others rule.attributes) ↔ criterion.ComesToUnknown others rule := by
  cases criterion with
  | one condition =>
    rw [Criterion.ComesToUnknown, Criterion.conditions, reaches_cons, ← condition_stops_iff]
    simp [Criterion.holds, not_reaches_nil]
  | anyOf conditions =>
    refine (stops_of_loop rfl (fun condition rest passes => ?_)
      (fun condition rest refuses => ?_) conditions).trans
        (Reaches.congr fun condition => condition_stops_iff rule)
    · rw [anyHolds, passes]
    · rw [anyHolds]
      split
      next passes => exact absurd passes refuses
      next => rfl

theorem recordMatches_stops_iff (rule : Rule) :
    Stops (recordMatches others rule.attributes criteria) ↔ ComesToUnknown others criteria rule := by
  refine (stops_of_loop rfl (fun criterion rest passes => ?_)
    (fun criterion rest refuses => ?_) criteria).trans
      (Reaches.congr fun criterion => criterion_stops_iff rule)
  · rw [recordMatches, passes]
  · rw [recordMatches]
    split
    next passes => exact absurd passes refuses
    next => rfl

theorem select_stops_iff (rules : List Rule) :
    Stops (select others Rule.attributes criteria rules) ↔
      OneComesToUnknown others criteria rules := by
  unfold OneComesToUnknown
  induction rules with
  | nil =>
    refine iff_of_false ?_ not_reaches_nil
    rintro ⟨name, stopped⟩
    cases stopped
  | cons rule rest ih =>
    rw [reaches_cons, ← ih, ← recordMatches_stops_iff, select]
    cases asked : recordMatches others rule.attributes criteria with
    | error why => simp [Stops]
    | ok kept => cases select others Rule.attributes criteria rest <;> simp [Stops]

/-! ### Queries -/

/-- There is a column for each attribute of a rule, and for nothing else. -/
theorem isSome_find?_ruleColumns (name : String) :
    (ruleColumns.find? (·.name = name)).isSome = Rule.attributeNames.contains name := by
  have names : ruleColumns.map (·.name) = Rule.attributeNames := rfl
  rw [Bool.eq_iff_iff, List.find?_isSome, List.contains_iff_mem, ← names, List.mem_map]
  simp only [decide_eq_true_eq]

/-- A criterion on attributes that rules have fits the columns. -/
theorem suits_of_known (typed : ∀ condition ∈ criterion.conditions, condition.isKnown = true →
      condition.suits ruleColumns = true)
    (known : ¬ ∃ condition ∈ criterion.conditions, condition.isKnown = false) :
    criterion.suits ruleColumns = true := by
  have suits : ∀ condition ∈ criterion.conditions, condition.suits ruleColumns = true := by
    intro condition member
    refine typed condition member (Bool.eq_true_of_not_eq_false fun unknown => ?_)
    exact known ⟨condition, member, unknown⟩
  cases criterion with
  | one condition => exact suits condition (.head _)
  | anyOf conditions => exact List.all_eq_true.mpr suits

theorem listed_ruleColumns (name : String) :
    Whitelist.of ruleColumns name = none ↔ Rule.attributeNames.contains name = false := by
  rw [← isSome_find?_ruleColumns, Option.isSome_eq_false_iff, Option.isNone_iff_eq_none,
    Whitelist.of]

theorem ofCriteria_of_unknown (unknown : NamesUnknown criteria) :
    ∃ name, Clause.ofCriteria ruleColumns criteria = .error (.unknownAttribute name) := by
  obtain ⟨criterion, member, condition, part, named⟩ := unknown
  have asked : condition.subject ∈ subjects criteria :=
    List.mem_flatMap.mpr ⟨criterion, member, List.mem_map_of_mem part⟩
  have refused := Whitelist.isSome_refusal?_iff.mpr
    ⟨condition.subject, asked, (listed_ruleColumns _).mpr named⟩
  obtain ⟨failure, refused⟩ := Option.isSome_iff_exists.mp refused
  obtain ⟨name, rfl⟩ := exists_name_of_refusal? refused
  exact ⟨name, ofListed_error_iff.mpr refused⟩

/-! ### Searches -/

theorem search_memory_fails_iff (m : Memory) (criteria : List Criterion) :
    Fails (Stores.searchRules (.memory m) criteria) ↔
      OneComesToUnknown m.others criteria m.rules := by
  rw [← select_stops_iff]
  simp only [Stores.searchRules, Memory.searchRules, Store.search]
  cases select m.others Rule.attributes criteria m.rules with
  | ok found => simp [Fails, Stops, Except.mapError]
  | error why =>
    -- Values without an order are no failure of the store's own.
    cases why with
    | unknownAttribute name => exact iff_of_true ⟨_, rfl, rfl⟩ ⟨name, rfl⟩
    | unordered values =>
      refine iff_of_false ?_ ?_
      · rintro ⟨_, same, own⟩
        cases same
        cases own
      · rintro ⟨_, same⟩
        cases same

theorem search_tables_fails_iff (typed : Typed criteria) {contents : Contents}
    {database : Database} (held : contents.InTables database) (path : String) :
    Fails (Stores.searchRules (.tables path (.present database)) criteria) ↔
      NamesUnknown criteria ∨ TooLarge database.limits criteria := by
  by_cases unknown : NamesUnknown criteria
  · obtain ⟨name, failed⟩ := ofCriteria_of_unknown unknown
    refine iff_of_true ⟨.unknownAttribute name, ?_, rfl⟩ (Or.inl unknown)
    rw [Stores.searchRules, Stores.queried, failed]
    rfl
  · have suits : ∀ criterion ∈ criteria, criterion.suits ruleColumns = true :=
      fun criterion member => suits_of_known (typed criterion member)
        fun named => unknown ⟨criterion, member, named⟩
    obtain ⟨clauses, values, made, asks⟩ := asks_criteria suits
    obtain ⟨_, _, remade, searched⟩ := Stores.searchRules_tables held suits path
    cases made.symm.trans remade
    rw [searched, Database.parameters]
    cases checked : database.limits.check clauses with
    | error fault =>
      refine iff_of_true ⟨database.limits.failure fault, rfl, ?_⟩
        (Or.inr ⟨clauses, values, fault, made, checked⟩)
      cases fault <;> rfl
    | ok _ =>
      -- What is left to fail are integers that are too large, of which stores make no error of theirs.
      refine iff_of_false ?_ ?_
      · rintro ⟨failure, failed, own⟩
        simp only [Except.mapError, Bind.bind, Except.bind, bindAll_eq (asks .none).plain] at failed
        split at failed <;> cases failed
        cases own
      · rintro (named | ⟨_, _, _, remade, refused⟩)
        · exact unknown named
        · cases made.symm.trans remade
          cases checked.symm.trans refused

end Signpost
