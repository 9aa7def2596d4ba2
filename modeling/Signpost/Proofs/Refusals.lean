import Signpost.Proofs.Invariant
import Signpost.Proofs.Patching

/-!
# Calls that memory and tables refuse

Rules are inserted into stores of either kind. A search or a patch that one kind refuses may be accepted
by the other, and this module says for which calls the two agree.

## Main result

`refused_alike_iff`: where insertions have led to the same rules in memory and in tables, a search is
refused by both or by neither exactly if `SearchesAlike`, a patch exactly if `PatchesAlike`; after a
patch that both accept they hold the same rules again.

## Proof strategy

What each kind refuses is said in `Proofs.Unknown` for searches and in `Proofs.Patching` for patches.
It remains that insertions leave the kind of the stores as it is and give every rule an id of its own.
-/
namespace Signpost

open Sql Store

/-- The database with other limits for conditions. -/
def Sql.Database.limitedTo (database : Database) (limits : Limits) : Database :=
  { database with limits }

/-- What a database holds does not depend on its limits. -/
theorem Contents.InTables.limitedTo {contents : Contents} {database : Database}
    (held : contents.InTables database) (limits : Limits) :
    contents.InTables (database.limitedTo limits) :=
  ⟨held.rules, held.hosts, held.versions⟩

namespace RuleBase

/-- A rule base in memory, without rules. -/
def inMemory (others : Others) : RuleBase :=
  { stores := .memory { others } }

/-- A rule base in tables, without rules. -/
def inTables (path : String) (limits : Limits) : RuleBase :=
  { stores := .tables path
      (.present ((Store.migrate Store.serviceScripts {}).1.limitedTo limits)) }

/-- The rule base after insertions, of which some may have been refused. -/
def filled (base : RuleBase) (rules : List Rule) : RuleBase :=
  rules.foldl (fun base rule => (base.insert rule).1) base

variable {base : RuleBase} {rules stored : List Rule} {others : Others} {limits : Limits}

/-! ### Insertions -/

/-- What is true of stores after each insertion that they accept is true after any insertions. -/
theorem filled_stores {P : Stores → Prop}
    (accepted : ∀ {stores after : Stores} {id : String} {rule : Rule},
      P stores → stores.insertRule id rule = .ok after → P after)
    (start : P base.stores) (rules : List Rule) : P (base.filled rules).stores := by
  induction rules generalizing base with
  | nil => exact start
  | cons rule rest ih =>
    have next : P (base.insert rule).1.stores := by
      cases call : base.insert rule with
      | mk next answer =>
        cases answer with
        | error failure => exact (stores_of_insert_error call).symm ▸ start
        | ok stored =>
          obtain ⟨id, _, inserted⟩ := stores_of_insert_ok call
          exact accepted start inserted
    exact ih next

theorem filled_faults (base : RuleBase) (rules : List Rule) :
    (base.filled rules).faults = base.faults := by
  induction rules generalizing base with
  | nil => rfl
  | cons rule rest ih => exact (ih _).trans (faults_of_insert rfl)

theorem filled_inMemory (others : Others) (rules : List Rule) :
    ∃ m, ((inMemory others).filled rules).stores = .memory m ∧ m.others = others ∧
      (m.rules.map (·.id)).Nodup := by
  have kind : ∃ m, ((inMemory others).filled rules).stores = .memory m ∧ m.others = others := by
    refine filled_stores (P := fun stores => ∃ m, stores = .memory m ∧ m.others = others) ?_
      ⟨{ others }, rfl, rfl⟩ rules
    rintro _ after id rule ⟨m, rfl, same⟩ inserted
    simp only [Stores.insertRule, Memory.insertRule] at inserted
    split at inserted <;> cases inserted
    exact ⟨_, rfl, same⟩
  have distinct : ((inMemory others).filled rules).stores.Distinct :=
    filled_stores Stores.distinct_invariant.insertRule
      ⟨⟨[], [], []⟩, .memory { others }, List.nodup_nil⟩ rules
  obtain ⟨m, same, answers⟩ := kind
  obtain ⟨contents, held, distinct⟩ := same ▸ distinct
  cases held
  exact ⟨m, same, answers, distinct⟩

theorem limits_of_insertRule {database after : Database} {id : String} {rule : Rule}
    (inserted : Tables.insertRule database id rule = .ok after) : after.limits = database.limits := by
  cases held : database.rows "rules" with
  | error failure =>
    simp [Tables.insertRule, Database.insert, held, Bind.bind, Except.bind] at inserted
  | ok rows =>
    obtain ⟨_, _, rfl⟩ := Database.insert_eq held inserted
    rfl

theorem filled_inTables (path : String) (limits : Limits) (rules : List Rule) :
    ∃ database, ((inTables path limits).filled rules).stores = .tables path (.present database) ∧
      database.limits = limits := by
  refine filled_stores (P := fun stores => ∃ database,
    stores = .tables path (.present database) ∧ database.limits = limits) ?_ ⟨_, rfl, rfl⟩ rules
  rintro _ after id rule ⟨database, rfl, same⟩ inserted
  rw [Stores.insertRule, Stores.changed_present] at inserted
  cases done : Tables.insertRule database id rule with
  | error failure => simp [done, Except.map] at inserted
  | ok next =>
    rw [done] at inserted
    cases inserted
    exact ⟨next, rfl, (limits_of_insertRule done).trans same⟩

/-- The rule bases hold the same rules and give out the same ids, and nothing is put in their way. -/
structure Twins (a b : RuleBase) : Prop where
  held : ∃ stored, a.stores.HoldRules stored ∧ b.stores.HoldRules stored
  issued : a.issued = b.issued
  clear : a.faults = {} ∧ b.faults = {}

/-- The rules after one has been inserted under an id, unless another one has it. -/
def joined (rules : List Rule) (id : String) (rule : Rule) : List Rule :=
  if rules.any (·.id = some id) then rules else rules ++ [{ rule with id := some id }]

/-- With nothing in the way, the stores take the rule under the next id or refuse it. -/
theorem insert_of_clear (clear : base.faults = {}) (rule : Rule) :
    (∃ failure, base.stores.insertRule (base.nextId rule).2 rule = .error failure ∧
        base.insert rule = ((base.nextId rule).1, .error failure)) ∨
      ∃ stores, base.stores.insertRule (base.nextId rule).2 rule = .ok stores ∧
        base.insert rule = ({ (base.nextId rule).1 with stores },
          .ok { rule with id := some (base.nextId rule).2 }) := by
  refine ((base.insert_cases rule).resolve_left ?_).2
  rintro ⟨failure, stopped, _⟩
  simp [obstacle?, allow, clear] at stopped

theorem insert_holdRules (clear : base.faults = {}) (held : base.stores.HoldRules stored)
    {rule : Rule} (small : rule.integers.all fits = true) :
    (base.insert rule).1.stores.HoldRules (joined stored (base.nextId rule).2 rule) := by
  obtain ⟨hosts, versions, held⟩ := held
  rcases insert_of_clear clear rule with ⟨failure, refused, result⟩ | ⟨stores, taken, result⟩
  · have known : stored.any (·.id = some (base.nextId rule).2) = true := by
      by_contra absent
      have fresh : ∀ other ∈ stored, other.id ≠ some (base.nextId rule).2 := by simpa using absent
      obtain ⟨_, inserted, _⟩ := Stores.insertRule_of_holds held fresh small
      cases refused.symm.trans inserted
    rw [result, nextId_stores, joined, if_pos known]
    exact ⟨hosts, versions, held⟩
  · have fresh := Stores.fresh_of_insertRule held taken
    rw [result, joined, if_neg (by simpa using fresh)]
    exact ⟨hosts, versions, Stores.insertRule_holds held taken⟩

theorem insert_issued (clear : base.faults = {}) (rule : Rule) :
    (base.insert rule).1.issued = (base.nextId rule).1.issued := by
  rcases insert_of_clear clear rule with ⟨_, _, result⟩ | ⟨_, _, result⟩ <;> rw [result]

variable {a b : RuleBase}

theorem nextId_of_issued (issued : a.issued = b.issued) (rule : Rule) :
    (a.nextId rule).2 = (b.nextId rule).2 ∧
      (a.nextId rule).1.issued = (b.nextId rule).1.issued := by
  unfold nextId nextId.fresh
  split <;> simp [issued]

/-- A rule whose integers fit is inserted into both or refused by both. -/
theorem Twins.insert (twins : a.Twins b) {rule : Rule} (small : rule.integers.all fits = true) :
    (a.insert rule).1.Twins (b.insert rule).1 := by
  obtain ⟨⟨stored, here, there⟩, issued, clearA, clearB⟩ := twins
  obtain ⟨id, next⟩ := nextId_of_issued issued rule
  have there := insert_holdRules clearB there small
  rw [← id] at there
  refine ⟨⟨_, insert_holdRules clearA here small, there⟩, ?_, ?_, ?_⟩
  · rw [insert_issued clearA, insert_issued clearB, next]
  · exact (faults_of_insert rfl).trans clearA
  · exact (faults_of_insert rfl).trans clearB

theorem Twins.filled (twins : a.Twins b) {rules : List Rule}
    (small : ∀ rule ∈ rules, rule.integers.all fits = true) :
    (a.filled rules).Twins (b.filled rules) := by
  induction rules generalizing a b with
  | nil => exact twins
  | cons rule rest ih =>
    exact ih (twins.insert (small rule (.head _))) fun other member => small other (.tail _ member)

/-- Insertions of rules whose integers fit lead to the same rules in memory and in tables. -/
theorem filled_twins (others : Others) (path : String) (limits : Limits) {rules : List Rule}
    (small : ∀ rule ∈ rules, rule.integers.all fits = true) :
    ((inMemory others).filled rules).Twins ((inTables path limits).filled rules) := by
  have empty : (inMemory others).Twins (inTables path limits) :=
    ⟨⟨[], ⟨[], [], .memory { others }⟩, ⟨[], [], .tables (migrate_inTables.limitedTo limits)⟩⟩,
      rfl, rfl, rfl⟩
  exact empty.filled small

/-! ### Calls on rule bases -/

theorem search_of_clear (clear : base.faults = {}) (criteria : List Criterion) :
    base.search criteria = base.stores.searchRules criteria := by
  simp [search, allow, clear, Bind.bind, Except.bind]

theorem patch_of_clear (clear : base.faults = {}) (id : String) (fields : List (String × Value)) :
    base.patch id fields = base.after () (base.stores.patchRule id fields) := by
  simp [patch, allow, clear, Bind.bind, Except.bind]

theorem fails_after_iff {result : α} {change : Except Failure Stores} :
    Fails (base.after result change).2 ↔ Fails change := by
  cases change <;> simp [after, Fails]

/-- A change that was made gave the stores that it made. -/
theorem of_after {change : Except Failure Stores} {result : α}
    (made : (base.after result change).2 = .ok result) :
    ∃ stores, change = .ok stores ∧ (base.after result change).1.stores = stores := by
  cases change with
  | error failure => cases made
  | ok stores => exact ⟨stores, rfl, rfl⟩

end RuleBase

/-- The criteria are not too large, and if a condition of theirs is on an attribute that rules do not
have, one of the stored rules comes to a condition that it does not answer to. -/
def SearchesAlike (others : Others) (limits : Limits) (stored : List Rule)
    (criteria : List Criterion) : Prop :=
  NamesUnknown criteria ∨ TooLarge limits criteria → OneComesToUnknown others criteria stored

/-- If a rule has the id, the patch sets no attribute that rules do not have and, where its integers fit,
neither takes a required value away nor gives the id of another rule. If no rule has the id, the patch
sets an attribute that rules do not have. -/
def PatchesAlike (stored : List Rule) (id : String) (fields : List (String × Value)) : Prop :=
  (Knows stored id → ¬ SetsUnknown fields ∧
    ((∀ field ∈ fields, field.2.fits = true) → ¬ Empties fields ∧ ¬ Clashes stored id fields)) ∧
  (¬ Knows stored id → SetsUnknown fields)

theorem namesUnknown_of_comes {others : Others} {criteria : List Criterion} {rules : List Rule}
    (comes : OneComesToUnknown others criteria rules) : NamesUnknown criteria := by
  obtain ⟨rule, _, stops⟩ := exists_of_reaches comes
  obtain ⟨criterion, member, stops⟩ := exists_of_reaches stops
  obtain ⟨condition, asked, unknown, _⟩ := exists_of_reaches stops
  exact ⟨criterion, member, condition, asked, unknown⟩

section

variable {m : Memory} {contents : Contents} {database : Database}
  (distinct : (contents.rules.map (·.id)).Nodup) (held : contents.InTables database)
  (same : m.rules = contents.rules)

include held same in
theorem searches_alike_iff {criteria : List Criterion} (typed : Typed criteria) (path : String) :
    (Fails (Stores.searchRules (.memory m) criteria) ↔
        Fails (Stores.searchRules (.tables path (.present database)) criteria)) ↔
      SearchesAlike m.others database.limits contents.rules criteria := by
  rw [search_memory_fails_iff, search_tables_fails_iff typed held, same]
  exact ⟨fun alike => alike.mpr, fun comes => ⟨fun stops => Or.inl (namesUnknown_of_comes stops), comes⟩⟩

variable {fields : List (String × Value)} (settable : ∀ field ∈ fields, Settable field)

include distinct held same settable

theorem patches_alike_iff (path id : String) :
    (Fails (Stores.patchRule (.memory m) id fields) ↔
        Fails (Stores.patchRule (.tables path (.present database)) id fields)) ↔
      PatchesAlike contents.rules id fields := by
  rw [patch_memory_fails_iff (same ▸ distinct), patch_tables_fails_iff settable held distinct, same,
    PatchesAlike]
  -- Memory asks for the id alone, and tables only look at the row if there is one.
  by_cases known : Knows contents.rules id
  · simp [known]
  · simp [known]

theorem patches_leave_same (names : (fields.map (·.1)).Nodup) {path id : String}
    {here there : Stores} (patchedHere : Stores.patchRule (.memory m) id fields = .ok here)
    (patchedThere : Stores.patchRule (.tables path (.present database)) id fields = .ok there) :
    ∃ rules, here.HoldRules rules ∧ there.HoldRules rules := by
  obtain ⟨known, here⟩ := holds_of_patched_memory (same ▸ distinct) patchedHere
  rw [same] at known here
  have there := holds_of_patched_tables settable held distinct names known patchedThere
  exact ⟨_, ⟨_, _, here⟩, ⟨_, _, there⟩⟩

end

open RuleBase

/-- Where insertions have led to the same rules, memory and tables refuse the same searches and patches
exactly as said by `SearchesAlike` and `PatchesAlike`, if values are null or of the kind that the
attribute has. After a patch that both accept they hold the same rules. This is so whatever rules in
memory answer to beside their attributes, and however large conditions may be. -/
theorem refused_alike_iff (others : Others) (path : String) (limits : Limits)
    {rules stored : List Rule}
    (here : ((inMemory others).filled rules).stores.HoldRules stored)
    (there : ((inTables path limits).filled rules).stores.HoldRules stored) :
    (∀ criteria, Typed criteria →
      ((Fails (((inMemory others).filled rules).search criteria) ↔
          Fails (((inTables path limits).filled rules).search criteria)) ↔
        SearchesAlike others limits stored criteria)) ∧
    ∀ id fields, (fields.map (·.1)).Nodup → (∀ field ∈ fields, Settable field) →
      ((Fails (((inMemory others).filled rules).patch id fields).2 ↔
          Fails (((inTables path limits).filled rules).patch id fields).2) ↔
        PatchesAlike stored id fields) ∧
      ((((inMemory others).filled rules).patch id fields).2 = .ok () →
        (((inTables path limits).filled rules).patch id fields).2 = .ok () →
        ∃ after, (((inMemory others).filled rules).patch id fields).1.stores.HoldRules after ∧
          (((inTables path limits).filled rules).patch id fields).1.stores.HoldRules after) := by
  obtain ⟨m, memory, answers, distinct⟩ := filled_inMemory others rules
  obtain ⟨database, tables, room⟩ := filled_inTables path limits rules
  have clearHere : ((inMemory others).filled rules).faults = {} := filled_faults _ rules
  have clearThere : ((inTables path limits).filled rules).faults = {} := filled_faults _ rules
  -- The kinds of the stores being known, what they hold is read off them.
  obtain ⟨_, _, here⟩ := memory ▸ here
  obtain ⟨hosts, versions, there⟩ := tables ▸ there
  cases here
  cases there with | tables held => ?_
  refine ⟨fun criteria typed => ?_, fun id fields names settable => ?_⟩
  · rw [search_of_clear clearHere, search_of_clear clearThere, memory, tables]
    rw [← answers, ← room]
    exact searches_alike_iff held rfl typed path
  · rw [patch_of_clear clearHere, patch_of_clear clearThere, fails_after_iff, fails_after_iff,
      memory, tables]
    refine ⟨patches_alike_iff distinct held rfl settable path id, fun acceptedHere acceptedThere => ?_⟩
    obtain ⟨afterHere, patchedHere, storesHere⟩ := of_after acceptedHere
    obtain ⟨afterThere, patchedThere, storesThere⟩ := of_after acceptedThere
    rw [storesHere, storesThere]
    exact patches_leave_same distinct held rfl settable names patchedHere patchedThere

/-- Two rules are inserted, and a third one under an id that is taken. A search comes to an attribute
that rules do not have, and a patch takes the last access away. -/
theorem refused_alike_by_two_rules :
    let rule (id : Option String) (path : String) : Rule :=
      ⟨id, path, "", 0, "/to", 301, none, none, none, false, none⟩
    let rules := [rule none "/a", rule (some "shop") "/b", rule (some "shop") "/c"]
    let stored := [rule (some "id-1") "/a", rule (some "shop") "/b"]
    let criteria := [.anyOf [.equals "path" (.text "/z"), .equals "colour" (.text "red")]]
    let fields := [("path", .text "/c"), ("last_accessed", .null)]
    ((inMemory .usual).filled rules).stores.HoldRules stored ∧
      ((inTables "rules.db" {}).filled rules).stores.HoldRules stored ∧
      Typed criteria ∧
      (Fails (((inMemory .usual).filled rules).search criteria) ↔
        Fails (((inTables "rules.db" {}).filled rules).search criteria)) ∧
      (fields.map (·.1)).Nodup ∧ (∀ field ∈ fields, Settable field) ∧
      (((inMemory .usual).filled rules).patch "shop" fields).2 = .ok () ∧
      (((inTables "rules.db" {}).filled rules).patch "shop" fields).2 = .ok () ∧
      ∃ after, (((inMemory .usual).filled rules).patch "shop" fields).1.stores.HoldRules after ∧
        (((inTables "rules.db" {}).filled rules).patch "shop" fields).1.stores.HoldRules after := by
  intro rule rules stored criteria fields
  have here : ((inMemory .usual).filled rules).stores.HoldRules stored :=
    ⟨[], [], .memory ⟨stored, [], [], .usual⟩⟩
  have there : ((inTables "rules.db" {}).filled rules).stores.HoldRules stored := by
    have small : ∀ rule ∈ rules, rule.integers.all fits = true := by decide
    obtain ⟨held, ⟨_, _, memory⟩, tables⟩ := (filled_twins .usual "rules.db" {} small).held
    have kept : ((inMemory .usual).filled rules).stores = .memory ⟨stored, [], [], .usual⟩ := rfl
    cases kept ▸ memory
    exact tables
  obtain ⟨searches, patches⟩ := refused_alike_iff .usual "rules.db" {} here there
  have typed : Typed criteria := by
    unfold Typed
    decide
  have comes : SearchesAlike .usual {} stored criteria := by
    refine fun _ => ⟨[], rule (some "id-1") "/a", [rule (some "shop") "/b"], rfl,
      List.forall_mem_nil _, [], _, [], rfl, List.forall_mem_nil _, ?_⟩
    exact ⟨[_], _, [], rfl, List.forall_mem_singleton.mpr rfl, rfl, rfl⟩
  have names : (fields.map (·.1)).Nodup := by decide
  have settable : ∀ field ∈ fields, Settable field := by
    refine List.forall_mem_cons.mpr ⟨fun _ => Or.inr ⟨rule none "/c", .tail _ (.head _)⟩, ?_⟩
    exact List.forall_mem_singleton.mpr fun _ => Or.inl rfl
  have acceptedHere : (((inMemory .usual).filled rules).patch "shop" fields).2 = .ok () := rfl
  have acceptedThere : (((inTables "rules.db" {}).filled rules).patch "shop" fields).2 = .ok () := by
    rw [inTables, Store.migrate_serviceScripts]
    decide +kernel
  exact ⟨here, there, typed, (searches criteria typed).mpr comes, names, settable, acceptedHere,
    acceptedThere, (patches "shop" fields names settable).2 acceptedHere acceptedThere⟩

/-- Without rules, a search in memory comes to no attribute that it does not know, and a patch in tables
finds nothing to be set. -/
theorem unknown_attribute_searched_in_memory :
    (inMemory .usual).search [.one (.equals "colour" (.text "red"))] = .ok [] ∧
      (inTables "rules.db" {}).search [.one (.equals "colour" (.text "red"))] =
        .error (.unknownAttribute "colour") ∧
      ((inMemory .usual).patch "id-1" [("path", .text "/b")]).2 = .error (.notFound "id-1") ∧
      ((inTables "rules.db" {}).patch "id-1" [("path", .text "/b")]).2 = .ok () := by
  refine ⟨rfl, rfl, rfl, ?_⟩
  rw [inTables, Store.migrate_serviceScripts]
  rfl

end Signpost
