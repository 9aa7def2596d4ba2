import Signpost.Proofs.Course

/-!
# Integers that are too large for a table

A cell of a table holds no integer beyond 64 bits. A sheet may bring such integers in its versions,
its status codes and its times; they come to the table when a row is looked up and when its rule is
inserted, and what they cause is no failure of the store. A text that is none of characters comes to
the table in the same way and is held by no cell either.

## Main result

`importRows_into_tables`: an import into a table takes a course through all rows, with a skip for
every insertion that the store refuses, unless an integer that comes to the table is too large, a row
has a cell without a text or with one that is none of characters, or a row that was there before
cannot be read as a rule. The first of these ends the import.

## Proof strategy

What a search and an insertion give is said of tables with rows of any kind (`search_tabled`,
`insert_tabled`, `insertFields_tabled`); by it, one row settles with integers that fit, or it ends the
import. The rows follow by induction along the course.
-/
namespace Signpost

open Sql Store

/-! ### Rules in a table with other rows -/

/-- The rules are in a table: behind rows that were there before, those of rules. -/
def Stores.Tabled (stores : Stores) (stored : List Sql.Row) : Prop :=
  ∃ path database, ∃ rules : List Rule, stores = .tables path (.present database) ∧
    database.rows "rules" = .ok (stored ++ rules.map Rule.row)

theorem readRows_cases (ofRow : Row → Schema.Checked α) (rows : List Row) :
    (∃ records, readRows ofRow rows = .ok records) ∨
      ∃ row ∈ rows, ∃ problems, ofRow row = .error problems ∧
        readRows ofRow rows = .error (.invalidRow problems) := by
  induction rows with
  | nil => exact Or.inl ⟨[], rfl⟩
  | cons row rest ih =>
    cases read : ofRow row with
    | error problems => exact Or.inr ⟨row, .head _, problems, read, by simp [readRows, read]⟩
    | ok record =>
      rcases ih with ⟨records, others⟩ | ⟨other, member, problems, unread, failed⟩
      · exact Or.inl ⟨record :: records, by simp [readRows, read, others, Except.map]⟩
      · exact Or.inr ⟨other, .tail _ member, problems, unread,
          by simp [readRows, read, failed, Except.map]⟩

/-- The value is a list or an object. -/
def Value.isNested : Value → Bool
  | .list _ | .object _ => true
  | _ => false

/-- Plain values are not bound where an integer is too large or a text is none of characters. -/
theorem Sql.bindAll_eq_error {values : List Value} {place : Nat} {failure : Failure}
    (failed : bindAll place values = .error failure)
    (flat : ∀ value ∈ values, value.isNested = false) :
    (failure = .integerTooLarge ∧ ∃ n, .int n ∈ values ∧ fits n = false) ∨
      ∃ text, failure = .unencodable text := by
  induction values generalizing place with
  | nil => cases failed
  | cons value rest ih =>
    rw [List.forall_mem_cons] at flat
    simp only [bindAll, Bind.bind, Except.bind] at failed
    split at failed
    next other refused =>
      cases failed
      cases value with
      | int n =>
        simp only [bind] at refused
        split at refused
        · cases refused
        next large =>
          exact Or.inl ⟨(Except.error.inj refused).symm, n, .head _, Bool.eq_false_iff.mpr large⟩
      | unpaired text => exact Or.inr ⟨text, (Except.error.inj refused).symm⟩
      | list items | object fields => cases flat.1
      | real x => cases x <;> cases refused
      | null | bool b | text s => cases refused
    next =>
      split at failed
      next other refused =>
        cases failed
        refine (ih refused flat.2).imp_left ?_
        rintro ⟨same, n, member, large⟩
        exact ⟨same, n, .tail _ member, large⟩
      next => cases failed

namespace Sheet

/-! ### Rows with cells at fault -/

section

variable [Platform] {row normal : Row} {version : Int} {defaults : Defaults} {fault : RowFault}

/-- A cell of the row has no text, for the reason. -/
def LacksText (row : Row) (why : Value.Unshown) : Prop :=
  ∃ column, unshown? (cell row column) = some why

/-- The failures by which a row can end an import for what is in its cells. -/
inductive AtFault (row : Row) : Failure → Prop
  | unshown {why : Value.Unshown} (lacking : LacksText row why) : AtFault row (.unshown why)
  | unencodable {text : Text.Unpaired} (lone : HasUnpaired row) : AtFault row (.unencodable text)
  | unspoken (lone : HasUnpaired row) : AtFault row .unspoken

theorem rowKey_eq_error (failed : rowKey row = .error fault) :
    (∃ why, fault = .unshown why ∧ LacksText row why) ∨ (fault = .unspoken ∧ HasUnpaired row) ∨
      fault.beforeKey? = none := by
  simp only [rowKey, needed, Bind.bind, Except.bind, Pure.pure, Except.pure] at failed
  split at failed
  next other refused =>
    cases failed
    obtain ⟨value, member, why, lacking, rfl⟩ := checkShown_eq_error refused
    refine Or.inl ⟨why, rfl, ?_⟩
    simp only [List.mem_cons, List.not_mem_nil, or_false] at member
    rcases member with rfl | rfl | rfl
    · exact ⟨"host", lacking⟩
    · exact ⟨"isRegex", lacking⟩
    · exact ⟨"path", lacking⟩
  cases has : row.lookup "path" with
  | none =>
    simp only [has] at failed
    cases failed
    exact Or.inr (Or.inr rfl)
  | some given =>
    simp only [has] at failed
    split at failed
    next lone =>
      cases failed
      exact Or.inr (Or.inl ⟨rfl, "host", by simp [textColumns], lone⟩)
    split at failed
    · cases failed
    split at failed
    next lone =>
      cases failed
      exact Or.inr (Or.inl ⟨rfl, "path", by simp [textColumns], by rw [cell, has]; exact lone⟩)
    cases read : Url.Location.ofText (trimmed given) with
    | ok location => simp [read, Except.mapError] at failed
    | error malformed =>
      simp only [read, Except.mapError] at failed
      cases failed
      exact Or.inr (Or.inr rfl)

theorem hasUnpaired_of_rowKey {path : Value} {host : String} (named : rowKey row = .ok (path, host))
    (lone : path.isUnpaired = true) : HasUnpaired row := by
  obtain ⟨given, has, key⟩ := rowKey_eq_ok named
  split at key
  · refine ⟨"path", by simp [textColumns], ?_⟩
    rw [key.1] at lone
    rw [cell, has, Option.getD_some]
    cases given <;> exact lone
  · obtain ⟨_, _, rfl, _⟩ := key
    cases lone

/-- A row ends the import before it is looked up only if a cell is at fault. -/
theorem atFault_of_refusal {failure : Failure}
    (refused : refusal? version row = some (.error failure)) : AtFault row failure := by
  unfold refusal? at refused
  split at refused
  next reason _ =>
    -- A check that turns the row down says so with the text of the cell that it has asked.
    cases deep : isTooDeep (reason.asked row) with
    | false => simp [deep] at refused
    | true =>
      simp only [deep, if_true, Option.some.injEq, Except.error.injEq] at refused
      subst refused
      have lacking := beq_iff_eq.mp deep
      cases reason with
      | versionNotInteger => exact .unshown ⟨"version", lacking⟩
      | statusNotInteger => exact .unshown ⟨"statusCode", lacking⟩
      | missingPath | missingTarget => cases lacking
  next =>
    split at refused
    · cases refused
    next fault failed =>
      simp only [normalizeRow, Bind.bind, Except.bind, Pure.pure, Except.pure] at failed
      cases named : rowKey row with
      | error other =>
        simp only [named, Except.error.injEq] at failed
        subst failed
        rcases rowKey_eq_error named with ⟨why, rfl, lacking⟩ | ⟨rfl, lone⟩ | mild
        · cases why <;> cases refused
          exact .unshown lacking
        · cases refused
          exact .unspoken lone
        · simp [mild] at refused
      | ok key =>
        simp only [named] at failed
        split at failed
        next other nested =>
          cases failed
          obtain ⟨rfl, value, member, lacking⟩ := checkNesting_eq_error nested
          cases refused
          exact .unshown ⟨"version", List.mem_singleton.mp member ▸ lacking⟩
        next => cases failed

/-- What the normalized form lacks, the row itself lacks: none of these cells belongs to its key. -/
theorem Lacking.lacksText {path : Value} {host : String} {number : Int} {why : Value.Unshown}
    (lacking : Lacking normal why) (keyed : Keyed row normal path host number) :
    LacksText row why := by
  cases lacking with
  | integer column member deep =>
    exact ⟨column, keyed.cell_eq column (apart_of_read (Or.inl member)) ▸ deep⟩
  | text column member lacking =>
    exact ⟨column, keyed.cell_eq column (apart_of_read (Or.inr member)) ▸ lacking⟩

omit [Platform] in
theorem flat_fieldsOfRow {path target : Value} {host : String} {number : Int}
    (textual : (∃ s, path = .text s) ∨ path.isUnpaired = true) :
    ∀ field ∈ fieldsOfRow row defaults path (.text host) (.int number) target,
      field.2.isNested = false := by
  have text {value : Value} (textual : (∃ s, value = .text s) ∨ value.isUnpaired = true) :
      value.isNested = false := by
    rcases textual with ⟨_, rfl⟩ | lone
    · rfl
    · cases value <;> first | rfl | cases lone
  have bound (value : Option Int) : (Value.ofOption .int value).isNested = false := by
    cases value <;> rfl
  have trimmed (value : Value) : (trimmedText value).isNested = false :=
    text ((trimmedText_eq value).imp_left fun same => ⟨_, same⟩)
  have operations : (operationsOf row).isNested = false := by
    unfold operationsOf
    split
    · rfl
    · exact trimmed _
  simp only [fieldsOfRow, List.forall_mem_cons]
  exact ⟨text textual, rfl, rfl, trimmed _, rfl, bound _, bound _, operations, rfl,
    List.forall_mem_nil _⟩

/-- A normalized row has no rule only if a cell of the row is at fault. -/
theorem IsNormal.made_error (isNormal : IsNormal version row normal)
    (failed : ruleOfRow normal defaults = .error fault) :
    (∃ why, fault = .unshown why ∧ LacksText row why) ∨
      ∃ fields, fault = .unpaired fields ∧ HasUnpaired row ∧
        (∃ field ∈ fields, field.2.isUnpaired = true) ∧
        ∀ field ∈ fields, field.2.isNested = false := by
  obtain ⟨path, host, named, keyed⟩ := keyed_of_normalizeRow isNormal.normalized
  obtain ⟨target, has⟩ := target_of_checked isNormal.checked keyed
  have textual := textual_of_rowKey named
  rcases ruleOfRow_cases keyed textual has defaults with
    ⟨why, result, lacking⟩ | ⟨_, rfl, result, among, column, member, lone⟩ | ⟨_, _, result, _⟩
  · cases failed.symm.trans result
    exact Or.inl ⟨why, rfl, lacking.lacksText keyed⟩
  · cases failed.symm.trans result
    refine Or.inr ⟨_, rfl, ?_, among, flat_fieldsOfRow textual⟩
    -- Only the path is not the cell of the row itself.
    simp only [List.mem_cons, List.not_mem_nil, or_false] at member
    rcases member with rfl | rfl | rfl
    · rw [cell, keyed.path] at lone
      exact hasUnpaired_of_rowKey named lone
    · exact ⟨"redirectURL", by simp [textColumns],
        keyed.cell_eq "redirectURL" (by decide) ▸ lone⟩
    · exact ⟨"operations", by simp [textColumns], keyed.cell_eq "operations" (by decide) ▸ lone⟩
  · cases failed.symm.trans result

end

/-! ### Calls on a table -/

section

variable {base next after : RuleBase} {row normal : Row} {rule : Rule} {stored : List Sql.Row}

/-- A row is looked up in a table if its path is of characters, its version fits and the rows with its
key can be read. -/
theorem search_tabled {path : Value} {host : String} {version : Int}
    (tabled : base.stores.Tabled stored) (searchable : base.allow .search = .ok ())
    (keyed : Keyed row normal path host version)
    (textual : (∃ s, path = .text s) ∨ path.isUnpaired = true) :
    (∃ found, base.search (keyCriteria normal) = .ok found ∧ fits version = true) ∨
      (base.search (keyCriteria normal) = .error .integerTooLarge ∧ fits version = false) ∨
      (∃ text, path = .unpaired text ∧
        base.search (keyCriteria normal) = .error (.unencodable text)) ∨
      ∃ other ∈ stored, ∃ problems, Store.ruleOfRow other = .error problems ∧
        base.search (keyCriteria normal) = .error (.invalidRow problems) := by
  obtain ⟨place, database, rules, tables, held⟩ := tabled
  obtain ⟨clauses, made, small⟩ : ∃ clauses, Clause.ofCriteria ruleColumns
      (keyCriteria normal) = .ok (clauses, [path, .text host, .int version]) ∧
        sizeOfAll clauses ≤ 4 := by
    rw [keyCriteria_eq keyed]
    rcases textual with ⟨text, rfl⟩ | lone
    · exact ⟨_, rfl, by simp [sizeOfAll, Clause.size]⟩
    · cases path with
      | unpaired text => exact ⟨_, rfl, by simp [sizeOfAll, Clause.size]⟩
      | _ => cases lone
  -- The key is bound before any row is looked at, so what cannot be bound comes first.
  have called : base.search (keyCriteria normal) =
      database.select "rules" ruleColumns (keyCriteria normal) >>= readRows Store.ruleOfRow := by
    simp only [RuleBase.search, searchable, tables, Stores.searchRules, Stores.queried, made,
      Stores.opened, Tables.searchRules, Bind.bind, Except.bind]
  have checked : (database.limits.check clauses).mapError database.limits.failure = .ok () := by
    rw [Limits.check_of_small small]
    rfl
  simp only [called, Database.select, made, held, checked, Bind.bind, Except.bind, Pure.pure,
    Except.pure]
  rcases textual with ⟨text, rfl⟩ | lone
  · rw [bindAll_key]
    cases fits version with
    | false => exact Or.inr (Or.inl ⟨rfl, rfl⟩)
    | true =>
      simp only [if_true]
      generalize selected : (stored ++ rules.map Rule.row).filter _ = rows
      rcases readRows_cases Store.ruleOfRow rows with
        ⟨found, read⟩ | ⟨other, member, problems, unread, failed⟩
      · exact Or.inl ⟨found, read, trivial⟩
      · -- Rows of rules can be read, so the one at fault was there before.
        rw [← selected] at member
        rcases List.mem_append.mp (List.mem_filter.mp member).1 with there | ours
        · exact Or.inr (Or.inr (Or.inr ⟨other, there, problems, unread, failed⟩))
        · obtain ⟨known, _, rfl⟩ := List.mem_map.mp ours
          rw [ruleOfRow_rowOf known] at unread
          cases unread
  · cases path with
    | unpaired text => exact Or.inr (Or.inr (Or.inl ⟨text, rfl, rfl⟩))
    | _ => cases lone

/-- A table takes a rule unless an integer of it is too large or its id is there already. -/
theorem insertRule_tabled {stores : Stores} (tabled : stores.Tabled stored) (id : String)
    (rule : Rule) :
    (rule.integers.all fits = false ∧ stores.insertRule id rule = .error .integerTooLarge) ∨
      rule.integers.all fits = true ∧
        ((∃ column, stores.insertRule id rule = .error (.notUnique column)) ∨
          ∃ next, stores.insertRule id rule = .ok next ∧ next.Tabled stored) := by
  obtain ⟨path, database, rules, rfl, held⟩ := tabled
  simp only [Stores.insertRule, Stores.changed_present, Tables.insertRule_eq held]
  cases rule.integers.all fits with
  | false => exact Or.inl ⟨rfl, rfl⟩
  | true =>
    refine Or.inr ⟨rfl, ?_⟩
    simp only [if_true]
    split
    · exact Or.inl ⟨_, rfl⟩
    · refine Or.inr ⟨_, rfl, path, _, rules ++ [{ rule with id := some id }], rfl, ?_⟩
      rw [Database.rows_setRows_self held, List.append_assoc, List.map_append]
      rfl

/-- An insertion into a table that nothing keeps from it fails at integers that are too large; any
other failure is the store's own. -/
theorem insert_tabled {answer : Except Failure Rule} (tabled : base.stores.Tabled stored)
    (call : base.insert rule = (next, answer)) :
    (base.obstacle? rule = none ∧ rule.integers.all fits = false ∧
        answer = .error .integerTooLarge) ∨
      (base.obstacle? rule = none → rule.integers.all fits = true) ∧
        ∀ failure, answer = .error failure → failure.isOwn = true := by
  rcases base.insert_cases rule with
    ⟨failure, stopped, result⟩ | ⟨clear, ⟨failure, refused, result⟩ | ⟨stores, taken, result⟩⟩ <;>
      cases call.symm.trans result
  · -- What is in the way is said to be the store's own failure, and the rule gets no further.
    refine Or.inr ⟨fun clear => ?_, fun other same => ?_⟩
    · rw [clear] at stopped
      cases stopped
    · cases same
      exact RuleBase.obstacle?_isOwn stopped
  · rcases insertRule_tabled tabled (base.nextId rule).2 rule with
      ⟨large, failed⟩ | ⟨small, ⟨column, failed⟩ | ⟨_, taken, _⟩⟩
    · cases refused.symm.trans failed
      exact Or.inl ⟨clear, large, rfl⟩
    · cases refused.symm.trans failed
      refine Or.inr ⟨fun _ => small, fun other same => ?_⟩
      cases same
      rfl
    · cases refused.symm.trans taken
  · rcases insertRule_tabled tabled (base.nextId rule).2 rule with ⟨_, failed⟩ | ⟨small, _⟩
    · cases taken.symm.trans failed
    · exact Or.inr ⟨fun _ => small, fun _ failed => nomatch failed⟩

theorem tabled_of_insert {answer : Except Failure Rule} (tabled : base.stores.Tabled stored)
    (call : base.insert rule = (next, answer)) : next.stores.Tabled stored := by
  cases answer with
  | error failure =>
    rw [RuleBase.stores_of_insert_error call]
    exact tabled
  | ok inserted =>
    obtain ⟨id, _, taken⟩ := RuleBase.stores_of_insert_ok call
    rcases insertRule_tabled tabled id rule with
      ⟨_, failed⟩ | ⟨_, ⟨_, failed⟩ | ⟨_, done, kept⟩⟩
    · cases taken.symm.trans failed
    · cases taken.symm.trans failed
    · cases taken.symm.trans done
      exact kept

/-- The integers among fields. -/
def integersAmong (fields : List (String × Value)) : List Int :=
  fields.filterMap fun field =>
    match field.2 with
    | .int n => some n
    | _ => none

/-- Fields with a text that is none of characters are kept from a table by a failure of the store's
own, or an integer among them or that text cannot be bound. -/
theorem insertFields_tabled {fields : List (String × Value)} {failure : Failure}
    (tabled : base.stores.Tabled stored) (lone : ∃ field ∈ fields, field.2.isUnpaired = true)
    (flat : ∀ field ∈ fields, field.2.isNested = false)
    (failed : base.insertFields fields = (next, .error failure)) :
    if (base.allow .insert).isOk && (base.rejection? fields).isNone then
      (failure = .integerTooLarge ∧ (integersAmong fields).all fits = false) ∨
        ∃ text, failure = .unencodable text
    else failure.isOwn = true := by
  obtain ⟨path, database, rules, tables, held⟩ := tabled
  unfold RuleBase.insertFields at failed
  cases allowed : base.allow .insert with
  | error stopped =>
    simp only [allowed, Prod.mk.injEq, Except.error.injEq] at failed
    exact failed.2 ▸ RuleBase.allow_isOwn allowed
  | ok _ =>
    cases rejected : base.rejection? fields with
    | some stopped =>
      simp only [allowed, rejected, Prod.mk.injEq, Except.error.injEq] at failed
      obtain ⟨_, rfl⟩ := failed
      unfold RuleBase.rejection? at rejected
      split at rejected
      · obtain ⟨_, _, rfl⟩ := Option.map_eq_some_iff.mp rejected
        rfl
      · cases rejected
    | none =>
      obtain ⟨all, inserted⟩ : ∃ all, ("id", Value.text (RuleBase.nextId.fresh base).2) :: fields ++
        [("last_accessed", Value.null)] = all := ⟨_, rfl⟩
      have within : ∀ field ∈ fields, field ∈ all := fun field member => by simp [← inserted, member]
      -- The values are bound before anything else is asked of the table.
      obtain ⟨field, member, unpaired⟩ := lone
      obtain ⟨unbound, refused⟩ := bindAll_of_unpaired
        ⟨field.2, List.mem_map_of_mem (within field member), unpaired⟩ 1
      have stores : (RuleBase.nextId.fresh base).1.stores = .tables path (.present database) :=
        tables
      simp only [allowed, rejected, stores, Stores.insertFields, Stores.changed_present,
        Tables.insertFields, Database.insert, held, inserted, refused, Bind.bind, Except.bind]
        at failed
      cases failed
      have allFlat : ∀ value ∈ all.map (·.2), value.isNested = false := by
        rw [← inserted, List.forall_mem_map]
        intro field member
        simp only [List.mem_append, List.mem_cons, List.not_mem_nil, or_false] at member
        rcases member with (rfl | member) | rfl
        · rfl
        · exact flat field member
        · rfl
      refine (bindAll_eq_error refused allFlat).imp_left ?_
      rintro ⟨same, n, among, large⟩
      refine ⟨same, List.all_eq_false.mpr ⟨n, ?_, by simp [large]⟩⟩
      obtain ⟨other, here, is⟩ := List.mem_map.mp among
      simp only [← inserted, List.mem_append, List.mem_cons, List.not_mem_nil, or_false] at here
      rcases here with (rfl | here) | rfl
      · cases is
      · exact List.mem_filterMap.mpr ⟨other, here, by rw [is]⟩
      · cases is

end

/-! ### The integers of an import -/

section

variable [Platform] {base next after : RuleBase} {defaults : Defaults} {version : Int}
  {row normal : Row} {rule : Rule} {stored : List Sql.Row} {fate : Fate} {fates : List Fate}

/-- The integers that come to the rules where what is made of a normalized row is inserted. -/
def insertedIntegers (defaults : Defaults) (base : RuleBase) (normal : Row) : List Int :=
  match base.search (keyCriteria normal), ruleOfRow normal defaults with
  | .ok [], .ok rule => if (base.obstacle? rule).isNone then rule.integers else []
  | .ok [], .error (.unpaired fields) =>
    if (base.allow .insert).isOk && (base.rejection? fields).isNone then integersAmong fields else []
  | _, _ => []

/-- The integers that come to the rules with a row: the version by which it is looked up, and all
integers of what is inserted. -/
def rowIntegers (defaults : Defaults) (version : Int) (base : RuleBase) (row : Row) : List Int :=
  match skipReason? row, normalizeRow row version with
  | none, .ok normal =>
    (cell row "version").integer?.getD version :: insertedIntegers defaults base normal
  | _, _ => []

/-- The integers that come to the rules with the rows, up to where the import ends. -/
def integersAfter (defaults : Defaults) (version : Int) : RuleBase → List Row → List Int
  | _, [] => []
  | base, row :: rest =>
    rowIntegers defaults version base row ++
      match importRow base defaults version row with
      | (_, .error _) => []
      | (next, .ok _) => integersAfter defaults version next rest

/-- The integers that come to the rules in an import. -/
def integersOf (base : RuleBase) (defaults : Defaults) (rows : List Row) : List Int :=
  match Resolve.resolveVersion base.stores .null defaults.version with
  | .error _ => []
  | .ok version => integersAfter defaults version base rows

theorem rowIntegers_of_isNormal (isNormal : IsNormal version row normal) (defaults : Defaults)
    (base : RuleBase) : rowIntegers defaults version base row =
      (cell row "version").integer?.getD version :: insertedIntegers defaults base normal := by
  simp only [rowIntegers, isNormal.checked, isNormal.normalized]

theorem rowIntegers_of_refusal {answer : Except Failure Skip}
    (refused : refusal? version row = some answer) (defaults : Defaults) (base : RuleBase) :
    rowIntegers defaults version base row = [] := by
  unfold rowIntegers
  split
  next normal checked normalized =>
    rw [(IsNormal.mk checked normalized).not_refused] at refused
    cases refused
  next => rfl

theorem insertedIntegers_of_entry (entered : entry? defaults version row = some (normal, rule))
    (absent : base.search (keyCriteria normal) = .ok []) : insertedIntegers defaults base normal =
      if (base.obstacle? rule).isNone then rule.integers else [] := by
  obtain ⟨_, _, made⟩ := entry?_eq_some_iff.mp entered
  simp only [insertedIntegers, absent, made]

/-- A normalized row is looked up in a table, or it breaks the import off there. -/
theorem lookup_tabled (tabled : base.stores.Tabled stored)
    (searchable : base.allow .search = .ok ()) (isNormal : IsNormal version row normal) :
    (∃ found, base.search (keyCriteria normal) = .ok found ∧
        fits ((cell row "version").integer?.getD version) = true) ∨
      ∃ failure, base.search (keyCriteria normal) = .error failure ∧
        ((failure = .integerTooLarge ∧ (rowIntegers defaults version base row).all fits = false) ∨
          AtFault row failure ∨
          ∃ other ∈ stored, ∃ problems, Store.ruleOfRow other = .error problems ∧
            failure = .invalidRow problems) := by
  obtain ⟨path, host, named, keyed⟩ := keyed_of_normalizeRow isNormal.normalized
  rcases search_tabled tabled searchable keyed (textual_of_rowKey named) with
    found | ⟨failed, large⟩ | ⟨text, rfl, failed⟩ | ⟨other, member, problems, unread, failed⟩
  · exact Or.inl found
  · refine Or.inr ⟨_, failed, Or.inl ⟨rfl, ?_⟩⟩
    rw [rowIntegers_of_isNormal isNormal, List.all_cons, large, Bool.false_and]
  · refine Or.inr ⟨_, failed, Or.inr (Or.inl (.unencodable ?_))⟩
    exact hasUnpaired_of_rowKey named rfl
  · exact Or.inr ⟨_, failed, Or.inr (Or.inr ⟨other, member, problems, unread, rfl⟩)⟩

/-- A row that settles has come to the table with integers that fit. -/
theorem Settles.integers_fit (settles : Settles defaults version base row fate next)
    (tabled : base.stores.Tabled stored) (searchable : base.allow .search = .ok ()) :
    (rowIntegers defaults version base row).all fits = true := by
  have looked {normal : Row} {found : List Rule} (isNormal : IsNormal version row normal)
      (searched : base.search (keyCriteria normal) = .ok found)
      (inserted : (insertedIntegers defaults base normal).all fits = true) :
      (rowIntegers defaults version base row).all fits = true := by
    rcases @lookup_tabled _ _ defaults _ _ _ _ tabled searchable isNormal with
      ⟨_, _, small⟩ | ⟨_, failed, _⟩
    · rw [rowIntegers_of_isNormal isNormal, List.all_cons, small, inserted]
      rfl
    · cases searched.symm.trans failed
  cases settles with
  | refused refused => rw [rowIntegers_of_refusal refused, List.all_nil]
  | duplicate isNormal found =>
    refine looked isNormal found ?_
    simp only [insertedIntegers, found, List.all_nil]
  | @failed _ rule _ _ entered absent failed own =>
    refine looked (isNormal_of_entry entered) absent ?_
    rw [insertedIntegers_of_entry entered absent]
    -- An integer that is too large would be no failure of the store's own.
    rcases insert_tabled tabled failed with ⟨_, _, same⟩ | ⟨fitting, _⟩
    · cases same
      cases own
    · cases clear : base.obstacle? rule with
      | none => exact fitting clear
      | some obstacle => rfl
  | unheld isNormal absent made failed own =>
    refine looked isNormal absent ?_
    rcases isNormal.made_error made with ⟨_, same, _⟩ | ⟨_, same, _, lone, flat⟩ <;> cases same
    have cause := insertFields_tabled tabled lone flat failed
    simp only [insertedIntegers, absent, made]
    split at cause
    · rcases cause with ⟨rfl, _⟩ | ⟨_, rfl⟩ <;> cases own
    next stopped => rw [if_neg stopped, List.all_nil]
  | @stored _ rule _ _ entered absent inserted =>
    refine looked (isNormal_of_entry entered) absent ?_
    rw [insertedIntegers_of_entry entered absent]
    rcases insert_tabled tabled inserted with ⟨_, _, same⟩ | ⟨fitting, _⟩
    · cases same
    · cases clear : base.obstacle? rule with
      | none => exact fitting clear
      | some obstacle => rfl

theorem Settles.tabled (settles : Settles defaults version base row fate next)
    (tabled : base.stores.Tabled stored) : next.stores.Tabled stored := by
  cases settles with
  | refused | duplicate => exact tabled
  | failed _ _ failed _ => exact tabled_of_insert tabled failed
  | unheld isNormal _ made failed _ =>
    rw [(kept_of_unheld isNormal made failed).1]
    exact tabled
  | stored _ _ inserted => exact tabled_of_insert tabled inserted

/-- A row breaks the import off because an integer is too large, because a cell is at fault, or because
a row that was in the table before cannot be read. -/
theorem Breaks.cause {failure : Failure} (breaks : Breaks defaults version base row failure next)
    (tabled : base.stores.Tabled stored) (searchable : base.allow .search = .ok ()) :
    (failure = .integerTooLarge ∧ (rowIntegers defaults version base row).all fits = false) ∨
      AtFault row failure ∨
      ∃ other ∈ stored, ∃ problems, Store.ruleOfRow other = .error problems ∧
        failure = .invalidRow problems := by
  cases breaks with
  | unread refused => exact Or.inr (Or.inl (atFault_of_refusal refused))
  | lookup isNormal failed =>
    rcases lookup_tabled tabled searchable isNormal with ⟨_, found, _⟩ | ⟨_, result, cause⟩
    · cases failed.symm.trans found
    · cases failed.symm.trans result
      exact cause
  | unshown isNormal _ made =>
    rcases isNormal.made_error made with ⟨_, same, lacking⟩ | ⟨_, same, _⟩ <;> cases same
    exact Or.inr (Or.inl (.unshown lacking))
  | insertion entered absent failed foreign =>
    rcases insert_tabled tabled failed with ⟨clear, large, same⟩ | ⟨_, own⟩
    · cases same
      refine Or.inl ⟨rfl, ?_⟩
      rw [rowIntegers_of_isNormal (isNormal_of_entry entered),
        insertedIntegers_of_entry entered absent, clear, List.all_cons]
      simp [large]
    · rw [own _ rfl] at foreign
      cases foreign
  | unheld isNormal absent made failed foreign =>
    rcases isNormal.made_error made with ⟨_, same, _⟩ | ⟨_, same, unpaired, lone, flat⟩ <;> cases same
    -- The fields come to the table without a rule: what fails first is an integer or a text of them.
    have cause := insertFields_tabled tabled lone flat failed
    split at cause
    next clear =>
      rcases cause with ⟨rfl, large⟩ | ⟨text, rfl⟩
      · refine Or.inl ⟨rfl, ?_⟩
        rw [rowIntegers_of_isNormal isNormal, List.all_cons]
        simp only [insertedIntegers, absent, made, if_pos clear, large, Bool.and_false]
      · exact Or.inr (Or.inl (.unencodable unpaired))
    next =>
      rw [cause] at foreign
      cases foreign

/-! ### Imports into a table -/

/-- The rows of a course have come to the table with integers that fit. -/
theorem Course.integers_fit {rows : List Row}
    (course : Course defaults version base (rows.map fun row => (base.faults, row)) fates after)
    (tabled : base.stores.Tabled stored) (searchable : base.allow .search = .ok ())
    (later : List Row) :
    after.stores.Tabled stored ∧ after.allow .search = .ok () ∧
      ∃ integers, integers.all fits = true ∧
        integersAfter defaults version base (rows ++ later) =
          integers ++ integersAfter defaults version after later := by
  -- Each row leaves a table of the same kind, in which the next one is taken.
  induction rows generalizing base fates with
  | nil =>
    cases course
    exact ⟨tabled, searchable, [], rfl, rfl⟩
  | cons row rest ih =>
    obtain ⟨fate, next, others, rfl, first, remaining⟩ := course.cons_inv
    have allowed := (RuleBase.allow_of_faults first.faults .search).trans searchable
    obtain ⟨kept, still, integers, small, split⟩ := ih remaining (first.tabled tabled) allowed
    refine ⟨kept, still, rowIntegers defaults version base row ++ integers, ?_, ?_⟩
    · rw [List.all_append, first.integers_fit tabled searchable, small]
      rfl
    · rw [List.cons_append, integersAfter, first.importRow_eq, List.append_assoc, ← split]

/-- An import into a table of rules takes a course through all rows: what the store refuses is
skipped, with what the store says of it, and every row is accounted for. It ends without a report
only at an integer that is too large for a cell, whether a row is looked up or its rule inserted, at a
row with a cell that has no text or one that is none of characters, or where a row that was in the
table before cannot be read as a rule. -/
theorem importRows_into_tables {path : String} {database : Database}
    (tables : base.stores = .tables path (.present database))
    (held : database.rows "rules" = .ok stored) (searchable : base.allow .search = .ok ())
    (resolved : Resolve.resolveVersion base.stores .null defaults.version = .ok version)
    (rows : List Row) :
    (∃ fates after report, importRows base defaults rows = (after, .ok report) ∧
        Course defaults version base (rows.map fun row => (base.faults, row)) fates after ∧
        report.inserted + report.skipped.length = rows.length ∧ report.skipped = skipsOf fates ∧
        (integersOf base defaults rows).all fits = true) ∨
      ((importRows base defaults rows).2 = .error .integerTooLarge ∧
        (integersOf base defaults rows).all fits = false) ∨
      (∃ row ∈ rows, ∃ failure, AtFault row failure ∧
        (importRows base defaults rows).2 = .error failure) ∨
      ∃ row ∈ stored, ∃ problems, Store.ruleOfRow row = .error problems ∧
        (importRows base defaults rows).2 = .error (.invalidRow problems) := by
  have tabled : base.stores.Tabled stored := ⟨path, database, [], tables, by simpa using held⟩
  have integers : integersOf base defaults rows = integersAfter defaults version base rows := by
    simp only [integersOf, resolved]
  have done : importRows base defaults rows = importAfter defaults version {} base rows := by
    simp only [importRows, resolved]
  rw [integers, done]
  rcases importAfter_cases defaults version {} base rows with
    ⟨fates, after, course, result⟩ |
      ⟨before, row, rest, fates, mid, failure, after, rfl, course, breaks, result⟩
  · obtain ⟨_, _, others, small, split⟩ := course.integers_fit tabled searchable []
    have counted := (length_storedOf_add_skipsOf fates).trans course.length_eq
    refine Or.inl ⟨fates, after, _, result, course, ?_, ?_, ?_⟩
    · rw [Report.addAll_eq]
      simpa using counted
    · rw [Report.addAll_eq]
      rfl
    · rw [List.append_nil] at split
      rw [split, integersAfter, List.append_nil]
      exact small
  · -- The integer at which the import ends is the first that does not fit.
    obtain ⟨kept, still, others, _, split⟩ := course.integers_fit tabled searchable (row :: rest)
    rw [result]
    rcases breaks.cause kept still with
      ⟨rfl, large⟩ | fault | ⟨other, member, problems, unread, rfl⟩
    · refine Or.inr (Or.inl ⟨rfl, ?_⟩)
      rw [split, integersAfter, List.all_append, List.all_append, large, Bool.false_and,
        Bool.and_false]
    · exact Or.inr (Or.inr (Or.inl ⟨row, by simp, failure, fault, rfl⟩))
    · exact Or.inr (Or.inr (Or.inr ⟨other, member, problems, unread, rfl⟩))

end

attribute [local instance] Platform.usual

/-- Into a database whose only rule has the first id of the supply, a sheet of three rows is imported:
the first is refused, its id being taken, the second is stored, and the third is a duplicate. -/
theorem importRows_into_tables_taken :
    let old : Rule := ⟨some "id-1", "/old", "", 0, "/to", 301, none, none, none, false, none⟩
    let database := (Store.migrate Store.serviceScripts {}).1.setRows "rules" [old.row]
    let base : RuleBase := { stores := .tables "rules.db" (.present database) }
    let row (path : String) : Row := [("path", .text path), ("redirectURL", .text "/to")]
    let rows := [row "/a", row "/b", row "/old"]
    database.rows "rules" = .ok [old.row] ∧ base.allow .search = .ok () ∧
      Resolve.resolveVersion base.stores .null 0 = .ok 0 ∧
      ∃ fates after report, importRows base {} rows = (after, .ok report) ∧
        report.inserted + report.skipped.length = 3 ∧ report.skipped = skipsOf fates := by
  intro old database base row rows
  have held := migrate_inTables.setRules [old]
  have searchable : base.allow .search = .ok () := rfl
  have resolved : Resolve.resolveVersion base.stores .null 0 = .ok 0 :=
    Resolve.resolveVersion_of_holds (.tables held) .null 0
  have small : (integersOf base {} rows).all fits = true := by
    simp only [base, database, Store.migrate_serviceScripts]
    decide +kernel
  have ends : (importRows base {} rows).2.isOk = true := by
    simp only [base, database, Store.migrate_serviceScripts]
    decide +kernel
  refine ⟨held.rules, searchable, resolved, ?_⟩
  have defaults : ({} : Defaults).version = 0 := rfl
  rcases importRows_into_tables rfl held.rules searchable (defaults ▸ resolved) rows with
    ⟨fates, after, report, imported, _, counted, skipped, _⟩ | ⟨_, large⟩ | ⟨_, _, _, _, failed⟩ |
      ⟨_, member, _, unread, _⟩
  · exact ⟨fates, after, report, imported, counted, skipped⟩
  · rw [small] at large
    cases large
  · rw [failed] at ends
    cases ends
  · cases List.mem_singleton.mp member
    cases unread

/-- Into a fresh database, a sheet is imported whose first row has a status code that is too large for
a cell. The import ends there, and the second row is not looked at. -/
theorem importRows_ends_at_status :
    let database := (Store.migrate Store.serviceScripts {}).1
    let base : RuleBase := { stores := .tables "rules.db" (.present database) }
    let row (path : String) : Row := [("path", .text path), ("redirectURL", .text "/to")]
    let rows := [("statusCode", .int 9223372036854775808) :: row "/a", row "/b"]
    (importRows base {} rows).2 = .error .integerTooLarge ∧
      (importRows base {} rows).1.count = .ok 0 := by
  intro database base row rows
  have ended : (importRows base {} rows).2.map (·.inserted) = .error .integerTooLarge ∧
      (importRows base {} rows).1.count = .ok 0 := by
    simp only [base, database, Store.migrate_serviceScripts]
    decide +kernel
  refine ⟨?_, ended.2⟩
  cases result : (importRows base {} rows).2 with
  | ok report =>
    rw [result] at ended
    cases ended.1
  | error failure =>
    rw [result] at ended
    exact congrArg _ (Except.error.inj ended.1)

end Sheet
end Signpost
