import Signpost.Proofs.Candidates
import Signpost.Proofs.Holdings
import Signpost.Sheet.Import

/-!
# What comes of a row

A row of a sheet is refused before it is looked up, or it has a normalized form, in which it is
looked up. It is skipped if a rule with its key is stored already. Else its entry comes to the
store: the normalized form with the rule that is made of it.

## Main results

`settles_or_breaks`: a row settles with a fate of its own, or it ends the import, because a cell of
it has no text or cannot be bound, or because its rule is refused by a failure that is not the
store's own. `Settles.importRow_eq` and `Breaks.importRow_eq`: what the import of the row then gives
and leaves.

## Proof strategy

The key of a row is looked up in its normalized form, but the rule is built from that form by
reading its fields again. `ruleOfRow_cases` shows that path, host and version come through unchanged,
so the rule has the key that was looked up; it fails only where a cell has no text, or one that is
none of characters.
-/
namespace Signpost

open Store (Failure ruleColumns)

/-! ### Insertions -/

/-- Values of which one is a text that is none of characters cannot be bound. -/
theorem Sql.bindAll_of_unpaired {values : List Value}
    (unpaired : ∃ value ∈ values, value.isUnpaired = true) (place : Nat) :
    ∃ failure, bindAll place values = .error failure := by
  induction values generalizing place with
  | nil =>
    obtain ⟨_, member, _⟩ := unpaired
    cases member
  | cons value rest ih =>
    cases bound : bind place value with
    | error failure => exact ⟨failure, by simp only [bindAll, bound]; rfl⟩
    | ok cell =>
      obtain ⟨found, member, lone⟩ := unpaired
      rcases List.mem_cons.mp member with rfl | later
      · cases found <;> simp_all [Value.isUnpaired, bind]
      · obtain ⟨failure, refused⟩ := ih ⟨found, later, lone⟩ (place + 1)
        exact ⟨failure, by simp only [bindAll, bound, refused]; rfl⟩

theorem Sql.Database.select_of_unpaired (database : Database) (name : String)
    {columns : List Column} {criteria : List Criterion} {clauses : List Clause} {values : List Value}
    (made : Clause.ofCriteria columns criteria = .ok (clauses, values))
    (unpaired : ∃ value ∈ values, value.isUnpaired = true) :
    ∃ failure, database.select name columns criteria = .error failure := by
  obtain ⟨unbound, refused⟩ := bindAll_of_unpaired unpaired 1
  simp only [select, made, refused, Bind.bind, Except.bind]
  cases (database.limits.check clauses).mapError database.limits.failure with
  | error failure => exact ⟨failure, rfl⟩
  | ok _ =>
    cases database.rows name with
    | error failure => exact ⟨failure, rfl⟩
    | ok rows => exact ⟨unbound, rfl⟩

theorem Sql.Database.insert_of_unpaired (database : Database) (name : String)
    (columns : List Column) (key : Option String) {fields : List (String × Value)}
    (unpaired : ∃ value ∈ fields.map (·.2), value.isUnpaired = true) :
    ∃ failure, database.insert name columns key fields = .error failure := by
  unfold insert
  cases database.rows name with
  | error failure => exact ⟨failure, rfl⟩
  | ok rows =>
    obtain ⟨failure, refused⟩ := bindAll_of_unpaired unpaired 1
    exact ⟨failure, by simp only [refused, Bind.bind, Except.bind]⟩

/-- Stores never take the fields of a record that would hold a text that is none of characters. -/
theorem Stores.insertFields_fails (stores : Stores) (id : String) {fields : List (String × Value)}
    (unpaired : ∃ field ∈ fields, field.2.isUnpaired = true) :
    ∃ failure, stores.insertFields id fields = .error failure := by
  obtain ⟨field, member, lone⟩ := unpaired
  cases stores with
  | memory m => exact ⟨.unspoken, rfl⟩
  | tables path file =>
    simp only [insertFields, changed]
    cases opened path file with
    | error failure => exact ⟨failure, rfl⟩
    | ok database =>
      have among : field ∈ ("id", Value.text id) :: fields ++ [("last_accessed", Value.null)] := by
        simp [member]
      obtain ⟨failure, refused⟩ :=
        database.insert_of_unpaired "rules" ruleColumns (some "id")
          ⟨field.2, List.mem_map_of_mem among, lone⟩
      exact ⟨failure, by simp only [Store.Tables.insertFields, refused, Bind.bind, Except.bind]⟩

namespace RuleBase

/-- The failure in the way of an insertion, which keeps it from the stores. -/
def obstacle? (base : RuleBase) (rule : Rule) : Option Failure :=
  match base.allow .insert with
  | .error failure => some failure
  | .ok () => (base.faults.paths.lookup rule.path).map .rejected

variable {base : RuleBase} {rule : Rule}

theorem nextId_stores (base : RuleBase) (rule : Rule) :
    (base.nextId rule).1.stores = base.stores := by
  unfold RuleBase.nextId
  split <;> rfl

theorem nextId_faults (base : RuleBase) (rule : Rule) :
    (base.nextId rule).1.faults = base.faults := by
  unfold RuleBase.nextId
  split <;> rfl

theorem allow_of_faults {next : RuleBase} (same : next.faults = base.faults) (call : Call) :
    next.allow call = base.allow call := by
  rw [allow, allow, same]

theorem allow_isOwn {call : Call} {failure : Failure} (stopped : base.allow call = .error failure) :
    failure.isOwn = true := by
  unfold allow at stopped
  split at stopped
  · cases stopped
    rfl
  · cases stopped

theorem obstacle?_isOwn {failure : Failure} (stopped : base.obstacle? rule = some failure) :
    failure.isOwn = true := by
  unfold obstacle? at stopped
  split at stopped
  next failure denied =>
    cases stopped
    exact allow_isOwn denied
  next =>
    obtain ⟨message, _, rfl⟩ := Option.map_eq_some_iff.mp stopped
    rfl

/-- An insertion is stopped by a failure in the way, or the stores take the rule under the next id
or refuse it. -/
theorem insert_cases (base : RuleBase) (rule : Rule) :
    (∃ failure, base.obstacle? rule = some failure ∧ base.insert rule = (base, .error failure)) ∨
    base.obstacle? rule = none ∧
      ((∃ failure, base.stores.insertRule (base.nextId rule).2 rule = .error failure ∧
          base.insert rule = ((base.nextId rule).1, .error failure)) ∨
        ∃ stores, base.stores.insertRule (base.nextId rule).2 rule = .ok stores ∧
          base.insert rule = ({ (base.nextId rule).1 with stores },
            .ok { rule with id := some (base.nextId rule).2 })) := by
  unfold obstacle? insert
  cases base.allow .insert with
  | error failure => exact Or.inl ⟨failure, rfl, rfl⟩
  | ok _ =>
    cases base.faults.paths.lookup rule.path with
    | some message => exact Or.inl ⟨.rejected message, rfl, rfl⟩
    | none =>
      refine Or.inr ⟨rfl, ?_⟩
      simp only [nextId_stores]
      cases base.stores.insertRule (base.nextId rule).2 rule with
      | error failure => exact Or.inl ⟨failure, rfl, rfl⟩
      | ok stores => exact Or.inr ⟨stores, rfl, rfl⟩

/-- An insertion that fails leaves the stores as they are. -/
theorem stores_of_insert_error {next : RuleBase} {failure : Failure}
    (refused : base.insert rule = (next, .error failure)) : next.stores = base.stores := by
  rcases insert_cases base rule with
    ⟨_, _, result⟩ | ⟨_, ⟨_, _, result⟩ | ⟨_, _, result⟩⟩ <;> cases refused.symm.trans result
  · rfl
  · exact nextId_stores base rule

/-- An insertion leaves the failures in the way as they are. -/
theorem faults_of_insert {next : RuleBase} {answer : Except Failure Rule}
    (call : base.insert rule = (next, answer)) : next.faults = base.faults := by
  rcases insert_cases base rule with
    ⟨_, _, result⟩ | ⟨_, ⟨_, _, result⟩ | ⟨_, _, result⟩⟩ <;> cases call.symm.trans result
  · rfl
  · exact nextId_faults base rule
  · exact nextId_faults base rule

/-- An insertion that succeeds puts the rule into the stores under the id that it returns. -/
theorem stores_of_insert_ok {next : RuleBase} {stored : Rule}
    (inserted : base.insert rule = (next, .ok stored)) :
    ∃ id, stored = { rule with id := some id } ∧
      base.stores.insertRule id rule = .ok next.stores := by
  rcases insert_cases base rule with
    ⟨_, _, result⟩ | ⟨_, ⟨_, _, result⟩ | ⟨stores, taken, result⟩⟩ <;>
      cases inserted.symm.trans result
  exact ⟨_, rfl, taken⟩

/-- Fields that a record cannot hold are never stored. -/
theorem insertFields_fails {fields : List (String × Value)} (base : RuleBase)
    (unpaired : ∃ field ∈ fields, field.2.isUnpaired = true) :
    ∃ next failure, base.insertFields fields = (next, .error failure) ∧
      next.stores = base.stores ∧ next.faults = base.faults := by
  unfold insertFields
  cases base.allow .insert with
  | error failure => exact ⟨base, failure, rfl, rfl, rfl⟩
  | ok _ =>
    cases base.rejection? fields with
    | some failure => exact ⟨base, failure, rfl, rfl, rfl⟩
    | none =>
      obtain ⟨failure, refused⟩ :=
        (nextId.fresh base).1.stores.insertFields_fails (nextId.fresh base).2 unpaired
      exact ⟨(nextId.fresh base).1, failure, by simp only [refused], rfl, rfl⟩

end RuleBase

namespace Sheet

/-! ### Normalized rows -/

/-- The row with another path, host and version. -/
structure Keyed (row normal : Row) (path : Value) (host : String) (version : Int) : Prop where
  path : normal.lookup "path" = some path
  host : normal.lookup "host" = some (.text host)
  version : normal.lookup "version" = some (.int version)
  others : ∀ column, column ≠ "path" → column ≠ "host" → column ≠ "version" →
    normal.lookup column = row.lookup column

/-- The rule of a row with the path, host, version and target. -/
def keyedRule (row : Row) (defaults : Defaults) (path host : String) (version : Int)
    (target : Value) : Rule where
  id := none
  path := path
  host := host
  version := version
  target := trimmed target
  status := (cell row "statusCode").integer?.getD defaults.status
  start := (cell row "utcStartTime").integer?
  stop := (cell row "utcEndTime").integer?
  operations := if (cell row "operations").isBlank then none else some (trimmed (cell row "operations"))
  isPattern := isPatternRow row
  lastAccessed := none

section

variable {row normal : Row} {path target : Value} {host : String} {version : Int}
  {defaults : Defaults} {rule : Rule}

theorem Keyed.cell_eq (keyed : Keyed row normal path host version) (column : String)
    (other : column ≠ "path" ∧ column ≠ "host" ∧ column ≠ "version") :
    cell normal column = cell row column :=
  congrArg (·.getD .null) (keyed.others column other.1 other.2.1 other.2.2)

theorem Keyed.isPatternRow_eq (keyed : Keyed row normal path host version) :
    isPatternRow normal = isPatternRow row := by
  simp only [isPatternRow, keyed.cell_eq "isRegex" (by decide)]

theorem trimmedText_eq (value : Value) :
    trimmedText value = .text (trimmed value) ∨ (trimmedText value).isUnpaired = true := by
  cases value <;> simp [trimmedText, Value.isUnpaired]

theorem asText_eq (value : Value) :
    asText value = .text value.display ∨ (asText value).isUnpaired = true := by
  cases value <;> simp [asText, Value.isUnpaired]

theorem nullable_integer_ofOption (value : Option Int) :
    Schema.nullable Schema.integer (.ofOption .int value) = .ok value := by
  cases value <;> rfl

theorem nullable_operationsOf {text : String} (texts : (operationsOf row).isUnpaired = false) :
    Schema.nullable Schema.text (operationsOf row) =
      .ok (keyedRule row defaults text host version target).operations := by
  unfold operationsOf at texts ⊢
  simp only [keyedRule]
  split
  · rfl
  next given =>
    rw [if_neg given] at texts
    rcases trimmedText_eq (cell row "operations") with text | lone
    · rw [text]
      rfl
    · exact absurd (texts.symm.trans lone) (by decide)

end
section

variable {row : Row} {path target : Value} {host : String} {version : Int} {defaults : Defaults}

section

variable {fields : List (String × Value)}

-- The definition is opened as it stands: its equation would be found by reading the fields.
theorem ruleOfFields_of_read (read : Rule.ofFields fields = .ok rule) :
    ruleOfFields fields = .ok rule := by
  delta ruleOfFields
  rw [read]

theorem ruleOfFields_of_problems {problems : List Schema.Problem}
    (found : Rule.ofFields fields = .error problems) :
    ruleOfFields fields =
      if (Schema.proper problems).isEmpty then .error (.unpaired fields)
      else .error (.invalid (Schema.proper problems)) := by
  delta ruleOfFields
  rw [found]

end

/-- The fields of a row, of which the path is a text of some kind, are those of a rule if their texts
are all of characters. -/
theorem ruleOfFields_of_texts {text : String} (pathText : path = .text text)
    (targetText : (trimmedText target).isUnpaired = false)
    (operationsText : (operationsOf row).isUnpaired = false) :
    ruleOfFields (fieldsOfRow row defaults path (.text host) (.int version) target) =
      .ok (keyedRule row defaults text host version target) := by
  have trimmedTarget : trimmedText target = .text (trimmed target) :=
    (trimmedText_eq target).resolve_right fun lone => by simp [targetText] at lone
  subst pathText
  refine ruleOfFields_of_read ?_
  rw [fieldsOfRow, trimmedTarget]
  exact Rule.ofFields_eq (keyedRule row defaults text host version target) rfl rfl rfl rfl rfl rfl
    (Schema.optional_eq rfl (nullable_integer_ofOption _))
    (Schema.optional_eq rfl (nullable_integer_ofOption _))
    (Schema.optional_eq rfl (nullable_operationsOf operationsText)) rfl rfl

/-- A text is read, or it is none of characters; nothing else can be wrong with it. -/
theorem problems_text {value : Value} (textual : (∃ s, value = .text s) ∨ value.isUnpaired = true)
    (place : List String) : (Schema.readAt place Schema.text value).problems =
      if value.isUnpaired then [⟨place, .unpaired⟩] else [] := by
  rcases textual with ⟨s, rfl⟩ | lone
  · rfl
  · cases value with
    | unpaired u => rfl
    | _ => cases lone

theorem problems_operationsOf (row : Row) (place : List String) :
    (Schema.readAt place (Schema.nullable Schema.text) (operationsOf row)).problems =
      if (operationsOf row).isUnpaired then [⟨place, .unpaired⟩] else [] := by
  unfold operationsOf
  split
  · rfl
  · cases cell row "operations" <;> rfl

theorem problems_fieldsOfRow (textual : (∃ s, path = .text s) ∨ path.isUnpaired = true) :
    (Rule.ofFields (fieldsOfRow row defaults path (.text host) (.int version) target)).problems =
      (if path.isUnpaired then [⟨["path"], .unpaired⟩] else []) ++
        (if (trimmedText target).isUnpaired then [⟨["redirect_url"], .unpaired⟩] else []) ++
        if (operationsOf row).isUnpaired then [⟨["operations"], .unpaired⟩] else [] := by
  have ofTarget := problems_text ((trimmedText_eq target).imp_left fun text => ⟨_, text⟩)
    ["redirect_url"]
  have bound (name : String) (value : Option Int) : (Schema.readAt [name]
      (Schema.nullable Schema.integer) (.ofOption .int value)).problems = [] := by
    simp [Schema.readAt, nullable_integer_ofOption, Schema.Checked.problems]
  -- Fields that are not named here are absent, or read whatever stands in the row.
  have read : (Rule.ofFields (fieldsOfRow row defaults path (.text host) (.int version)
      target)).problems =
      [] ++ [] ++ (Schema.readAt ["path"] Schema.text path).problems ++ [] ++ [] ++
        (Schema.readAt ["redirect_url"] Schema.text (trimmedText target)).problems ++ [] ++
        (Schema.readAt ["utc_start_time"] (Schema.nullable Schema.integer)
          (.ofOption .int (cell row "utcStartTime").integer?)).problems ++
        (Schema.readAt ["utc_end_time"] (Schema.nullable Schema.integer)
          (.ofOption .int (cell row "utcEndTime").integer?)).problems ++
        (Schema.readAt ["operations"] (Schema.nullable Schema.text) (operationsOf row)).problems ++
        [] ++ [] := by
    simp only [Rule.ofFields, Schema.problems_ap]
    rfl
  rw [read, problems_text textual, ofTarget, bound, bound, problems_operationsOf]
  simp only [List.nil_append, List.append_nil]

/-- Where a text of the fields is none of characters, this is all that is wrong with them. -/
theorem ruleOfFields_of_unpaired (textual : (∃ s, path = .text s) ∨ path.isUnpaired = true)
    (unpaired : path.isUnpaired = true ∨ (trimmedText target).isUnpaired = true ∨
      (operationsOf row).isUnpaired = true) :
    let fields := fieldsOfRow row defaults path (.text host) (.int version) target
    (∃ field ∈ fields, field.2.isUnpaired = true) ∧
      ruleOfFields fields = .error (.unpaired fields) := by
  intro fields
  refine ⟨?_, ?_⟩
  · rcases unpaired with lone | lone | lone
    · exact ⟨("path", path), by simp [fields, fieldsOfRow], lone⟩
    · exact ⟨("redirect_url", trimmedText target), by simp [fields, fieldsOfRow], lone⟩
    · exact ⟨("operations", operationsOf row), by simp [fields, fieldsOfRow], lone⟩
  · have found : (Rule.ofFields fields).problems = _ := problems_fieldsOfRow textual
    cases read : Rule.ofFields fields with
    | ok rule =>
      rw [read] at found
      rcases unpaired with lone | lone | lone <;> simp [lone, Schema.Checked.problems] at found
    | error problems =>
      have proper : Schema.proper problems = [] := by
        rw [read, Schema.Checked.problems] at found
        rw [found]
        simp only [Schema.proper, List.filter_append]
        split <;> split <;> split <;> rfl
      rw [ruleOfFields_of_problems read, proper]
      rfl

end

section

variable [Platform] {row normal : Row} {path target : Value} {host : String} {version default : Int}
  {defaults : Defaults} {rule : Rule}

theorem checkShown_eq_ok_iff {values : List Value} :
    checkShown values = .ok () ↔ ∀ value ∈ values, unshown? value = none := by
  induction values with
  | nil => simp [checkShown]
  | cons value rest ih =>
    rw [checkShown, List.forall_mem_cons]
    cases shown : unshown? value with
    | some why => simp
    | none => simp [ih]

theorem checkNesting_eq_ok_iff {values : List Value} :
    checkNesting values = .ok () ↔ ∀ value ∈ values, isTooDeep value = false := by
  simp [checkNesting]

theorem checkShown_eq_error {values : List Value} {fault : RowFault}
    (failed : checkShown values = .error fault) :
    ∃ value ∈ values, ∃ why, unshown? value = some why ∧ fault = .unshown why := by
  induction values with
  | nil => cases failed
  | cons value rest ih =>
    unfold checkShown at failed
    split at failed
    next why lacking => exact ⟨value, .head _, why, lacking, (Except.error.inj failed).symm⟩
    next =>
      obtain ⟨other, member, found⟩ := ih failed
      exact ⟨other, .tail _ member, found⟩

theorem checkNesting_eq_error {values : List Value} {fault : RowFault}
    (failed : checkNesting values = .error fault) :
    fault = .unshown .tooDeep ∧ ∃ value ∈ values, unshown? value = some .tooDeep := by
  unfold checkNesting at failed
  split at failed
  next deep =>
    obtain ⟨value, member, lacking⟩ := List.any_eq_true.mp deep
    exact ⟨(Except.error.inj failed).symm, value, member, beq_iff_eq.mp lacking⟩
  next => cases failed

/-- The key of a pattern row is its path as it stands; that of any other row is taken from the URL in
its path. -/
theorem rowKey_eq_ok (named : rowKey row = .ok (path, host)) : ∃ given, row.lookup "path" = some given ∧
    if isPatternRow row then path = asText given ∧ host = rowHost row
    else ∃ location, Url.Location.ofText (trimmed given) = .ok location ∧
      path = .text location.pathWithQuery ∧
      host = if location.host == "" then rowHost row else location.host := by
  simp only [rowKey, needed, Bind.bind, Except.bind, Pure.pure, Except.pure] at named
  split at named
  · cases named
  cases has : row.lookup "path" with
  | none => simp [has] at named
  | some given =>
    refine ⟨given, rfl, ?_⟩
    simp only [has] at named
    split at named
    · cases named
    split
    next isPattern =>
      rw [if_pos isPattern] at named
      cases named
      exact ⟨rfl, rfl⟩
    next isPlain =>
      rw [if_neg isPlain] at named
      split at named
      · cases named
      cases read : Url.Location.ofText (trimmed given) with
      | error malformed => simp [read, Except.mapError] at named
      | ok location =>
        simp only [read, Except.mapError, Except.ok.injEq, Prod.mk.injEq] at named
        exact ⟨location, rfl, named.1.symm, named.2.symm⟩

/-- The path of a key is a text, of characters or not. -/
theorem textual_of_rowKey (named : rowKey row = .ok (path, host)) :
    (∃ s, path = .text s) ∨ path.isUnpaired = true := by
  obtain ⟨given, _, key⟩ := rowKey_eq_ok named
  split at key
  · rw [key.1]
    exact (asText_eq given).imp_left fun text => ⟨_, text⟩
  · obtain ⟨location, _, rfl, _⟩ := key
    exact Or.inl ⟨_, rfl⟩

/-- A normalized row has the path and host of the row's key, and a version that is an integer. -/
theorem keyed_of_normalizeRow (normalized : normalizeRow row default = .ok normal) :
    ∃ path host, rowKey row = .ok (path, host) ∧
      Keyed row normal path host ((cell row "version").integer?.getD default) := by
  simp only [normalizeRow, Bind.bind, Except.bind, Pure.pure, Except.pure] at normalized
  cases keyed : rowKey row with
  | error fault => simp [keyed] at normalized
  | ok key =>
    simp only [keyed] at normalized
    split at normalized
    · cases normalized
    · cases normalized
      refine ⟨key.1, key.2, rfl, ?_, ?_, ?_, ?_⟩
      · simp [Value.lookup_setField]
      · simp [Value.lookup_setField]
      · simp [Value.lookup_setField]
      · intro column notPath notHost notVersion
        simp [Value.lookup_setField, notPath, notHost, notVersion]

/-- The cells that the rule of a normalized row is made of have texts, and these are of characters. -/
structure Legible (normal : Row) : Prop where
  integers : ∀ column ∈ ["statusCode", "utcStartTime", "utcEndTime"],
    isTooDeep (cell normal column) = false
  texts : ∀ column ∈ ["redirectURL", "operations", "isRegex"], unshown? (cell normal column) = none
  paired : ∀ column ∈ ["path", "redirectURL", "operations"],
    (cell normal column).isUnpaired = false

omit [Platform] in
theorem isUnpaired_trimmedText (value : Value) :
    (trimmedText value).isUnpaired = value.isUnpaired := by
  cases value <;> rfl

omit [Platform] in
theorem isUnpaired_operationsOf (row : Row) :
    (operationsOf row).isUnpaired = (cell row "operations").isUnpaired := by
  unfold operationsOf
  split
  next blank =>
    cases given : cell row "operations" with
    | unpaired u => simp [given, Value.isBlank] at blank
    | _ => rfl
  next => exact isUnpaired_trimmedText _

/-- A cell has no text where the rule of a row needs one, for the reason. -/
inductive Lacking (normal : Row) : Value.Unshown → Prop
  | integer (column : String) (member : column ∈ ["statusCode", "utcStartTime", "utcEndTime"])
    (deep : unshown? (cell normal column) = some .tooDeep) : Lacking normal .tooDeep
  | text (column : String) (member : column ∈ ["redirectURL", "operations", "isRegex"])
    {why : Value.Unshown} (lacking : unshown? (cell normal column) = some why) : Lacking normal why

theorem Legible.not_lacking (legible : Legible normal) {why : Value.Unshown} :
    ¬ Lacking normal why := by
  rintro (⟨column, member, deep⟩ | ⟨column, member, lacking⟩)
  · simpa [isTooDeep, deep] using legible.integers column member
  · simpa [lacking] using legible.texts column member

omit [Platform] in
theorem apart_of_read {column : String} (read : column ∈ ["statusCode", "utcStartTime", "utcEndTime"] ∨
    column ∈ ["redirectURL", "operations", "isRegex"]) :
    column ≠ "path" ∧ column ≠ "host" ∧ column ≠ "version" := by
  rcases read with member | member <;> revert column <;> decide

/-- What a normalized row with a target comes to: a cell lacks its text, or the text of one is none of
characters, or there is a rule, into which path, host and version come unchanged. -/
theorem ruleOfRow_cases (keyed : Keyed row normal path host version)
    (textual : (∃ s, path = .text s) ∨ path.isUnpaired = true)
    (has : normal.lookup "redirectURL" = some target) (defaults : Defaults) :
    (∃ why, ruleOfRow normal defaults = .error (.unshown why) ∧ Lacking normal why) ∨
    (∃ fields, fields = fieldsOfRow normal defaults path (.text host) (.int version) target ∧
      ruleOfRow normal defaults = .error (.unpaired fields) ∧
      (∃ field ∈ fields, field.2.isUnpaired = true) ∧
      ∃ column ∈ ["path", "redirectURL", "operations"], (cell normal column).isUnpaired = true) ∨
    ∃ text, path = .text text ∧
      ruleOfRow normal defaults = .ok (keyedRule normal defaults text host version target) ∧
      Legible normal := by
  have atPath : cell normal "path" = path := by rw [cell, keyed.path, Option.getD_some]
  have atTarget : cell normal "redirectURL" = target := by rw [cell, has, Option.getD_some]
  simp only [ruleOfRow, needed, keyed.path, keyed.host, keyed.version, has, Bind.bind, Except.bind]
  -- The cells are checked in the order in which the rule takes them.
  split
  next nested =>
    obtain ⟨rfl, value, member, deep⟩ := checkNesting_eq_error nested
    rw [List.mem_singleton.mp member] at deep
    exact Or.inl ⟨_, rfl, .integer "statusCode" (by simp) deep⟩
  next status =>
  split
  next unshown =>
    obtain ⟨value, member, why, lacking, rfl⟩ := checkShown_eq_error unshown
    rw [List.mem_singleton.mp member, ← atTarget] at lacking
    exact Or.inl ⟨why, rfl, .text "redirectURL" (by simp) lacking⟩
  next shown =>
  split
  next nested =>
    obtain ⟨rfl, value, member, deep⟩ := checkNesting_eq_error nested
    simp only [List.mem_cons, List.not_mem_nil, or_false] at member
    rcases member with rfl | rfl
    · exact Or.inl ⟨_, rfl, .integer "utcStartTime" (by simp) deep⟩
    · exact Or.inl ⟨_, rfl, .integer "utcEndTime" (by simp) deep⟩
  next bounds =>
  split
  next unshown =>
    obtain ⟨value, member, why, lacking, rfl⟩ := checkShown_eq_error unshown
    simp only [List.mem_cons, List.not_mem_nil, or_false] at member
    rcases member with rfl | rfl
    · exact Or.inl ⟨why, rfl, .text "operations" (by simp) lacking⟩
    · exact Or.inl ⟨why, rfl, .text "isRegex" (by simp) lacking⟩
  next texts =>
  -- Every cell has its text, and it only matters whether these are of characters.
  refine Or.inr ?_
  by_cases unpaired : path.isUnpaired = true ∨ (trimmedText target).isUnpaired = true ∨
      (operationsOf normal).isUnpaired = true
  · obtain ⟨among, failed⟩ := ruleOfFields_of_unpaired textual unpaired
    refine Or.inl ⟨_, rfl, failed, among, ?_⟩
    rw [isUnpaired_trimmedText, isUnpaired_operationsOf, ← atTarget, ← atPath] at unpaired
    simpa using unpaired
  · simp only [not_or, Bool.not_eq_true] at unpaired
    obtain ⟨pathText, targetText, operationsText⟩ := unpaired
    obtain ⟨text, isText⟩ := textual.resolve_right (by simp [pathText])
    refine Or.inr ⟨text, isText, ruleOfFields_of_texts isText targetText operationsText, ?_⟩
    rw [isUnpaired_trimmedText] at targetText
    rw [isUnpaired_operationsOf] at operationsText
    rw [checkNesting_eq_ok_iff] at status bounds
    rw [checkShown_eq_ok_iff] at shown texts
    constructor <;> simp_all

/-- A rule made of a normalized row has the key of the row, and no id yet. -/
theorem of_ruleOfRow (keyed : Keyed row normal path host version)
    (textual : (∃ s, path = .text s) ∨ path.isUnpaired = true)
    (made : ruleOfRow normal defaults = .ok rule) :
    path = .text rule.path ∧ rule.host = host ∧ rule.version = version ∧
      rule.isPattern = isPatternRow row ∧ rule.id = none := by
  cases has : normal.lookup "redirectURL" with
  | none =>
    simp only [ruleOfRow, needed, keyed.path, keyed.host, keyed.version, has, Bind.bind,
      Except.bind] at made
    split at made <;> cases made
  | some target =>
    rcases ruleOfRow_cases keyed textual has defaults with
      ⟨_, failed, _⟩ | ⟨_, _, failed, _⟩ | ⟨text, rfl, result, _⟩
    · cases made.symm.trans failed
    · cases made.symm.trans failed
    · cases made.symm.trans result
      exact ⟨rfl, rfl, rfl, keyed.isPatternRow_eq, rfl⟩

end

/-! ### Looking up a key -/

section

variable {row normal : Row} {text host : String} {version : Int} {base : RuleBase} {rules : List Rule}

theorem keyCriteria_eq {path : Value} (keyed : Keyed row normal path host version) :
    keyCriteria normal = [.one (.equals "path" path), .one (.equals "host" (.text host)),
      .one (.equals "version" (.int version))] := by
  simp only [keyCriteria, cell, List.map_cons, List.map_nil, keyed.path, keyed.host, keyed.version,
    Option.getD_some]

theorem keyCriteria_suits (keyed : Keyed row normal (.text text) host version) :
    ∀ criterion ∈ keyCriteria normal, criterion.suits ruleColumns = true := by
  rw [keyCriteria_eq keyed]
  simp only [List.forall_mem_cons]
  exact ⟨rfl, rfl, rfl, fun _ member => nomatch member⟩

/-- The criteria for a key hold of the rules that have it. -/
theorem satisfies_keyCriteria (keyed : Keyed row normal (.text text) host version) (rule : Rule) :
    satisfies (keyCriteria normal) rule.attributes = true ↔ rule.key = (text, host, version) := by
  rw [satisfies_iff, keyCriteria_eq keyed]
  simp [Criterion.holds, Rule.holds_path, Rule.holds_host, Rule.holds_version, Rule.key]

/-- A key that is looked up and not found is the key of no stored rule. -/
theorem key_ne_of_search (held : base.stores.HoldRules rules)
    (keyed : Keyed row normal (.text text) host version)
    (searched : base.search (keyCriteria normal) = .ok []) :
    ∀ other ∈ rules, other.key ≠ (text, host, version) := by
  have found : base.stores.searchRules (keyCriteria normal) = .ok [] :=
    RuleBase.ok_of_allowed searched
  -- A rule with the key would have been found.
  obtain ⟨hosts, versions, holds⟩ := held
  have none := Stores.eq_filter_of_searchRules holds (keyCriteria_suits keyed) found
  intro other member same
  have kept : other ∈ rules.filter fun rule =>
      satisfies (keyCriteria normal) rule.attributes :=
    List.mem_filter.mpr ⟨member, (satisfies_keyCriteria keyed other).mpr same⟩
  rw [← none] at kept
  cases kept

/-- A rule in memory has no path that is none of characters. -/
theorem select_unpaired {path : Value} (lone : path.isUnpaired = true) (others : Others)
    (criteria : List Criterion) (rules : List Rule) :
    select others Rule.attributes (.one (.equals "path" path) :: criteria) rules = .ok [] := by
  induction rules with
  | nil => rfl
  | cons rule rest ih =>
    have missed : (Condition.equals "path" path).holds others rule.attributes = .ok false := by
      cases path with
      | unpaired u => rfl
      | _ => cases lone
    simp only [select, recordMatches, Criterion.holds, missed, ih]
    rfl

/-- A path that is none of characters is found nowhere; only a store in memory can be asked for it. -/
theorem search_unpaired {path : Value} (keyed : Keyed row normal path host version)
    (lone : path.isUnpaired = true) :
    base.search (keyCriteria normal) = .ok [] ∨
      ∃ failure, base.search (keyCriteria normal) = .error failure := by
  simp only [RuleBase.search, Bind.bind, Except.bind, keyCriteria_eq keyed]
  cases base.allow .search with
  | error failure => exact Or.inr ⟨failure, rfl⟩
  | ok _ =>
    cases base.stores with
    | memory m =>
      simp only [Stores.searchRules, Store.Memory.searchRules, Store.search, select_unpaired lone]
      exact Or.inl rfl
    | tables file database =>
      refine Or.inr ?_
      obtain ⟨clauses, made⟩ : ∃ clauses, Sql.Clause.ofCriteria ruleColumns
          [.one (.equals "path" path), .one (.equals "host" (.text host)),
            .one (.equals "version" (.int version))] =
          .ok (clauses, [path, .text host, .int version]) := by
        cases path with
        | unpaired u => exact ⟨_, rfl⟩
        | _ => cases lone
      simp only [Stores.searchRules, Stores.queried, made, Bind.bind, Except.bind]
      cases Stores.opened file database with
      | error failure => exact ⟨failure, rfl⟩
      | ok database =>
        obtain ⟨failure, refused⟩ := database.select_of_unpaired "rules" made ⟨path, .head _, lone⟩
        exact ⟨failure, by simp only [Store.Tables.searchRules, refused]; rfl⟩

/-- The path of a key that is found is one of characters. -/
theorem text_of_search {path : Value} (keyed : Keyed row normal path host version)
    (textual : (∃ s, path = .text s) ∨ path.isUnpaired = true) {other : Rule} {others : List Rule}
    (searched : base.search (keyCriteria normal) = .ok (other :: others)) :
    ∃ text, path = .text text := by
  refine textual.resolve_right fun lone => ?_
  rcases search_unpaired keyed lone with absent | ⟨failure, failed⟩
  · cases searched.symm.trans absent
  · cases searched.symm.trans failed

end

/-! ### Entries -/

section

variable [Platform]

/-- What comes of a row that is not looked up: the skip of a row that fails the checks or whose path is
no URL, or a failure if a cell has no text. -/
def refusal? (version : Int) (row : Row) : Option (Except Failure Skip) :=
  match skipReason? row with
  | some reason =>
    some (if isTooDeep (reason.asked row) then .error (.unshown .tooDeep)
      else .ok ⟨reason.message, row⟩)
  | none =>
    match normalizeRow row version with
    | .ok _ => none
    | .error fault =>
      some (match fault.beforeKey? with
        | some failure => .error failure
        | none => .ok ⟨"invalid path: " ++ fault.message, row⟩)

/-- The row passes the checks and has the normalized form. -/
structure IsNormal (version : Int) (row normal : Row) : Prop where
  checked : skipReason? row = none
  normalized : normalizeRow row version = .ok normal

/-- The normalized form of a row that passes the checks, and the rule that is made of it. -/
def entry? (defaults : Defaults) (version : Int) (row : Row) : Option (Row × Rule) :=
  match skipReason? row, normalizeRow row version with
  | none, .ok normal => (ruleOfRow normal defaults).toOption.map fun rule => (normal, rule)
  | _, _ => none

variable {row normal : Row} {path target : Value} {host : String} {version : Int}
  {defaults : Defaults} {rule : Rule} {base next : RuleBase} {answer : Except Failure Skip}

theorem entry?_eq_some_iff : entry? defaults version row = some (normal, rule) ↔
    skipReason? row = none ∧ normalizeRow row version = .ok normal ∧
      ruleOfRow normal defaults = .ok rule := by
  unfold entry?
  constructor
  · intro entered
    split at entered
    next checked normalized =>
      obtain ⟨made, built, same⟩ := Option.map_eq_some_iff.mp entered
      cases same
      refine ⟨checked, normalized, ?_⟩
      cases result : ruleOfRow normal defaults with
      | error fault => simp [result, Except.toOption] at built
      | ok other => simpa [result, Except.toOption] using built
    next => cases entered
  · rintro ⟨checked, normalized, made⟩
    simp only [checked, normalized, made]
    rfl

theorem isNormal_of_entry (entered : entry? defaults version row = some (normal, rule)) :
    IsNormal version row normal :=
  have ⟨checked, normalized, _⟩ := entry?_eq_some_iff.mp entered
  ⟨checked, normalized⟩

omit [Platform] in
theorem lookup_of_not_blank {column : String} (given : (cell row column).isBlank = false) :
    ∃ value, row.lookup column = some value := by
  cases has : row.lookup column with
  | some value => exact ⟨value, rfl⟩
  | none => simp [cell, has, Value.isBlank] at given

omit [Platform] in
/-- A row that passes the checks has a path and a target. -/
theorem lookups_of_checked (checked : skipReason? row = none) :
    (∃ path, row.lookup "path" = some path) ∧ ∃ target, row.lookup "redirectURL" = some target := by
  unfold skipReason? at checked
  split at checked
  · cases checked
  next hasPath =>
    split at checked
    · cases checked
    next hasTarget =>
      exact ⟨lookup_of_not_blank (Bool.eq_false_iff.mpr hasPath),
        lookup_of_not_blank (Bool.eq_false_iff.mpr hasTarget)⟩

omit [Platform] in
/-- The target of a row that passes the checks stands in its normalized form. -/
theorem target_of_checked (checked : skipReason? row = none)
    (keyed : Keyed row normal path host version) :
    ∃ target, normal.lookup "redirectURL" = some target := by
  obtain ⟨_, target, has⟩ := lookups_of_checked checked
  have kept := keyed.others "redirectURL" (by decide) (by decide) (by decide)
  exact ⟨target, kept.trans has⟩

/-- A normalized row has a rule, unless a cell has no text or a text of the rule is none of
characters. -/
theorem IsNormal.made_cases (isNormal : IsNormal version row normal) (defaults : Defaults) :
    (∃ why, ruleOfRow normal defaults = .error (.unshown why)) ∨
    (∃ fields, ruleOfRow normal defaults = .error (.unpaired fields) ∧
      ∃ field ∈ fields, field.2.isUnpaired = true) ∨
    ∃ rule, entry? defaults version row = some (normal, rule) := by
  obtain ⟨checked, normalized⟩ := isNormal
  obtain ⟨_, _, named, keyed⟩ := keyed_of_normalizeRow normalized
  obtain ⟨target, has⟩ := target_of_checked checked keyed
  rcases ruleOfRow_cases keyed (textual_of_rowKey named) has defaults with
    ⟨why, failed, _⟩ | ⟨_, _, failed, among, _⟩ | ⟨_, _, made, _⟩
  · exact Or.inl ⟨why, failed⟩
  · exact Or.inr (Or.inl ⟨_, failed, among⟩)
  · exact Or.inr (Or.inr ⟨_, entry?_eq_some_iff.mpr ⟨checked, normalized, made⟩⟩)

/-- The columns whose texts come into a rule. -/
def textColumns : List String := ["path", "host", "redirectURL", "operations"]

/-- The text of such a cell of the row is none of characters. -/
def HasUnpaired (row : Row) : Prop :=
  ∃ column ∈ textColumns, (cell row column).isUnpaired = true

instance (row : Row) : Decidable (HasUnpaired row) :=
  inferInstanceAs (Decidable (∃ column ∈ textColumns, (cell row column).isUnpaired = true))

omit [Platform] in
theorem isUnpaired_eq_false (paired : ¬ HasUnpaired row) {column : String}
    (member : column ∈ textColumns) : (cell row column).isUnpaired = false :=
  Bool.eq_false_of_not_eq_true fun lone => paired ⟨column, member, lone⟩

/-- A normalized row has a rule exactly if it is legible. -/
theorem IsNormal.exists_rule_iff (isNormal : IsNormal version row normal) (defaults : Defaults) :
    (∃ rule, ruleOfRow normal defaults = .ok rule) ↔ Legible normal := by
  obtain ⟨checked, normalized⟩ := isNormal
  obtain ⟨path, host, named, keyed⟩ := keyed_of_normalizeRow normalized
  obtain ⟨target, has⟩ := target_of_checked checked keyed
  rcases ruleOfRow_cases keyed (textual_of_rowKey named) has defaults with
    ⟨_, failed, lacking⟩ | ⟨_, _, failed, _, column, member, lone⟩ | ⟨_, _, made, legible⟩
  · refine iff_of_false ?_ fun legible => legible.not_lacking lacking
    rintro ⟨rule, made⟩
    cases failed.symm.trans made
  · refine iff_of_false ?_ fun legible => by simp [legible.paired column member] at lone
    rintro ⟨rule, made⟩
    cases failed.symm.trans made
  · exact iff_of_true ⟨_, made⟩ legible

/-- The normalized form of a legible row is legible. -/
theorem IsNormal.legible (isNormal : IsNormal version row normal) (legible : Legible row) :
    Legible normal := by
  obtain ⟨path, host, named, keyed⟩ := keyed_of_normalizeRow isNormal.normalized
  obtain ⟨given, has, key⟩ := rowKey_eq_ok named
  obtain ⟨integers, texts, paired⟩ := legible
  have atPath : cell normal "path" = path := by rw [cell, keyed.path, Option.getD_some]
  have pathText : path.isUnpaired = false := by
    have plain : given.isUnpaired = false := by
      have here := paired "path" (by simp)
      rwa [cell, has, Option.getD_some] at here
    split at key
    · rw [key.1]
      cases given <;> simp_all [asText, Value.isUnpaired]
    · obtain ⟨_, _, rfl, _⟩ := key
      rfl
  refine ⟨fun column member => ?_, fun column member => ?_, fun column member => ?_⟩
  · rw [keyed.cell_eq column (apart_of_read (Or.inl member))]
    exact integers column member
  · rw [keyed.cell_eq column (apart_of_read (Or.inr member))]
    exact texts column member
  · by_cases atKey : column = "path"
    · rw [atKey, atPath]
      exact pathText
    · have other : column ≠ "host" ∧ column ≠ "version" := by
        revert column
        decide
      rw [keyed.cell_eq column ⟨atKey, other⟩]
      exact paired column member

/-- A row that is not refused is looked up in its normalized form. -/
theorem exists_isNormal (accepted : refusal? version row = none) :
    ∃ normal, IsNormal version row normal := by
  unfold refusal? at accepted
  split at accepted
  · cases accepted
  next checked =>
    split at accepted
    next normal normalized => exact ⟨normal, checked, normalized⟩
    · cases accepted

theorem IsNormal.not_refused (isNormal : IsNormal version row normal) :
    refusal? version row = none := by
  simp only [refusal?, isNormal.checked, isNormal.normalized]

theorem refusal?_of_entry (entered : entry? defaults version row = some (normal, rule)) :
    refusal? version row = none :=
  (isNormal_of_entry entered).not_refused

theorem IsNormal.eq {other : Row} (one : IsNormal version row normal)
    (two : IsNormal version row other) : normal = other :=
  Except.ok.inj (one.normalized.symm.trans two.normalized)

/-- The rule may be stored for the row: it is keyed as the row is. -/
structure KeyedBy (version : Int) (row : Row) (rule : Rule) : Prop where
  key : rowKey row = .ok (.text rule.path, rule.host)
  version : rule.version = (cell row "version").integer?.getD version
  isPattern : rule.isPattern = isPatternRow row

/-- The rule of an entry is keyed as its normalized form is, and as the row is, and it has no id
yet. -/
theorem keys_of_entry (entered : entry? defaults version row = some (normal, rule)) :
    Keyed row normal (.text rule.path) rule.host rule.version ∧ KeyedBy version row rule ∧
      rule.id = none := by
  obtain ⟨_, normalized, made⟩ := entry?_eq_some_iff.mp entered
  obtain ⟨path, host, named, keyed⟩ := keyed_of_normalizeRow normalized
  obtain ⟨rfl, rfl, sameVersion, pattern, fresh⟩ :=
    of_ruleOfRow keyed (textual_of_rowKey named) made
  exact ⟨sameVersion ▸ keyed, ⟨named, sameVersion, pattern⟩, fresh⟩

theorem keyed_of_entry (entered : entry? defaults version row = some (normal, rule)) :
    Keyed row normal (.text rule.path) rule.host rule.version :=
  (keys_of_entry entered).1

theorem keyedBy_of_entry (entered : entry? defaults version row = some (normal, rule)) :
    KeyedBy version row rule :=
  (keys_of_entry entered).2.1

theorem id_of_entry (entered : entry? defaults version row = some (normal, rule)) :
    rule.id = none :=
  (keys_of_entry entered).2.2

/-! ### One row -/

/-- What came of a row: why it was skipped, or the rule as it is stored. -/
abbrev Fate := Except Skip Rule

variable {fate : Fate}

omit [Platform] in
/-- What a report says of a row. -/
def Fate.outcome : Fate → Outcome
  | .ok _ => .inserted
  | .error skip => .skipped skip

/-- What comes of a row, and what it leaves behind, by the answers of the stores to its normalized form
and its rule. -/
inductive Settles (defaults : Defaults) (version : Int) (base : RuleBase) (row : Row) :
    Fate → RuleBase → Prop
  | refused {skip : Skip} (refused : refusal? version row = some (.ok skip)) :
    Settles defaults version base row (.error skip) base
  | duplicate {normal : Row} {other : Rule} {others : List Rule}
    (isNormal : IsNormal version row normal)
    (found : base.search (keyCriteria normal) = .ok (other :: others)) :
    Settles defaults version base row (.error ⟨"Duplicate record", normal⟩) base
  | failed {normal : Row} {rule : Rule} {failure : Failure} {next : RuleBase}
    (entered : entry? defaults version row = some (normal, rule))
    (absent : base.search (keyCriteria normal) = .ok [])
    (failed : base.insert rule = (next, .error failure)) (own : failure.isOwn = true) :
    Settles defaults version base row (.error ⟨failure.message, normal⟩) next
  | unheld {normal : Row} {fields : List (String × Value)} {failure : Failure} {next : RuleBase}
    (isNormal : IsNormal version row normal)
    (absent : base.search (keyCriteria normal) = .ok [])
    (made : ruleOfRow normal defaults = .error (.unpaired fields))
    (failed : base.insertFields fields = (next, .error failure)) (own : failure.isOwn = true) :
    Settles defaults version base row (.error ⟨failure.message, normal⟩) next
  | stored {normal : Row} {rule : Rule} {id : String} {next : RuleBase}
    (entered : entry? defaults version row = some (normal, rule))
    (absent : base.search (keyCriteria normal) = .ok [])
    (inserted : base.insert rule = (next, .ok { rule with id := some id })) :
    Settles defaults version base row (.ok { rule with id := some id }) next

/-- A row ends the import, and what it leaves behind: a cell has no text, before it is looked up or
after, or it cannot be looked up, or its rule is refused by a failure that is not the store's own. -/
inductive Breaks (defaults : Defaults) (version : Int) (base : RuleBase) (row : Row) :
    Failure → RuleBase → Prop
  | unread {failure : Failure} (refused : refusal? version row = some (.error failure)) :
    Breaks defaults version base row failure base
  | lookup {normal : Row} {failure : Failure} (isNormal : IsNormal version row normal)
    (failed : base.search (keyCriteria normal) = .error failure) :
    Breaks defaults version base row failure base
  | unshown {normal : Row} {why : Value.Unshown} (isNormal : IsNormal version row normal)
    (absent : base.search (keyCriteria normal) = .ok [])
    (made : ruleOfRow normal defaults = .error (.unshown why)) :
    Breaks defaults version base row (.unshown why) base
  | insertion {normal : Row} {rule : Rule} {failure : Failure} {next : RuleBase}
    (entered : entry? defaults version row = some (normal, rule))
    (absent : base.search (keyCriteria normal) = .ok [])
    (failed : base.insert rule = (next, .error failure)) (foreign : failure.isOwn = false) :
    Breaks defaults version base row failure next
  | unheld {normal : Row} {fields : List (String × Value)} {failure : Failure} {next : RuleBase}
    (isNormal : IsNormal version row normal)
    (absent : base.search (keyCriteria normal) = .ok [])
    (made : ruleOfRow normal defaults = .error (.unpaired fields))
    (failed : base.insertFields fields = (next, .error failure)) (foreign : failure.isOwn = false) :
    Breaks defaults version base row failure next

theorem importRow_of_refusal (refused : refusal? version row = some answer) (base : RuleBase)
    (defaults : Defaults) :
    importRow base defaults version row = (base, answer.map .skipped) := by
  cases checked : skipReason? row with
  | some reason =>
    simp only [refusal?, checked, Option.some.injEq] at refused
    simp only [importRow, checked, ← refused]
    split <;> rfl
  | none =>
    cases normalized : normalizeRow row version with
    | ok normal => simp [refusal?, checked, normalized] at refused
    | error fault =>
      simp only [refusal?, checked, normalized, Option.some.injEq] at refused
      simp only [importRow, checked, normalized, ← refused]
      cases fault.beforeKey? <;> rfl

theorem importRow_of_isNormal (isNormal : IsNormal version row normal) (base : RuleBase)
    (defaults : Defaults) :
    importRow base defaults version row = importNormalized base defaults normal := by
  simp only [importRow, isNormal.checked, isNormal.normalized]

/-- A row settles, or it breaks the import off. -/
theorem settles_or_breaks (defaults : Defaults) (version : Int) (base : RuleBase) (row : Row) :
    (∃ fate next, Settles defaults version base row fate next) ∨
      ∃ failure next, Breaks defaults version base row failure next := by
  cases refused : refusal? version row with
  | some answer =>
    cases answer with
    | ok skip => exact Or.inl ⟨.error skip, base, .refused refused⟩
    | error failure => exact Or.inr ⟨failure, base, .unread refused⟩
  | none =>
    obtain ⟨normal, isNormal⟩ := exists_isNormal refused
    rcases searched : base.search (keyCriteria normal) with failure | _ | ⟨other, others⟩
    · exact Or.inr ⟨failure, base, .lookup isNormal searched⟩
    · rcases isNormal.made_cases defaults with
        ⟨why, made⟩ | ⟨fields, made, lone⟩ | ⟨rule, entered⟩
      · exact Or.inr ⟨.unshown why, base, .unshown isNormal searched made⟩
      · obtain ⟨next, failure, failed, _⟩ := base.insertFields_fails lone
        cases own : failure.isOwn with
        | true => exact Or.inl ⟨_, next, .unheld isNormal searched made failed own⟩
        | false => exact Or.inr ⟨failure, next, .unheld isNormal searched made failed own⟩
      · cases call : base.insert rule with
        | mk next answer =>
          cases answer with
          | ok stored =>
            obtain ⟨id, rfl, _⟩ := RuleBase.stores_of_insert_ok call
            exact Or.inl ⟨_, next, .stored entered searched call⟩
          | error failure =>
            cases own : failure.isOwn with
            | true => exact Or.inl ⟨_, next, .failed entered searched call own⟩
            | false => exact Or.inr ⟨failure, next, .insertion entered searched call own⟩
    · exact Or.inl ⟨_, base, .duplicate isNormal searched⟩

theorem importNormalized_of_entry (entered : entry? defaults version row = some (normal, rule))
    (absent : base.search (keyCriteria normal) = .ok []) :
    importNormalized base defaults normal = settled normal (base.insert rule) := by
  obtain ⟨_, _, made⟩ := entry?_eq_some_iff.mp entered
  simp only [importNormalized, absent, made]

/-- What comes of a row is what the import of it gives. -/
theorem Settles.importRow_eq (settles : Settles defaults version base row fate next) :
    importRow base defaults version row = (next, .ok fate.outcome) := by
  cases settles with
  | refused refused => exact importRow_of_refusal refused base defaults
  | duplicate isNormal found =>
    simp only [importRow_of_isNormal isNormal, importNormalized, found]
    rfl
  | failed entered absent failed own =>
    rw [importRow_of_isNormal (isNormal_of_entry entered), importNormalized_of_entry entered absent,
      failed]
    simp only [settled, own, if_true]
    rfl
  | unheld isNormal absent made failed own =>
    simp only [importRow_of_isNormal isNormal, importNormalized, absent, made, failed, settled, own,
      if_true]
    rfl
  | stored entered absent inserted =>
    rw [importRow_of_isNormal (isNormal_of_entry entered), importNormalized_of_entry entered absent,
      inserted]
    rfl

theorem Breaks.importRow_eq {failure : Failure}
    (breaks : Breaks defaults version base row failure next) :
    importRow base defaults version row = (next, .error failure) := by
  cases breaks with
  | unread refused => exact importRow_of_refusal refused base defaults
  | lookup isNormal failed =>
    simp only [importRow_of_isNormal isNormal, importNormalized, failed]
  | unshown isNormal absent made =>
    simp only [importRow_of_isNormal isNormal, importNormalized, absent, made]
    rfl
  | insertion entered absent failed foreign =>
    rw [importRow_of_isNormal (isNormal_of_entry entered), importNormalized_of_entry entered absent,
      failed]
    simp only [settled, foreign]
    rfl
  | unheld isNormal absent made failed foreign =>
    simp only [importRow_of_isNormal isNormal, importNormalized, absent, made, failed, settled,
      foreign]
    rfl

/-- The fields of a rule that no store can hold leave the stores and the failures in the way as they
are. -/
theorem kept_of_unheld (isNormal : IsNormal version row normal)
    {fields : List (String × Value)} {failure : Failure}
    (made : ruleOfRow normal defaults = .error (.unpaired fields))
    (failed : base.insertFields fields = (next, .error failure)) :
    next.stores = base.stores ∧ next.faults = base.faults := by
  rcases isNormal.made_cases defaults with ⟨_, result⟩ | ⟨_, result, lone⟩ | ⟨_, entered⟩
  · cases made.symm.trans result
  · cases made.symm.trans result
    obtain ⟨_, _, result, stores, faults⟩ := base.insertFields_fails lone
    cases failed.symm.trans result
    exact ⟨stores, faults⟩
  · cases made.symm.trans (entry?_eq_some_iff.mp entered).2.2

theorem Settles.faults (settles : Settles defaults version base row fate next) :
    next.faults = base.faults := by
  cases settles with
  | refused | duplicate => rfl
  | failed _ _ failed _ => exact RuleBase.faults_of_insert failed
  | unheld isNormal _ made failed _ => exact (kept_of_unheld isNormal made failed).2
  | stored _ _ inserted => exact RuleBase.faults_of_insert inserted

theorem Breaks.faults {failure : Failure}
    (breaks : Breaks defaults version base row failure next) : next.faults = base.faults := by
  cases breaks with
  | unread | lookup | unshown => rfl
  | insertion _ _ failed _ => exact RuleBase.faults_of_insert failed
  | unheld isNormal _ made failed _ => exact (kept_of_unheld isNormal made failed).2

omit [Platform] in
theorem settled_related {a b : RuleBase × Except Failure α} {R : RuleBase → RuleBase → Prop}
    (related : a.2 = b.2 ∧ R a.1 b.1) (row : Row) :
    (settled row a).2 = (settled row b).2 ∧ R (settled row a).1 (settled row b).1 := by
  obtain ⟨baseA, answerA⟩ := a
  obtain ⟨baseB, answerB⟩ := b
  obtain ⟨rfl, bases⟩ := related
  cases answerA with
  | ok stored => exact ⟨rfl, bases⟩
  | error failure =>
    simp only [settled]
    split <;> exact ⟨rfl, bases⟩

/-- Rule bases between which a relation holds take a row alike, if they look it up alike and take what
is made of it alike. -/
theorem importRow_related {a b : RuleBase} {R : RuleBase → RuleBase → Prop} (related : R a b)
    (defaults : Defaults) (version : Int) (row : Row)
    (lookups : ∀ normal, IsNormal version row normal →
      (a.search (keyCriteria normal)).map List.isEmpty =
        (b.search (keyCriteria normal)).map List.isEmpty)
    (insertions : ∀ normal rule, entry? defaults version row = some (normal, rule) →
      a.search (keyCriteria normal) = .ok [] →
        (a.insert rule).2 = (b.insert rule).2 ∧ R (a.insert rule).1 (b.insert rule).1)
    (unheld : ∀ normal fields, IsNormal version row normal →
      ruleOfRow normal defaults = .error (.unpaired fields) →
      a.search (keyCriteria normal) = .ok [] →
        (a.insertFields fields).2 = (b.insertFields fields).2 ∧
          R (a.insertFields fields).1 (b.insertFields fields).1) :
    (importRow a defaults version row).2 = (importRow b defaults version row).2 ∧
      R (importRow a defaults version row).1 (importRow b defaults version row).1 := by
  cases refused : refusal? version row with
  | some answer =>
    rw [importRow_of_refusal refused, importRow_of_refusal refused]
    exact ⟨rfl, related⟩
  | none =>
    obtain ⟨normal, isNormal⟩ := exists_isNormal refused
    have found := lookups normal isNormal
    rw [importRow_of_isNormal isNormal, importRow_of_isNormal isNormal]
    -- Both lookups fail, or both find a rule, or neither does; only then the row comes to the stores.
    rcases here : a.search (keyCriteria normal) with failure | _ | ⟨first, others⟩ <;>
      rcases there : b.search (keyCriteria normal) with other | _ | ⟨second, rest⟩ <;>
      rw [here, there] at found <;> cases found
    · simpa only [importNormalized, here, there, true_and] using related
    · rcases isNormal.made_cases defaults with
        ⟨why, made⟩ | ⟨fields, made, _⟩ | ⟨rule, entered⟩
      · simp only [importNormalized, here, there, made]
        exact ⟨rfl, related⟩
      · simp only [importNormalized, here, there, made]
        exact settled_related (unheld normal fields isNormal made here) normal
      · rw [importNormalized_of_entry entered here, importNormalized_of_entry entered there]
        exact settled_related (insertions normal rule entered here) normal
    · simpa only [importNormalized, here, there, true_and] using related

end

end Sheet
end Signpost
