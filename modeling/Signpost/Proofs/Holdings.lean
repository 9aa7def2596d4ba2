import Signpost.Proofs.Fields
import Signpost.Proofs.Query
import Signpost.Session

/-!
# What the stores hold

The stores keep rules, host policies and active versions as lists in memory or as rows of three
tables. `Stores.Holds` relates both to the records themselves, and every call on the stores is
described by what it does to them.

## Main results

`searchRules_of_holds`, `insertRule_holds`, `noteAccess_holds` and `deleteRules_holds` say what the
calls on rules find and leave. The calls on host policies and active versions leave the rules as
they are.

## Proof strategy

Memory holds the records themselves, so a call on it is read off its definition. For the tables,
each change of a database is described by the rows that it sets (`insert_eq`, `update_eq`), and
`Contents.InTables` is kept because the rows are again those of records.
-/
namespace Signpost

open Sql Store

/-! ### Records as rows -/

/-- The row of a rule. -/
abbrev Rule.row (rule : Rule) : Row := rowOf rule.attributes

/-- The row of a host policy. -/
abbrev HostPolicy.row (policy : HostPolicy) : Row := rowOf policy.attributes

/-- The row of an active version. -/
abbrev ActiveVersion.row (version : ActiveVersion) : Row := rowOf version.attributes

theorem takes_ofOption {column : Column} {f : α → Value}
    (pref : ∀ x, column.affinity.prefers (f x) = true) (value : Option α) :
    column.Takes (Value.ofOption f value) := by
  cases value with
  | none => exact Or.inl rfl
  | some x => exact Or.inr (pref x)

theorem conforms_rule (rule : Rule) : Conforms ruleColumns rule.attributes where
  taken := by
    repeat
      refine .cons ⟨rfl, ?_⟩ ?_
      first
        | exact Or.inr rfl
        | exact takes_ofOption (fun _ => rfl) _
    exact .nil
  distinct := by decide

theorem conforms_host (policy : HostPolicy) : Conforms hostColumns policy.attributes where
  taken := .cons ⟨rfl, Or.inr rfl⟩ (.cons ⟨rfl, Or.inr rfl⟩ .nil)
  distinct := by decide

/-! ### Conditions on rules -/

theorem holds_equals_text {others : Others} {attributes : List (String × Value)} {name actual : String}
    (has : attributes.lookup name = some (.text actual)) (text : String) :
    (Condition.equals name (.text text)).holds others attributes = .ok (actual == text) := by
  simp only [Condition.holds, Condition.equals, has, Test.holds, Value.same]

namespace Rule

variable {others : Others}

theorem holds_path (rule : Rule) (path : String) :
    (Condition.equals "path" (.text path)).holds others rule.attributes = .ok (rule.path == path) :=
  holds_equals_text rfl path

theorem holds_host (rule : Rule) (host : String) :
    (Condition.equals "host" (.text host)).holds others rule.attributes = .ok (rule.host == host) :=
  holds_equals_text rfl host

theorem holds_version (rule : Rule) (version : Int) :
    (Condition.equals "version" (.int version)).holds others rule.attributes =
      .ok (rule.version == version) := by
  have has : rule.attributes.lookup "version" = some (.int rule.version) := rfl
  have worth (n : Int) : (Value.int n).Worth n := ⟨rfl, rfl⟩
  simp only [Condition.holds, Condition.equals, has, Test.holds,
    same_of_worth (worth rule.version) (worth version)]
  rfl

theorem holds_isPattern (rule : Rule) (flag : Bool) :
    (Condition.equals "regex" (.bool flag)).holds others rule.attributes =
      .ok (rule.isPattern == flag) := by
  have has : rule.attributes.lookup "regex" = some (.bool rule.isPattern) := rfl
  have worth (b : Bool) : (Value.bool b).Worth (if b then 1 else 0) := ⟨rfl, rfl⟩
  simp only [Condition.holds, Condition.equals, has, Test.holds,
    same_of_worth (worth rule.isPattern) (worth flag)]
  cases rule.isPattern <;> cases flag <;> rfl

end Rule

/-! ### Records read back -/

theorem nullable_text (value : Option String) :
    Schema.nullable Schema.text (cellOf (Value.ofOption .text value)).toValue = .ok value := by
  cases value <;> rfl

theorem nullable_integer (value : Option Int) :
    Schema.nullable Schema.integer (cellOf (Value.ofOption .int value)).toValue = .ok value := by
  cases value <;> rfl

/-- A rule is read back from its row. -/
theorem ruleOfRow_rowOf (rule : Rule) : ruleOfRow rule.row = .ok rule := by
  have truth : Schema.truth (.bool (isTrue (cellOf (.bool rule.isPattern)))) =
      .ok rule.isPattern := by
    cases rule.isPattern <;> rfl
  exact Rule.ofFields_eq rule (Schema.optional_eq rfl (nullable_text _)) rfl rfl rfl rfl rfl
    (Schema.optional_eq rfl (nullable_integer _)) (Schema.optional_eq rfl (nullable_integer _))
    (Schema.optional_eq rfl (nullable_text _)) (Schema.optional_eq rfl truth)
    (Schema.optional_eq rfl (nullable_integer _))

theorem hostOfRow_rowOf (policy : HostPolicy) : hostOfRow policy.row = .ok policy := by
  obtain ⟨host, hostOnly⟩ := policy
  cases hostOnly <;> rfl

theorem readRows_rowOf {ofRow : Row → Schema.Checked α} {row : α → Row}
    (reads : ∀ record, ofRow (row record) = .ok record) (records : List α) :
    readRows ofRow (records.map row) = .ok records := by
  induction records with
  | nil => rfl
  | cons record rest ih => simp [readRows, reads, ih, Except.map]

theorem insertInOrder_of_last {row : Row} {rows : List Row}
    (last : ∀ other ∈ rows, (row.cell "host").compare (other.cell "host") ≠ .lt) :
    insertInOrder row rows = rows ++ [row] := by
  induction rows with
  | nil => rfl
  | cons first rest ih =>
    have after := last first (.head _)
    have others := ih fun other member => last other (.tail _ member)
    simp [insertInOrder, after, others]

/-- Rows of one host stay in their order. -/
theorem byHost_of_same {host : String} {rows : List Row}
    (same : ∀ row ∈ rows, row.cell "host" = .text host) : byHost rows = rows := by
  -- The rows sorted so far are of the same host, so the next one comes after all of them.
  suffices sorted : ∀ (rows done : List Row), (∀ row ∈ done ++ rows, row.cell "host" = .text host) →
      rows.foldl (fun sorted row => insertInOrder row sorted) done = done ++ rows from
    sorted rows [] (by simpa using same)
  intro rows
  induction rows with
  | nil => exact fun done _ => (List.append_nil done).symm
  | cons first rest ih =>
    intro done same
    have here := same first (by simp)
    have last : ∀ other ∈ done, (first.cell "host").compare (other.cell "host") ≠ .lt := by
      intro other member
      rw [here, same other (by simp [member])]
      simp [Cell.compare]
    rw [List.foldl_cons, insertInOrder_of_last last, ih _ (by simpa using same), List.append_assoc,
      List.singleton_append]

/-! ### Tables of a database -/

namespace Sql.Database

theorem table?_setRows (database : Database) (name other : String) (rows : List Row) :
    (database.setRows name rows).table? other = (database.table? other).map fun table =>
      if foldName table.name == foldName name then { table with rows } else table := by
  have named : ((fun table : Table => foldName table.name == foldName other) ∘ fun table =>
      if foldName table.name == foldName name then { table with rows } else table) =
        fun table => foldName table.name == foldName other := by
    funext table
    simp only [Function.comp_apply]
    split <;> rfl
  simp only [table?, setRows, List.find?_map, named]

theorem foldName_of_table? {database : Database} {name : String} {table : Table}
    (found : database.table? name = some table) : foldName table.name = foldName name := by
  simpa using List.find?_some found

theorem rows_setRows_self {database : Database} {name : String} {old : List Row}
    (held : database.rows name = .ok old) (rows : List Row) :
    (database.setRows name rows).rows name = .ok rows := by
  simp only [Database.rows, table?_setRows] at held ⊢
  cases found : database.table? name with
  | none => simp [found] at held
  | some table =>
    simp only [Option.map_some, foldName_of_table? found, beq_self_eq_true, if_true]

theorem rows_setRows_of_ne {name other : String} (apart : foldName other ≠ foldName name)
    (database : Database) (rows : List Row) :
    (database.setRows name rows).rows other = database.rows other := by
  simp only [Database.rows, table?_setRows]
  cases found : database.table? other with
  | none => rfl
  | some table =>
    have elsewhere : (foldName table.name == foldName name) = false := by
      rw [foldName_of_table? found]
      exact beq_eq_false_iff_ne.mpr apart
    simp only [Option.map_some, elsewhere]
    rfl

end Sql.Database

/-! ### The relation -/

/-- The tables of a database hold the contents as rows. -/
structure Contents.InTables (contents : Contents) (database : Database) : Prop where
  rules : database.rows "rules" = .ok (contents.rules.map Rule.row)
  hosts : database.rows "hosts" = .ok (contents.hosts.map HostPolicy.row)
  versions : database.rows "versions" = .ok (contents.versions.map ActiveVersion.row)

/-- The stores hold the contents: as they are in memory, or as the rows of a database that has
the tables for them. -/
inductive Stores.Holds : Stores → Contents → Prop
  | memory (m : Memory) : Holds (.memory m) ⟨m.rules, m.hosts, m.versions⟩
  | tables {path : String} {database : Database} {contents : Contents}
      (held : contents.InTables database) : Holds (.tables path (.present database)) contents

/-- The stores hold the rules, beside some host policies and active versions. -/
def Stores.HoldRules (stores : Stores) (rules : List Rule) : Prop :=
  ∃ hosts versions, stores.Holds ⟨rules, hosts, versions⟩

/-- A call that has a result was let through. -/
theorem RuleBase.ok_of_allowed {base : RuleBase} {call : Call} {next : Except Failure α}
    {result : α} (done : (do base.allow call; next) = .ok result) : next = .ok result := by
  cases allowed : base.allow call with
  | error failure => simp [allowed, Bind.bind, Except.bind] at done
  | ok _ => simpa [allowed, Bind.bind, Except.bind] using done

namespace Stores

variable {stores after : Stores} {contents : Contents} {criteria : List Criterion}

/-- In memory the criteria are decided on the rules themselves, and nothing is bound. -/
theorem searchRules_memory (suits : ∀ criterion ∈ criteria, criterion.suits ruleColumns = true)
    (m : Memory) : searchRules (.memory m) criteria =
      .ok (m.rules.filter fun rule => satisfies criteria rule.attributes) := by
  simp only [searchRules, Memory.searchRules, Store.search,
    select_of_suits suits (fun rule _ => conforms_rule rule) m.others]
  rfl

/-- In the tables, the rules that satisfy the criteria are found if the database takes the condition
and the values. -/
theorem searchRules_tables {database : Database} (held : contents.InTables database)
    (suits : ∀ criterion ∈ criteria, criterion.suits ruleColumns = true) (path : String) :
    ∃ clauses values, Clause.ofCriteria ruleColumns criteria = .ok (clauses, values) ∧
      searchRules (.tables path (.present database)) criteria =
        (database.parameters clauses values).map fun _ =>
          contents.rules.filter fun rule => satisfies criteria rule.attributes := by
  obtain ⟨clauses, values, made, selected⟩ :=
    select_rowOf suits (fun rule _ => conforms_rule rule) held.rules
  refine ⟨clauses, values, made, ?_⟩
  simp only [searchRules, queried, made, opened, Tables.searchRules, selected, Bind.bind,
    Except.bind]
  cases database.parameters clauses values with
  | error failure => rfl
  | ok cells => exact readRows_rowOf ruleOfRow_rowOf _

/-- A search finds the rules that satisfy the criteria; it fails only where the stores are tables
that do not take the condition or a value. -/
theorem searchRules_of_holds (held : stores.Holds contents)
    (suits : ∀ criterion ∈ criteria, criterion.suits ruleColumns = true) :
    ∃ clauses values, Clause.ofCriteria ruleColumns criteria = .ok (clauses, values) ∧
      (stores.searchRules criteria =
          .ok (contents.rules.filter fun rule => satisfies criteria rule.attributes) ∨
        ∃ (database : Database) (failure : Failure),
          database.parameters clauses values = .error failure ∧
            stores.searchRules criteria = .error failure) := by
  cases held with
  | memory m =>
    obtain ⟨clauses, values, made, _⟩ := asks_criteria suits
    exact ⟨clauses, values, made, Or.inl (searchRules_memory suits m)⟩
  | @tables path database _ held =>
    obtain ⟨clauses, values, made, searched⟩ := searchRules_tables held suits path
    refine ⟨clauses, values, made, ?_⟩
    rw [searched]
    cases taken : database.parameters clauses values with
    | error failure => exact Or.inr ⟨database, failure, taken, rfl⟩
    | ok cells => exact Or.inl rfl

/-- Whatever a search returns, it is the rules that satisfy the criteria. -/
theorem eq_filter_of_searchRules (held : stores.Holds contents)
    (suits : ∀ criterion ∈ criteria, criterion.suits ruleColumns = true) {found : List Rule}
    (searched : stores.searchRules criteria = .ok found) :
    found = contents.rules.filter fun rule => satisfies criteria rule.attributes := by
  obtain ⟨_, _, _, result | ⟨_, _, _, result⟩⟩ := searchRules_of_holds held suits
  · exact Except.ok.inj (searched.symm.trans result)
  · exact absurd (searched.symm.trans result) (by simp)

/-- A search by a few terms with values that can be bound succeeds. -/
theorem searchRules_eq_filter (held : stores.Holds contents)
    (suits : ∀ criterion ∈ criteria, criterion.suits ruleColumns = true)
    {clauses : List Clause} {values : List Value} {cells : List Cell}
    (made : Clause.ofCriteria ruleColumns criteria = .ok (clauses, values))
    (small : sizeOfAll clauses ≤ 4) (bound : bindAll 1 values = .ok cells) :
    stores.searchRules criteria =
      .ok (contents.rules.filter fun rule => satisfies criteria rule.attributes) := by
  obtain ⟨_, _, made', result | ⟨database, _, refused, _⟩⟩ := searchRules_of_holds held suits
  · exact result
  · cases made.symm.trans made'
    exact absurd ((database.parameters_of_small small values).symm.trans refused) (by simp [bound])

end Stores

/-! ### Changes of the tables -/

/-- The columns of rules with their values, as the rows of rules are bound. -/
theorem zip_ruleFields (rule : Rule) :
    ((ruleFields rule).map (·.1)).zip (((ruleFields rule).map (·.2)).map cellOf) =
      rule.row := by
  rw [ruleFields, List.map_map, List.map_map]
  exact zip_cells rule.attributes

theorem ruleFields_plain (rule : Rule) :
    ∀ value ∈ (ruleFields rule).map (·.2), value.isPlain = true := by
  rw [ruleFields, List.map_map]
  exact plain_of_taken (conforms_rule rule).fields

namespace Sql.Database

/-- A row that is inserted is put after all others of its table. -/
theorem insert_eq {database after : Database} {name : String} {columns : List Column}
    {key : Option String} {fields : List (String × Value)} {rows : List Row}
    (held : database.rows name = .ok rows)
    (inserted : database.insert name columns key fields = .ok after) :
    ∃ cells, bindAll 1 (fields.map (·.2)) = .ok cells ∧
      after = database.setRows name (rows ++ [stored columns ((fields.map (·.1)).zip cells)]) := by
  cases bound : bindAll 1 (fields.map (·.2)) with
  | error failure => simp [insert, held, bound, Bind.bind, Except.bind] at inserted
  | ok cells =>
    refine ⟨cells, rfl, ?_⟩
    simp only [insert, held, bound, Bind.bind, Except.bind, Pure.pure, Except.pure] at inserted
    split at inserted
    · cases inserted
    · exact (Except.ok.inj inserted).symm

theorem updateRows_eq {name key : String} {columns : List Column} {keyCell : Cell} {cells : Row}
    {before rows changed : List Row}
    (updated : updateRows name columns key keyCell cells before rows = .ok changed) :
    changed = before ++ rows.map fun row =>
      if row.cell key == keyCell && keyCell != .null then assign row cells else row := by
  -- The rows already looked at stand in front, so the claim is about those still to come.
  induction rows generalizing before with
  | nil =>
    cases updated
    simp
  | cons row rest ih =>
    rw [updateRows] at updated
    split at updated
    next found =>
      simp only at updated
      split at updated
      · cases updated
      · rw [ih updated, List.map_cons, if_pos found, List.append_assoc]
        rfl
    next other =>
      rw [ih updated, List.map_cons, if_neg other, List.append_assoc]
      rfl

/-- An update sets the cells in every row that has the key. -/
theorem update_eq {database after : Database} {name key : String} {columns : List Column}
    {keyValue : Value} {fields : List (String × Value)} {rows : List Row} {count : Nat}
    (held : database.rows name = .ok rows)
    (updated : database.update name columns key keyValue fields = .ok (after, count)) :
    ∃ cells keyCell, bindAll 1 (fields.map fun field => asNumber field.2) = .ok cells ∧
      bind (fields.length + 1) keyValue = .ok keyCell ∧
      after = database.setRows name (rows.map fun row =>
        if row.cell key == Affinity.text.stored keyCell && Affinity.text.stored keyCell != .null then
          assign row (stored columns ((fields.map (·.1)).zip cells)) else row) := by
  cases bound : bindAll 1 (fields.map fun field => asNumber field.2) with
  | error failure => simp [update, held, bound, Bind.bind, Except.bind] at updated
  | ok cells =>
    cases boundKey : bind (fields.length + 1) keyValue with
    | error failure => simp [update, held, bound, boundKey, Bind.bind, Except.bind] at updated
    | ok keyCell =>
      refine ⟨cells, keyCell, rfl, rfl, ?_⟩
      simp only [update, held, bound, boundKey, Bind.bind, Except.bind, Pure.pure,
        Except.pure] at updated
      split at updated
      · cases updated
      · next changed eq =>
        cases updated
        rw [updateRows_eq eq]
        rfl

end Sql.Database

namespace Contents.InTables

variable {contents : Contents} {database after : Database}

/-- Other rows for the rules leave the other tables as they are. -/
theorem setRules (held : contents.InTables database) (rules : List Rule) :
    { contents with rules }.InTables
      (database.setRows "rules" (rules.map Rule.row)) where
  rules := Database.rows_setRows_self held.rules _
  hosts := (Database.rows_setRows_of_ne (by decide) _ _).trans held.hosts
  versions := (Database.rows_setRows_of_ne (by decide) _ _).trans held.versions

theorem setHosts (held : contents.InTables database) (hosts : List HostPolicy) :
    { contents with hosts }.InTables
      (database.setRows "hosts" (hosts.map HostPolicy.row)) where
  rules := (Database.rows_setRows_of_ne (by decide) _ _).trans held.rules
  hosts := Database.rows_setRows_self held.hosts _
  versions := (Database.rows_setRows_of_ne (by decide) _ _).trans held.versions

theorem setVersions (held : contents.InTables database) (versions : List ActiveVersion) :
    { contents with versions }.InTables
      (database.setRows "versions" (versions.map ActiveVersion.row)) where
  rules := (Database.rows_setRows_of_ne (by decide) _ _).trans held.rules
  hosts := (Database.rows_setRows_of_ne (by decide) _ _).trans held.hosts
  versions := Database.rows_setRows_self held.versions _

theorem insertRule (held : contents.InTables database) {id : String} {rule : Rule}
    (inserted : Tables.insertRule database id rule = .ok after) :
    { contents with rules := contents.rules ++ [{ rule with id := some id }] }.InTables after := by
  obtain ⟨cells, bound, rfl⟩ := Database.insert_eq held.rules inserted
  have row := bindAll_of_plain (ruleFields_plain _) bound
  rw [row, zip_ruleFields, (conforms_rule _).stored]
  have set := held.setRules (contents.rules ++ [{ rule with id := some id }])
  rwa [List.map_append] at set

theorem insertVersion (held : contents.InTables database) {version : ActiveVersion}
    (inserted : Tables.insertVersion database version = .ok after) :
    { contents with versions := contents.versions ++ [version] }.InTables after := by
  obtain ⟨cells, bound, rfl⟩ := Database.insert_eq held.versions inserted
  have row : cells = [.integer version.number] :=
    bindAll_of_plain (by simp [ActiveVersion.attributes, Value.isPlain]) bound
  subst row
  have set := held.setVersions (contents.versions ++ [version])
  rwa [List.map_append] at set

end Contents.InTables

/-- The rule after an access at the instant was noted on the rule with the id. -/
def Rule.noted (id : String) (millis : Int) (rule : Rule) : Rule :=
  if rule.id = some id then { rule with lastAccessed := some millis } else rule

theorem assign_lastAccessed (rule : Rule) (millis : Int) :
    Database.assign rule.row [("last_accessed", .integer millis)] =
      Rule.row { rule with lastAccessed := some millis } := rfl

theorem cell_id_beq (rule : Rule) (id : String) :
    (rule.row.cell "id" == .text id) = decide (rule.id = some id) := by
  have cell : rule.row.cell "id" = cellOf (.ofOption .text rule.id) := rfl
  rw [cell]
  cases rule.id with
  | none => rfl
  | some other => simp [Value.ofOption, cellOf, beq_eq_decide]

/-- Where the rules are updated by an id, the one with the id has another content. -/
theorem Contents.InTables.of_update {contents : Contents} {database after : Database}
    (held : contents.InTables database) {fields : List (String × Value)} {id : String} {count : Nat}
    (updated : database.update "rules" ruleColumns "id" (.text id) fields = .ok (after, count))
    (plain : ∀ value ∈ fields.map (fun field => asNumber field.2), value.isPlain = true)
    {change : Rule → Rule}
    (assigned : ∀ rule : Rule, Database.assign rule.row (Database.stored ruleColumns
      ((fields.map (·.1)).zip ((fields.map fun field => asNumber field.2).map cellOf))) =
        (change rule).row) :
    { contents with rules := contents.rules.map fun (rule : Rule) =>
        if rule.id = some id then change rule else rule }.InTables after := by
  obtain ⟨cells, keyCell, bound, boundKey, rfl⟩ := Database.update_eq held.rules updated
  -- The cells and the key are plain, so they are bound as they are.
  cases boundKey
  have same := bindAll_of_plain plain bound
  subst same
  generalize Database.stored ruleColumns _ = row at assigned ⊢
  have rows : (contents.rules.map Rule.row).map (fun old =>
      if old.cell "id" == Affinity.text.stored (.text id) &&
          Affinity.text.stored (.text id) != .null then Database.assign old row else old) =
        (contents.rules.map fun (rule : Rule) =>
          if rule.id = some id then change rule else rule).map Rule.row := by
    rw [List.map_map, List.map_map]
    refine List.map_congr_left fun rule _ => ?_
    have present : (Affinity.text.stored (.text id) != .null) = true := rfl
    have key : (rule.row.cell "id" == Affinity.text.stored (.text id)) =
        decide (rule.id = some id) := cell_id_beq rule id
    simp only [Function.comp_apply, key, present, Bool.and_true, assigned, decide_eq_true_eq]
    split <;> rfl
  exact rows ▸ held.setRules _

theorem Contents.InTables.noteAccess {contents : Contents} {database after : Database}
    (held : contents.InTables database) {id : String} {millis : Int}
    (patched : Tables.patchRule database id [("last_accessed", .int millis)] = .ok after) :
    { contents with rules := contents.rules.map (Rule.noted id millis) }.InTables after := by
  simp only [Tables.patchRule] at patched
  cases updated : database.update "rules" ruleColumns "id" (.text id)
      [("last_accessed", .int millis)] with
  | error failure => simp [updated, Bind.bind, Except.bind] at patched
  | ok result =>
    obtain ⟨changed, count⟩ := result
    simp only [updated, Bind.bind, Except.bind, Pure.pure, Except.pure, Except.ok.injEq] at patched
    subst patched
    exact held.of_update updated (by simp [asNumber, Value.isPlain])
      fun rule => assign_lastAccessed rule millis

theorem cell_host_beq (policy : HostPolicy) (host : String) :
    (policy.row.cell "host" == .text host) = (policy.host == host) := by
  have cell : policy.row.cell "host" = .text policy.host := rfl
  rw [cell, beq_eq_decide, beq_eq_decide]
  simp

/-- A host policy is put in the place of the one of its host, else at the end. -/
def putHost (hosts : List HostPolicy) (policy : HostPolicy) : List HostPolicy :=
  if hosts.any (·.host == policy.host) then
    hosts.map fun other => if other.host == policy.host then policy else other
  else hosts ++ [policy]

theorem Contents.InTables.insertHost {contents : Contents} {database after : Database}
    (held : contents.InTables database) {policy : HostPolicy}
    (inserted : Tables.insertHost database policy = .ok after) :
    { contents with hosts := putHost contents.hosts policy }.InTables after := by
  have set := held.setHosts (putHost contents.hosts policy)
  have known : ((contents.hosts.map HostPolicy.row).any fun row =>
      row.cell "host" == .text policy.host) = contents.hosts.any (·.host == policy.host) := by
    rw [List.any_map]
    exact congrArg _ (funext fun other => cell_host_beq other policy.host)
  have replaced : ((contents.hosts.map HostPolicy.row).map fun row =>
      if row.cell "host" == .text policy.host then policy.row else row) =
        (contents.hosts.map fun other =>
          if other.host == policy.host then policy else other).map HostPolicy.row := by
    rw [List.map_map, List.map_map]
    refine List.map_congr_left fun other _ => ?_
    simp only [Function.comp_apply, cell_host_beq]
    split <;> rfl
  -- Whether the host has a policy already is asked of the rows, and answered by the policies.
  simp only [Tables.insertHost, held.hosts, Bind.bind, Except.bind, Pure.pure, Except.pure,
    known] at inserted
  unfold putHost at set ⊢
  split at inserted
  next here =>
    rw [if_pos here] at set ⊢
    rw [← replaced] at set
    exact Except.ok.inj inserted ▸ set
  next absent =>
    rw [if_neg absent] at set ⊢
    rw [List.map_append] at set
    exact Except.ok.inj inserted ▸ set

/-- The policy of a host. -/
def policyOf (hosts : List HostPolicy) (host : String) : Option HostPolicy :=
  hosts.find? (·.host == host)

/-- A policy that is put after those of other hosts is the one of its host. -/
theorem policyOf_append (policy : HostPolicy) (hosts : List HostPolicy) (host : String) :
    policyOf (hosts.filter (·.host != policy.host) ++ [policy]) host =
      if host = policy.host then some policy else policyOf hosts host := by
  unfold policyOf
  rw [List.find?_append, List.find?_filter]
  by_cases own : host = policy.host
  · subst own
    have none : hosts.find? (fun other => decide ((other.host != policy.host) = true ∧
        (other.host == policy.host) = true)) = none := by simp
    rw [none]
    simp
  · have others : (fun (other : HostPolicy) => decide ((other.host != policy.host) = true ∧
        (other.host == host) = true)) = (·.host == host) := by
      funext other
      by_cases same : other.host = host <;> simp [same, own]
    have last : [policy].find? (·.host == host) = none := by simp [Ne.symm own]
    rw [others, if_neg own, last, Option.or_none]

/-- A policy that is put in its place is the one of its host. -/
theorem policyOf_putHost (policy : HostPolicy) (hosts : List HostPolicy) (host : String) :
    policyOf (putHost hosts policy) host =
      if host = policy.host then some policy else policyOf hosts host := by
  unfold putHost policyOf
  cases known : hosts.any (·.host == policy.host) with
  | true =>
    have asked : ((fun (other : HostPolicy) => other.host == host) ∘
        fun other => if other.host == policy.host then policy else other) = (·.host == host) := by
      funext other
      by_cases here : other.host = policy.host <;> simp [here]
    rw [if_pos rfl, List.find?_map, asked]
    cases found : hosts.find? (·.host == host) with
    | none =>
      have apart : host ≠ policy.host := by
        rintro rfl
        rw [List.any_eq_not_all_not, Bool.not_eq_true', ← Bool.not_eq_true] at known
        exact known (by simpa using found)
      rw [if_neg apart]
      rfl
    | some other =>
      have named : other.host = host := by simpa using List.find?_some found
      by_cases own : host = policy.host <;> simp [named, own]
  | false =>
    rw [if_neg Bool.false_ne_true, List.find?_append]
    by_cases own : host = policy.host
    · subst own
      have none : hosts.find? (·.host == policy.host) = none := by simpa using known
      simp [none]
    · simp [own, Ne.symm own]

/-! ### Calls on the stores -/

/-- The rule as it was before any access was noted. -/
def Rule.withoutAccess (rule : Rule) : Rule :=
  { rule with lastAccessed := none }

theorem Rule.withoutAccess_noted (id : String) (millis : Int) (rule : Rule) :
    (rule.noted id millis).withoutAccess = rule.withoutAccess := by
  rw [noted]
  split <;> rfl

theorem setAttribute_lastAccessed (rule : Rule) (millis : Int) :
    setAttribute rule ("last_accessed", .int millis) =
      { rule with lastAccessed := some millis } := rfl

theorem replaceFirst_withoutAccess {id : Option String} {change : Rule → Rule}
    (keeps : ∀ rule, (change rule).withoutAccess = rule.withoutAccess)
    {rules changed : List Rule} (replaced : replaceFirst id change rules = some changed) :
    changed.map Rule.withoutAccess = rules.map Rule.withoutAccess := by
  -- Only the first rule with the id is changed; the induction follows the search for it.
  induction rules generalizing changed with
  | nil => cases replaced
  | cons rule rest ih =>
    rw [replaceFirst] at replaced
    split at replaced
    · cases replaced
      simp [keeps]
    · obtain ⟨others, found, rfl⟩ := Option.map_eq_some_iff.mp replaced
      simp [ih found]

namespace Stores

variable {stores after : Stores} {contents : Contents}

theorem changed_present (path : String) (database : Database)
    (change : Database → Except Failure Database) :
    changed path (.present database) change =
      (change database).map fun next => .tables path (.present next) := by
  simp only [changed, opened, Bind.bind, Except.bind]
  cases change database <;> rfl

/-- A change of the tables is one of the database that they are in. -/
theorem holds_of_changed {path : String} {database : Database} {contents : Contents}
    {change : Database → Except Failure Database}
    (preserves : ∀ next, change database = .ok next → contents.InTables next)
    (done : changed path (.present database) change = .ok after) : after.Holds contents := by
  rw [changed_present] at done
  cases result : change database with
  | error failure => simp [result, Except.map] at done
  | ok next =>
    simp only [result, Except.map, Except.ok.injEq] at done
    subst done
    exact .tables (preserves next result)

theorem insertRule_holds (held : stores.Holds contents) {id : String} {rule : Rule}
    (inserted : stores.insertRule id rule = .ok after) :
    after.Holds { contents with rules := contents.rules ++ [{ rule with id := some id }] } := by
  cases held with
  | memory m =>
    simp only [insertRule, Memory.insertRule] at inserted
    split at inserted
    · cases inserted
    · cases inserted
      exact .memory _
  | tables held => exact holds_of_changed (fun _ done => held.insertRule done) inserted

/-- Noting an access changes nothing else. -/
theorem noteAccess_holds (held : stores.Holds contents) {id : String} {millis : Int}
    (patched : stores.patchRule id [("last_accessed", .int millis)] = .ok after) :
    ∃ rules, after.Holds { contents with rules } ∧
      rules.map Rule.withoutAccess = contents.rules.map Rule.withoutAccess := by
  cases held with
  | memory m =>
    simp only [patchRule, Memory.patchRule, List.foldl_cons, List.foldl_nil,
      setAttribute_lastAccessed] at patched
    split at patched
    next rules replaced =>
      cases patched
      exact ⟨rules, .memory _, replaceFirst_withoutAccess (by intro _; rfl) replaced⟩
    next => cases patched
  | tables held =>
    refine ⟨_, holds_of_changed (fun _ done => held.noteAccess done) patched, ?_⟩
    rw [List.map_map]
    exact List.map_congr_left fun rule _ => Rule.withoutAccess_noted id millis rule

theorem deleteRules_holds (held : stores.Holds contents) {count : Nat}
    (deleted : stores.deleteRules = .ok (after, count)) :
    after.Holds { contents with rules := [] } := by
  cases held with
  | memory m =>
    cases deleted
    exact .memory _
  | tables held =>
    simp only [deleteRules, opened, Database.deleteAll, held.rules, kept, Bind.bind, Except.bind,
      Pure.pure, Except.pure, Except.ok.injEq, Prod.mk.injEq] at deleted
    obtain ⟨rfl, _⟩ := deleted
    exact .tables (held.setRules [])

/-- Whatever the order of the policies, the one that is added is found for its host from then on. -/
theorem insertHost_holds (held : stores.Holds contents) {policy : HostPolicy}
    (inserted : stores.insertHost policy = .ok after) :
    ∃ hosts, after.Holds { contents with hosts } ∧
      ∀ host, policyOf hosts host =
        if host = policy.host then some policy else policyOf contents.hosts host := by
  cases held with
  | memory m =>
    cases inserted
    exact ⟨_, .memory _, policyOf_append policy m.hosts⟩
  | tables held =>
    exact ⟨_, holds_of_changed (fun _ done => held.insertHost done) inserted,
      policyOf_putHost policy _⟩

theorem insertVersion_holds (held : stores.Holds contents) {version : ActiveVersion}
    (inserted : stores.insertVersion version = .ok after) :
    after.Holds { contents with versions := contents.versions ++ [version] } := by
  cases held with
  | memory m =>
    cases inserted
    exact .memory _
  | tables held => exact holds_of_changed (fun _ done => held.insertVersion done) inserted

theorem deleteVersions_holds (held : stores.Holds contents) {count : Nat}
    (deleted : stores.deleteVersions = .ok (after, count)) :
    after.Holds { contents with versions := [] } := by
  cases held with
  | memory m =>
    cases deleted
    exact .memory _
  | tables held =>
    simp only [deleteVersions, opened, Database.deleteAll, held.versions, kept, Bind.bind,
      Except.bind, Pure.pure, Except.pure, Except.ok.injEq, Prod.mk.injEq] at deleted
    obtain ⟨rfl, _⟩ := deleted
    exact .tables (held.setVersions [])

/-- The policies of a host are found in the order in which they are held. -/
theorem searchHosts_of_holds (held : stores.Holds contents) (host : String) :
    stores.searchHosts [.one (.equals "host" (.text host))] =
      .ok (contents.hosts.filter (·.host == host)) := by
  have suits : ∀ criterion ∈ [Criterion.one (.equals "host" (.text host))],
      criterion.suits hostColumns = true := by
    intro criterion member
    cases List.mem_singleton.mp member
    rfl
  have wanted (policy : HostPolicy) :
      satisfies [.one (.equals "host" (.text host))] policy.attributes = (policy.host == host) := by
    have has : policy.attributes.lookup "host" = some (.text policy.host) := rfl
    have holds : (Condition.equals "host" (.text host)).holds .none policy.attributes = _ :=
      holds_equals_text has host
    simp only [satisfies, recordMatches, Criterion.holds, holds]
    cases policy.host == host <;> rfl
  cases held with
  | memory m =>
    simp only [searchHosts, Store.search,
      select_of_suits suits (fun policy _ => conforms_host policy) m.others, wanted]
    rfl
  | @tables path database _ held =>
    obtain ⟨clauses, values, made, selected⟩ :=
      select_rowOf suits (fun policy _ => conforms_host policy) held.hosts
    have bound : database.parameters clauses values = .ok [.text host] := by
      cases made
      exact database.parameters_of_small (by simp [sizeOfAll, Clause.size]) _
    have same : ∀ row ∈ (contents.hosts.filter (·.host == host)).map HostPolicy.row,
        row.cell "host" = .text host := by
      intro row member
      obtain ⟨policy, found, rfl⟩ := List.mem_map.mp member
      exact congrArg Cell.text (beq_iff_eq.mp (List.mem_filter.mp found).2)
    simp only [wanted] at selected
    simp only [searchHosts, queried, made, opened, Tables.searchHosts, selected, bound, Bind.bind,
      Except.bind, Except.map, byHost_of_same same]
    exact readRows_rowOf hostOfRow_rowOf _

end Stores

end Signpost
