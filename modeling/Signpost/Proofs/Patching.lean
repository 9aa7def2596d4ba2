import Signpost.Proofs.Keeping
import Signpost.Proofs.Unknown

/-!
# Patches

A patch sets attributes of the rule with an id. Memory sets whatever it is given, as long as there is
such a rule. Tables look at the names of the attributes first, and then at the row that the rule would
become; whether there is such a rule they do not ask.

## Main results

`patch_memory_fails_iff` and `patch_tables_fails_iff` say which patches fail with an error of the store.
`holds_of_patched_memory` and `holds_of_patched_tables`: a patch that is accepted sets the attributes of
the rule with the id, in stores of either kind.

## Proof strategy

Where ids differ, at most one row is changed, so that the fault of the change is the fault of that row
(`updateRows_of_unique`). Its cells are those of the patch in front of those of the rule. In memory the
attributes are set one after the other, which is the same where each is set once
(`row_foldl_setAttribute`).
-/
namespace Signpost

open Sql Store

/-! ### The fields of a patch -/

/-- Some rule has the attribute of the field with its value. -/
def IsAttribute (field : String × Value) : Prop :=
  ∃ rule : Rule, field ∈ rule.attributes

/-- A field of a patch: rules do not have the attribute, or they have it with the value, unless it is
null. -/
def Settable (field : String × Value) : Prop :=
  Rule.attributeNames.contains field.1 = true → field.2 = .null ∨ IsAttribute field

/-- One of the rules has the id. -/
def Knows (rules : List Rule) (id : String) : Prop :=
  ∃ rule ∈ rules, rule.id = some id

/-- The patch sets an attribute that rules do not have. -/
def SetsUnknown (fields : List (String × Value)) : Prop :=
  ∃ field ∈ fields, Rule.attributeNames.contains field.1 = false

/-- The patch takes away the value of an attribute that is required. -/
def Empties (fields : List (String × Value)) : Prop :=
  ∃ column ∈ ruleColumns, column.required = true ∧ fields.lookup column.name = some .null

/-- The patch of the rule with the id gives it the id of another one. -/
def Clashes (rules : List Rule) (id : String) (fields : List (String × Value)) : Prop :=
  ∃ taken, fields.lookup "id" = some (.text taken) ∧ taken ≠ id ∧ Knows rules taken

variable {field : String × Value} {fields : List (String × Value)} {rule : Rule} {id : String}

/-- An attribute that is set to a value is the only one that changes, in memory as in a row. -/
theorem row_setAttribute (is : IsAttribute field) (rule : Rule) :
    Rule.row (setAttribute rule field) = Database.assign rule.row (rowOf [field]) := by
  obtain ⟨other, member⟩ := is
  simp only [Rule.attributes, Rule.attributeNames, Rule.values, List.zip_cons_cons,
    List.zip_nil_right, List.mem_cons, List.not_mem_nil, or_false] at member
  rcases member with rfl | rfl | rfl | rfl | rfl | rfl | rfl | rfl | rfl | rfl | rfl
  · cases other.id <;> rfl
  · rfl
  · rfl
  · rfl
  · rfl
  · rfl
  · cases other.start <;> rfl
  · cases other.stop <;> rfl
  · cases other.operations <;> rfl
  · rfl
  · cases other.lastAccessed <;> rfl

/-- Cells that are set one after the other, in different columns, are set all at once. -/
theorem assign_cons {row : Row} (absent : field.1 ∉ fields.map (·.1)) :
    Database.assign (Database.assign row (rowOf [field])) (rowOf fields) =
      Database.assign row (rowOf (field :: fields)) := by
  simp only [Database.assign, List.map_map]
  refine List.map_congr_left fun entry _ => ?_
  obtain ⟨key, value⟩ := field
  simp only [Function.comp_apply, lookup_rowOf, List.lookup_cons, List.lookup_nil]
  cases same : entry.1 == key with
  | true =>
    rw [beq_iff_eq.mp same, lookup_of_absent absent]
    rfl
  | false => rfl

/-- Attributes that are set to values are the only ones that change, in memory as in a row. -/
theorem row_foldl_setAttribute (distinct : (fields.map (·.1)).Nodup)
    (are : ∀ field ∈ fields, IsAttribute field) (rule : Rule) :
    Rule.row (fields.foldl setAttribute rule) = Database.assign rule.row (rowOf fields) := by
  induction fields generalizing rule with
  | nil => exact (List.map_id' _).symm
  | cons field rest ih =>
    rw [List.map_cons, List.nodup_cons] at distinct
    rw [List.foldl_cons, ih distinct.2 fun other member => are other (.tail _ member),
      row_setAttribute (are field (.head _)), assign_cons distinct.1]

/-- A field of an attribute that rules have is taken by the column of the attribute. -/
theorem exists_column (settable : Settable field)
    (known : Rule.attributeNames.contains field.1 = true) :
    ∃ column ∈ ruleColumns, field.1 = column.name ∧ column.Takes field.2 := by
  rcases settable known with null | ⟨rule, member⟩
  · have found := (isSome_find?_ruleColumns field.1).trans known
    obtain ⟨column, present⟩ := Option.isSome_iff_exists.mp found
    refine ⟨column, List.mem_of_find?_eq_some present, ?_, Or.inl null⟩
    have named := List.find?_some present
    exact (of_decide_eq_true named).symm
  · exact column_of_taken (conforms_rule rule).taken member

theorem known_of_not_setsUnknown (known : ¬ SetsUnknown fields) :
    ∀ field ∈ fields, Rule.attributeNames.contains field.1 = true :=
  fun field member => Bool.eq_true_of_not_eq_false fun missing => known ⟨field, member, missing⟩

/-- Fields of attributes that rules have are taken by columns. -/
theorem taken_of_settable (settable : ∀ field ∈ fields, Settable field)
    (known : ¬ SetsUnknown fields) : Taken ruleColumns fields :=
  fun field member =>
    exists_column (settable field member) (known_of_not_setsUnknown known field member)

/-- A column that is not required takes the null value as rules do. -/
theorem isAttribute_null {column : Column} (member : column ∈ ruleColumns)
    (optional : column.required = false) : IsAttribute (column.name, .null) := by
  refine ⟨⟨none, "", "", 0, "", 301, none, none, none, false, none⟩, ?_⟩
  simp only [ruleColumns, List.mem_cons, List.not_mem_nil, or_false] at member
  rcases member with rfl | rfl | rfl | rfl | rfl | rfl | rfl | rfl | rfl | rfl | rfl <;>
  first
    | exact Bool.noConfusion optional
    | simp [Rule.attributes, Rule.attributeNames, Rule.values, Value.ofOption]

/-- Fields that take no value away that is required are attributes. -/
theorem isAttribute_of_settable (distinct : (fields.map (·.1)).Nodup) (keeps : ¬ Empties fields)
    (settable : Settable field) (known : Rule.attributeNames.contains field.1 = true)
    (member : field ∈ fields) : IsAttribute field := by
  rcases settable known with null | is
  · obtain ⟨column, present, named, _⟩ := exists_column settable known
    obtain ⟨name, value⟩ := field
    subst named null
    refine isAttribute_null present (Bool.eq_false_of_not_eq_true fun required => keeps ?_)
    refine ⟨column, present, required, ?_⟩
    exact lookup_of_member distinct member
  · exact is

/-! ### Rows that are patched -/

namespace Sql.Database

variable {name key : String} {columns : List Column} {keyCell : Cell} {cells row : Row}
  {before rows front back : List Row}

theorem lookup_assign (row cells : Row) (name : String) :
    (assign row cells).lookup name =
      (row.lookup name).map fun cell => (cells.lookup name).getD cell := by
  induction row with
  | nil => rfl
  | cons entry rest ih =>
    obtain ⟨other, cell⟩ := entry
    simp only [assign, List.map_cons, List.lookup_cons] at ih ⊢
    cases same : name == other with
    | true => rw [beq_iff_eq.mp same, Option.map_some]
    | false => exact ih

theorem updateRows_of_absent (absent : ∀ row ∈ rows, row.cell key ≠ keyCell) :
    updateRows name columns key keyCell cells before rows = .ok (before ++ rows) := by
  induction rows generalizing before with
  | nil => rw [updateRows, List.append_nil]
  | cons row rest ih =>
    have other : (row.cell key == keyCell && keyCell != .null) = false := by
      rw [beq_eq_false_iff_ne.mpr (absent row (.head _)), Bool.false_and]
    rw [updateRows, if_neg (ne_true_of_eq_false other),
      ih fun row member => absent row (.tail _ member), List.append_assoc]
    rfl

/-- The only row with the key is changed, unless the change is at fault. -/
theorem updateRows_of_unique (present : keyCell ≠ .null) (here : row.cell key = keyCell)
    (absentFront : ∀ row ∈ front, row.cell key ≠ keyCell)
    (absentBack : ∀ row ∈ back, row.cell key ≠ keyCell) :
    updateRows name columns key keyCell cells before (front ++ row :: back) =
      match (nullFault? name columns (assign row cells)).or
        (keyFault? name key (before ++ front ++ back) (assign row cells)) with
      | some failure => .error failure
      | none => .ok (before ++ front ++ assign row cells :: back) := by
  induction front generalizing before with
  | nil =>
    have found : (row.cell key == keyCell && keyCell != .null) = true := by
      simp [here, present]
    rw [List.append_nil]
    cases fault : (nullFault? name columns (assign row cells)).or
        (keyFault? name key (before ++ back) (assign row cells)) with
    | some failure => simp [updateRows, found, fault]
    | none => simp [updateRows, found, fault, updateRows_of_absent absentBack]
  | cons first rest ih =>
    have other : (first.cell key == keyCell && keyCell != .null) = false := by
      rw [beq_eq_false_iff_ne.mpr (absentFront first (.head _)), Bool.false_and]
    rw [List.cons_append, updateRows, if_neg (ne_true_of_eq_false other),
      ih fun row member => absentFront row (.tail _ member)]
    simp only [List.append_assoc, List.singleton_append]

end Sql.Database

theorem cellOf_eq_null_iff {column : Column} {value : Value} (takes : column.Takes value) :
    cellOf value = .null ↔ value = .null := by
  rcases takes with rfl | pref
  · simp [cellOf]
  · cases kind : column.affinity <;> cases value <;> simp_all [Affinity.prefers, cellOf]

/-- A value that is found for a column is taken by it, since columns differ in their names. -/
theorem takes_of_lookup (taken : Taken ruleColumns fields) {column : Column} {value : Value}
    (member : column ∈ ruleColumns) (given : fields.lookup column.name = some value) :
    column.Takes value := by
  obtain ⟨before, after, rfl, _⟩ := List.lookup_eq_some_iff.mp given
  obtain ⟨other, stands, same, takes⟩ := taken (column.name, value) (by simp)
  have distinct := (conforms_rule default).distinct
  have here := find?_of_mem distinct member
  rw [show column.name = other.name from same, find?_of_mem distinct stands] at here
  exact Option.some.inj here ▸ takes

theorem cell_patched {column : Column} (member : column ∈ ruleColumns) (rule : Rule)
    (fields : List (String × Value)) :
    (Database.assign rule.row (rowOf fields)).cell column.name =
      ((fields.lookup column.name).map cellOf).getD (rule.row.cell column.name) := by
  obtain ⟨value, found, _⟩ := (conforms_rule rule).attribute member
  rw [Row.cell, Row.cell, Database.lookup_assign, lookup_rowOf, lookup_rowOf, found]
  rfl

theorem isSome_nullFault?_iff (taken : Taken ruleColumns fields) (named : rule.id = some id) :
    (Database.nullFault? "rules" ruleColumns
      (Database.assign rule.row (rowOf fields))).isSome = true ↔ Empties fields := by
  rw [Database.nullFault?, Option.isSome_map, List.find?_isSome]
  simp only [Bool.and_eq_true, beq_iff_eq]
  refine exists_congr fun column => and_congr_right fun member => and_congr_right fun required => ?_
  rw [cell_patched member]
  cases given : fields.lookup column.name with
  | some value => simpa using cellOf_eq_null_iff (takes_of_lookup taken member given)
  | none =>
    -- The rule itself has a value for every attribute that is required.
    have complete := nullFault?_row named "rules"
    rw [Database.nullFault?, Option.map_eq_none_iff, List.find?_eq_none] at complete
    simpa [required] using complete column member

theorem cell_id_eq_iff (rule : Rule) (id : String) :
    rule.row.cell "id" = .text id ↔ rule.id = some id := by
  rw [← beq_iff_eq, cell_id_beq, decide_eq_true_eq]

theorem isSome_keyFault?_iff (taken : Taken ruleColumns fields) (named : rule.id = some id)
    {others : List Rule} (apart : ∀ other ∈ others, other.id ≠ some id) :
    (Database.keyFault? "rules" "id" (others.map Rule.row)
      (Database.assign rule.row (rowOf fields))).isSome = true ↔
        ∃ other, fields.lookup "id" = some (.text other) ∧ Knows others other := by
  have fault (cell : Cell) : (Database.assign rule.row (rowOf fields)).cell "id" = cell →
      ((Database.keyFault? "rules" "id" (others.map Rule.row)
        (Database.assign rule.row (rowOf fields))).isSome = true ↔
          cell ≠ .null ∧ ∃ other ∈ others, other.row.cell "id" = cell) := by
    rintro rfl
    rw [Database.keyFault?]
    split
    next both => exact iff_of_true rfl (by simpa using both)
    next neither => exact iff_of_false Bool.false_ne_true (by simpa using neither)
  have member : (⟨"id", .text, true⟩ : Column) ∈ ruleColumns := .head _
  rw [fault _ (cell_patched member rule fields)]
  cases given : fields.lookup "id" with
  | none =>
    -- The rule keeps its id, which no other rule has.
    have own : rule.row.cell "id" = .text id := (cell_id_eq_iff rule id).mpr named
    simpa [own, cell_id_eq_iff] using apart
  | some value =>
    rcases takes_of_lookup taken member given with rfl | text
    · simp [cellOf]
    · obtain ⟨other, rfl⟩ := text_of_prefers text
      simp [cellOf, cell_id_eq_iff, Knows]

/-- What the tables find at fault with a row is an error of the store. -/
theorem isOwn_of_fault {name key : String} {columns : List Column} {others : List Row} {row : Row}
    {failure : Failure} (fault : (Database.nullFault? name columns row).or
      (Database.keyFault? name key others row) = some failure) : failure.isOwn = true := by
  rcases Option.or_eq_some_iff.mp fault with empty | ⟨_, taken⟩
  · obtain ⟨column, _, rfl⟩ := Option.map_eq_some_iff.mp empty
    rfl
  · unfold Database.keyFault? at taken
    split at taken <;> cases taken
    rfl

/-! ### The rule with the id -/

variable {rules front back : List Rule}

theorem knows_iff : Knows rules id ↔ rules.any (·.id = some id) = true := by
  simp [Knows]

/-- Where ids differ, the rule with an id stands among rules with other ids. -/
theorem exists_among (distinct : (rules.map (·.id)).Nodup) (has : Knows rules id) :
    ∃ front rule back, rules = front ++ rule :: back ∧ rule.id = some id ∧
      ∀ other ∈ front ++ back, other.id ≠ some id := by
  obtain ⟨rule, member, named⟩ := has
  obtain ⟨front, back, rfl⟩ := List.append_of_mem member
  refine ⟨front, rule, back, rfl, named, fun other present same => ?_⟩
  rw [List.map_append, List.map_cons, List.nodup_middle, List.nodup_cons, ← List.map_append,
    named, ← same] at distinct
  exact distinct.1 (List.mem_map_of_mem present)

theorem cells_apart (apart : ∀ other ∈ rules, other.id ≠ some id) :
    ∀ row ∈ rules.map Rule.row, row.cell "id" ≠ .text id := by
  intro row present same
  obtain ⟨other, member, rfl⟩ := List.mem_map.mp present
  exact apart other member ((cell_id_eq_iff other id).mp same)

/-- Only another rule is in the way of a new id. -/
theorem clashes_iff (named : rule.id = some id)
    (apart : ∀ other ∈ front ++ back, other.id ≠ some id) :
    Clashes (front ++ rule :: back) id fields ↔
      ∃ taken, fields.lookup "id" = some (.text taken) ∧ Knows (front ++ back) taken := by
  refine exists_congr fun taken => and_congr_right fun _ => ?_
  have members (other : Rule) :
      other ∈ front ++ rule :: back ↔ other = rule ∨ other ∈ front ++ back :=
    List.perm_middle.mem_iff.trans List.mem_cons
  constructor
  · rintro ⟨differs, other, present, has⟩
    refine ⟨other, ((members other).mp present).resolve_left ?_, has⟩
    rintro rfl
    exact differs (Option.some.inj (has.symm.trans named))
  · rintro ⟨other, present, has⟩
    refine ⟨?_, other, (members other).mpr (Or.inr present), has⟩
    rintro rfl
    exact apart other present has

/-- The row of the rule with the id is at fault if a value that is required is taken away, or the id
is that of another rule. -/
theorem updateRows_fails_iff (taken : Taken ruleColumns fields)
    (distinct : (rules.map (·.id)).Nodup) (id : String) :
    Fails (Database.updateRows "rules" ruleColumns "id" (.text id) (rowOf fields) []
        (rules.map Rule.row)) ↔
      Knows rules id ∧ (Empties fields ∨ Clashes rules id fields) := by
  by_cases has : Knows rules id
  · -- One row is changed, and the rows before and behind it are those of other rules.
    obtain ⟨front, rule, back, rfl, named, apart⟩ := exists_among distinct has
    have absentFront := cells_apart fun other member => apart other (List.mem_append_left _ member)
    have absentBack := cells_apart fun other member => apart other (List.mem_append_right _ member)
    rw [and_iff_right has, clashes_iff named apart, ← isSome_nullFault?_iff taken named,
      ← isSome_keyFault?_iff taken named apart, ← Bool.or_eq_true, ← Option.isSome_or,
      List.map_append, List.map_cons, Database.updateRows_of_unique Cell.noConfusion
        ((cell_id_eq_iff rule id).mpr named) absentFront absentBack, List.nil_append,
      ← List.map_append]
    cases fault : (Database.nullFault? "rules" ruleColumns
        (Database.assign rule.row (rowOf fields))).or
      (Database.keyFault? "rules" "id" ((front ++ back).map Rule.row)
        (Database.assign rule.row (rowOf fields))) with
    | none => simp [Fails]
    | some failure => exact iff_of_true ⟨failure, rfl, isOwn_of_fault fault⟩ rfl
  · have absent := cells_apart fun rule member named => has ⟨rule, member, named⟩
    rw [Database.updateRows_of_absent absent]
    simp [Fails, has]

/-! ### Patches in memory -/

variable {contents : Contents} {database : Database} {m : Memory}

/-- The rule with its attributes set, if it has the id. -/
def Rule.patched (id : String) (fields : List (String × Value)) (rule : Rule) : Rule :=
  if rule.id = some id then fields.foldl setAttribute rule else rule

theorem patch_memory_eq (distinct : (m.rules.map (·.id)).Nodup) (id : String)
    (fields : List (String × Value)) :
    Stores.patchRule (.memory m) id fields =
      if m.rules.any (·.id = some id) then
        .ok (.memory { m with rules := m.rules.map (Rule.patched id fields) })
      else .error (.notFound id) := by
  simp only [Stores.patchRule, Memory.patchRule, replaceFirst_eq_map distinct]
  cases m.rules.any (·.id = some id) <;> rfl

/-- In memory, a patch fails if no rule has the id. -/
theorem patch_memory_fails_iff (distinct : (m.rules.map (·.id)).Nodup) (id : String)
    (fields : List (String × Value)) :
    Fails (Stores.patchRule (.memory m) id fields) ↔ ¬ Knows m.rules id := by
  rw [patch_memory_eq distinct, knows_iff]
  split
  next known => simp [Fails, known]
  next unknown => exact iff_of_true ⟨.notFound id, rfl, rfl⟩ unknown

theorem holds_of_patched_memory (distinct : (m.rules.map (·.id)).Nodup) {after : Stores}
    (patched : Stores.patchRule (.memory m) id fields = .ok after) :
    Knows m.rules id ∧
      after.Holds ⟨m.rules.map (Rule.patched id fields), m.hosts, m.versions⟩ := by
  rw [patch_memory_eq distinct] at patched
  split at patched
  next known =>
    cases patched
    exact ⟨knows_iff.mpr known, .memory _⟩
  next => cases patched

/-! ### Patches in tables -/

theorem filter_unknown_eq_nil_iff :
    (fields.map (·.1)).filter (fun name => !Rule.attributeNames.contains name) = [] ↔
      ¬ SetsUnknown fields := by
  rw [List.filter_eq_nil_iff]
  simp [SetsUnknown]

theorem patch_tables_of_unknown (unknown : SetsUnknown fields) (path : String)
    (file : DatabaseFile) (id : String) : ∃ names,
    Stores.patchRule (.tables path file) id fields = .error (.unknownAttributes names) := by
  have some : ¬ fields.isEmpty = true := by
    intro none
    rw [List.isEmpty_iff] at none
    simp [none, SetsUnknown] at unknown
  have listed := filter_unknown_eq_nil_iff.not.mpr (not_not.mpr unknown)
  simp only [Stores.patchRule]
  rw [if_neg some, if_pos (by simpa using listed)]
  exact ⟨_, rfl⟩

theorem all_fit_iff :
    (fields.map fun field => asNumber field.2).all (·.fits) = true ↔
      ∀ field ∈ fields, field.2.fits = true := by
  have same (value : Value) : (asNumber value).fits = value.fits := by
    cases value with
    | bool flag => cases flag <;> rfl
    | _ => rfl
  simp [same]

/-- A patch of attributes that rules have is bound if its integers fit, and then set in the rows. -/
theorem Sql.Database.update_of_taken (held : contents.InTables database)
    (taken : Taken ruleColumns fields) (id : String) :
    ∃ count, database.update "rules" ruleColumns "id" (.text id) fields =
      if (fields.map fun field => asNumber field.2).all (·.fits) then
        (updateRows "rules" ruleColumns "id" (.text id) (rowOf fields) []
          (contents.rules.map Rule.row)).map fun changed => (database.setRows "rules" changed, count)
      else .error .integerTooLarge := by
  have bound := bindAll_eq (plain_of_taken taken) 1
  have boundKey : Sql.bind (fields.length + 1) (.text id) = .ok (.text id) := rfl
  have key : Affinity.text.stored (.text id) = .text id := rfl
  have stored := stored_of_taken taken (conforms_rule default).distinct
  refine ⟨((contents.rules.map Rule.row).filter (·.cell "id" == .text id)).length, ?_⟩
  cases fits : (fields.map fun field => asNumber field.2).all (·.fits) with
  | false => simp [update, held.rules, bound, fits, Bind.bind, Except.bind]
  | true =>
    simp only [update, held.rules, bound, fits, boundKey, key, zip_cells, stored, if_true,
      Bind.bind, Except.bind, Pure.pure, Except.pure]
    cases updateRows "rules" ruleColumns "id" (.text id) (rowOf fields) []
      (contents.rules.map Rule.row) <;> rfl

/-- A patch of attributes that rules have is an update of the table, unless it sets nothing. -/
theorem patch_tables_of_known (known : ¬ SetsUnknown fields) (some : fields ≠ []) (path : String)
    (database : Database) (id : String) :
    Stores.patchRule (.tables path (.present database)) id fields =
      (database.update "rules" ruleColumns "id" (.text id) fields).map
        fun result => .tables path (.present result.1) := by
  have listed := filter_unknown_eq_nil_iff.mpr known
  simp only [Stores.patchRule, listed, Stores.changed_present, Tables.patchRule]
  rw [if_neg (by simpa using some), if_neg (by simp)]
  cases database.update "rules" ruleColumns "id" (.text id) fields <;> rfl

variable (settable : ∀ field ∈ fields, Settable field) (held : contents.InTables database)
  (distinct : (contents.rules.map (·.id)).Nodup)

include settable held distinct

/-- In tables, a patch fails if it sets an unknown attribute; or, where its integers fit and a rule has
the id, if it takes away a value that is required or gives the id of another rule. -/
theorem patch_tables_fails_iff (path id : String) :
    Fails (Stores.patchRule (.tables path (.present database)) id fields) ↔
      SetsUnknown fields ∨ (∀ field ∈ fields, field.2.fits = true) ∧ Knows contents.rules id ∧
        (Empties fields ∨ Clashes contents.rules id fields) := by
  by_cases unknown : SetsUnknown fields
  · obtain ⟨names, failed⟩ := patch_tables_of_unknown unknown path (.present database) id
    exact iff_of_true ⟨_, failed, rfl⟩ (Or.inl unknown)
  rw [or_iff_right unknown]
  by_cases some : fields = []
  · subst some
    simp [Stores.patchRule, Fails, Empties, Clashes]
  have taken := taken_of_settable settable unknown
  obtain ⟨count, updated⟩ := Database.update_of_taken held taken id
  rw [patch_tables_of_known unknown some, ← updateRows_fails_iff taken distinct, ← all_fit_iff,
    updated]
  cases (fields.map fun field => asNumber field.2).all (·.fits) with
  | false =>
    -- An integer that is too large is no error of the store.
    refine iff_of_false ?_ (by simp)
    rintro ⟨failure, failed, own⟩
    cases failed
    cases own
  | true =>
    cases Database.updateRows "rules" ruleColumns "id" (.text id) (rowOf fields) []
      (contents.rules.map Rule.row) <;> simp [Fails, Except.map]

theorem holds_of_patched_tables (names : (fields.map (·.1)).Nodup) (has : Knows contents.rules id)
    {path : String} {after : Stores}
    (patched : Stores.patchRule (.tables path (.present database)) id fields = .ok after) :
    after.Holds { contents with rules := contents.rules.map (Rule.patched id fields) } := by
  have accepted : ¬ Fails (Stores.patchRule (.tables path (.present database)) id fields) := by
    rintro ⟨failure, failed, _⟩
    cases patched.symm.trans failed
  rw [patch_tables_fails_iff settable held distinct, not_or] at accepted
  obtain ⟨known, sound⟩ := accepted
  by_cases some : fields = []
  · subst some
    cases patched
    have same : contents.rules.map (Rule.patched id []) = contents.rules :=
      (List.map_congr_left fun rule _ => ite_self rule).trans (List.map_id' _)
    exact same.symm ▸ .tables held
  rw [patch_tables_of_known known some] at patched
  cases updated : database.update "rules" ruleColumns "id" (.text id) fields with
  | error failure => simp [updated, Except.map] at patched
  | ok result =>
    simp only [updated, Except.map, Except.ok.injEq] at patched
    subst patched
    have taken := taken_of_settable settable known
    -- What was bound fits, so that no value that is required was taken away.
    have fits : ∀ field ∈ fields, field.2.fits = true := by
      obtain ⟨_, _, bound, _⟩ := Database.update_eq held.rules updated
      rw [bindAll_eq (plain_of_taken taken)] at bound
      split at bound
      next fits => exact all_fit_iff.mp fits
      next => cases bound
    have keeps : ¬ Empties fields := fun empties => sound ⟨fits, has, Or.inl empties⟩
    have are : ∀ field ∈ fields, IsAttribute field := fun field member =>
      isAttribute_of_settable names keeps (settable field member)
        (known_of_not_setsUnknown known field member) member
    refine .tables (held.of_update updated (plain_of_taken taken) fun rule => ?_)
    rw [zip_cells, stored_of_taken taken (conforms_rule default).distinct]
    exact (row_foldl_setAttribute names are rule).symm

end Signpost
