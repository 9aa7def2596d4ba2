import Signpost.Proofs.Entry

/-!
# What an import leaves in the stores

A row of a sheet is refused and leaves the rules as they are, or a rule with the key of the row is
put after all others. It is refused in particular if a rule with its key is stored already, so keys
stay unique through every import.

## Main results

`importRow_effect` says what one row does, and `importAfterFaltering_appends` what the rows of a
sheet do, while the failures in the way may change from row to row.

## Proof strategy

What a row does is read off its fate (`settles_or_breaks`): only one that is stored changes the rules,
and its key was looked up before and not found. The rows of a sheet follow by induction.
-/
namespace Signpost.Sheet

open Store (Failure)

variable [Platform] {base next : RuleBase} {rules : List Rule} {row normal : Row} {version : Int}
  {defaults : Defaults} {rule : Rule} {fate : Fate}

/-! ### One row -/

/-- The rule that the row is stored as; nothing if it is not inserted. -/
def storedRule? (base : RuleBase) (defaults : Defaults) (version : Int) (row : Row) : Option Rule :=
  match (importRow base defaults version row).2, normalizeRow row version with
  | .ok .inserted, .ok normal =>
    match ruleOfRow normal defaults with
    | .ok rule => (base.insert rule).2.toOption
    | .error _ => none
  | _, _ => none

theorem importRow_faults (base : RuleBase) (defaults : Defaults) (version : Int) (row : Row) :
    (importRow base defaults version row).1.faults = base.faults := by
  rcases settles_or_breaks defaults version base row with
    ⟨fate, next, settles⟩ | ⟨failure, next, breaks⟩
  · rw [settles.importRow_eq]
    exact settles.faults
  · rw [breaks.importRow_eq]
    exact breaks.faults

theorem Settles.storedRule?_eq (settles : Settles defaults version base row fate next) :
    storedRule? base defaults version row = fate.toOption := by
  have result := settles.importRow_eq
  cases settles with
  | refused | duplicate | failed | unheld =>
    simp only [storedRule?, result]
    rfl
  | stored entered _ inserted =>
    obtain ⟨_, normalized, made⟩ := entry?_eq_some_iff.mp entered
    simp only [storedRule?, result, Fate.outcome, normalized, made, inserted]
    rfl

theorem Breaks.storedRule?_eq {failure : Failure}
    (breaks : Breaks defaults version base row failure next) :
    storedRule? base defaults version row = none := by
  simp only [storedRule?, breaks.importRow_eq]

theorem Breaks.stores {failure : Failure}
    (breaks : Breaks defaults version base row failure next) : next.stores = base.stores := by
  cases breaks with
  | unread | lookup | unshown => rfl
  | insertion _ _ failed _ => exact RuleBase.stores_of_insert_error failed
  | unheld isNormal _ made failed _ => exact (kept_of_unheld isNormal made failed).1

/-- A row is refused and leaves the stores as they are, or it is inserted as a rule that has its
key, which no other stored rule has. -/
theorem importRow_effect (held : base.stores.HoldRules rules) (defaults : Defaults) (version : Int)
    (row : Row) :
    (storedRule? base defaults version row = none ∧
        (importRow base defaults version row).1.stores = base.stores) ∨
      ∃ rule, storedRule? base defaults version row = some rule ∧
        (importRow base defaults version row).1.stores.HoldRules (rules ++ [rule]) ∧
        (∀ other ∈ rules, other.key ≠ rule.key) ∧ KeyedBy version row rule := by
  rcases settles_or_breaks defaults version base row with
    ⟨fate, next, settles⟩ | ⟨failure, next, breaks⟩
  · rw [settles.storedRule?_eq, settles.importRow_eq]
    cases settles with
    | refused | duplicate => exact Or.inl ⟨rfl, rfl⟩
    | failed _ _ failed _ => exact Or.inl ⟨rfl, RuleBase.stores_of_insert_error failed⟩
    | unheld isNormal _ made failed _ => exact Or.inl ⟨rfl, (kept_of_unheld isNormal made failed).1⟩
    | stored entered absent inserted =>
      obtain ⟨id, same, taken⟩ := RuleBase.stores_of_insert_ok inserted
      obtain ⟨hosts, versions, holds⟩ := held
      have appended := Stores.insertRule_holds holds taken
      rw [← same] at appended
      -- The key that was looked up is that of the rule, whatever its id.
      have absent := key_ne_of_search ⟨hosts, versions, holds⟩ (keyed_of_entry entered) absent
      have keyed := keyedBy_of_entry entered
      exact Or.inr ⟨_, rfl, ⟨hosts, versions, appended⟩, absent, keyed.key, keyed.version,
        keyed.isPattern⟩
  · rw [breaks.storedRule?_eq, breaks.importRow_eq]
    exact Or.inl ⟨rfl, breaks.stores⟩

/-! ### The rows of a sheet -/

/-- The stores hold the rules and after them those of the entries, no two rules have the same key, and
every entry is a row with a rule that is keyed by it. -/
structure Appended (rules : List Rule) (stores : Stores) (entries : List (Row × Rule)) : Prop where
  held : stores.HoldRules (rules ++ entries.map (·.2))
  unique : KeysUnique (rules ++ entries.map (·.2))
  keyed : ∀ entry ∈ entries, ∃ version, KeyedBy version entry.1 entry.2

theorem Appended.nil {stores : Stores} (held : stores.HoldRules rules)
    (unique : KeysUnique rules) : Appended rules stores [] := by
  refine ⟨?_, ?_, fun _ member => nomatch member⟩
  · simpa using held
  · simpa using unique

theorem Appended.append {before after : Stores} {first second : List (Row × Rule)}
    (earlier : Appended rules before first)
    (later : Appended (rules ++ first.map (·.2)) after second) :
    Appended rules after (first ++ second) := by
  obtain ⟨held, unique, keyed⟩ := later
  simp only [List.append_assoc, ← List.map_append] at held unique
  refine ⟨held, unique, fun entry member => ?_⟩
  rcases List.mem_append.mp member with here | there
  · exact earlier.keyed entry here
  · exact keyed entry there

theorem importRow_appends (held : base.stores.HoldRules rules) (unique : KeysUnique rules)
    (defaults : Defaults) (version : Int) (row : Row) :
    Appended rules (importRow base defaults version row).1.stores
      ((storedRule? base defaults version row).map fun rule => (row, rule)).toList := by
  rcases importRow_effect held defaults version row with
    ⟨none, same⟩ | ⟨rule, stored, holds, absent, keyed⟩
  · rw [none, same]
    exact .nil held unique
  · rw [stored]
    refine ⟨holds, unique.append absent, fun entry member => ?_⟩
    cases List.mem_singleton.mp member
    exact ⟨version, keyed⟩

/-- The rows of a sheet after those of the report, each with the failures that are in the way while
it is taken. -/
def importAfterFaltering (defaults : Defaults) (version : Int) (report : Report)
    (base : RuleBase) : List (Faults × Row) → RuleBase × Except Failure Report
  | [] => (base, .ok report)
  | (faults, row) :: rest =>
    match importRow { base with faults } defaults version row with
    | (base, .error failure) => (base, .error failure)
    | (base, .ok outcome) => importAfterFaltering defaults version (report.add outcome) base rest

/-- The rows that are inserted of a sheet, in order, each with the rule that it is stored as. -/
def insertedRows (defaults : Defaults) (version : Int) (base : RuleBase) :
    List (Faults × Row) → List (Row × Rule)
  | [] => []
  | (faults, row) :: rest =>
    ((storedRule? { base with faults } defaults version row).map fun rule => (row, rule)).toList ++
      match importRow { base with faults } defaults version row with
      | (_, .error _) => []
      | (base, .ok _) => insertedRows defaults version base rest

/-- An import is one during which the failures in the way stay the same. -/
theorem importAfter_eq_faltering (defaults : Defaults) (version : Int) (report : Report)
    (base : RuleBase) (rows : List Row) :
    importAfter defaults version report base rows =
      importAfterFaltering defaults version report base
        (rows.map fun row => (base.faults, row)) := by
  induction rows generalizing base report with
  | nil => rfl
  | cons row rest ih =>
    have kept := importRow_faults base defaults version row
    rw [importAfter, List.map_cons, importAfterFaltering]
    cases call : importRow base defaults version row with
    | mk after answer =>
      rw [call] at kept
      cases answer with
      | error failure => rfl
      | ok outcome =>
        simp only at kept ⊢
        rw [ih, kept]

/-- The rows of a sheet add the rules that they are stored as, wherever the sheet breaks off. -/
theorem importAfterFaltering_appends (held : base.stores.HoldRules rules)
    (unique : KeysUnique rules) (defaults : Defaults) (version : Int) (report : Report)
    (rows : List (Faults × Row)) :
    Appended rules (importAfterFaltering defaults version report base rows).1.stores
      (insertedRows defaults version base rows) := by
  -- Each row is taken against the rules that those before it have left.
  induction rows generalizing base rules report with
  | nil => exact .nil held unique
  | cons taken rest ih =>
    obtain ⟨faults, row⟩ := taken
    have still : ({ base with faults } : RuleBase).stores.HoldRules rules := held
    have first := importRow_appends still unique defaults version row
    rw [importAfterFaltering, insertedRows]
    cases call : importRow { base with faults } defaults version row with
    | mk after answer =>
      rw [call] at first
      cases answer with
      | error failure =>
        -- The sheet breaks off here; what was inserted before stays.
        simpa using first
      | ok outcome => exact first.append (ih first.held first.unique _)

/-- A row that is stored when its turn comes is one of those that are inserted. -/
theorem mem_insertedRows {before after : List (Faults × Row)} {faults : Faults} {report : Report}
    (reached : (importAfterFaltering defaults version report base before).2.isOk = true)
    (stored : storedRule? { (importAfterFaltering defaults version report base before).1 with faults }
      defaults version row = some rule) :
    (row, rule) ∈ insertedRows defaults version base (before ++ (faults, row) :: after) := by
  induction before generalizing base report with
  | nil =>
    have first : storedRule? { base with faults } defaults version row = some rule := stored
    rw [List.nil_append, insertedRows, first]
    exact .head _
  | cons taken rest ih =>
    obtain ⟨earlier, other⟩ := taken
    rw [List.cons_append, insertedRows]
    rw [importAfterFaltering] at reached stored
    cases call : importRow { base with faults := earlier } defaults version other with
    | mk next answer =>
      rw [call] at reached stored
      cases answer with
      | error failure => cases reached
      | ok outcome => exact List.mem_append_right _ (ih reached stored)

/-- The rows of a sheet, each with the failures that are in the way while it is taken. -/
def importRowsFaltering (base : RuleBase) (defaults : Defaults) (rows : List (Faults × Row)) :
    RuleBase × Except Failure Report :=
  match Resolve.resolveVersion base.stores .null defaults.version with
  | .error failure => (base, .error failure)
  | .ok version => importAfterFaltering defaults version {} base rows

/-- The rows that an import inserts, each with the rule that it is stored as. -/
def importedRows (base : RuleBase) (defaults : Defaults) (rows : List (Faults × Row)) :
    List (Row × Rule) :=
  match Resolve.resolveVersion base.stores .null defaults.version with
  | .error _ => []
  | .ok version => insertedRows defaults version base rows

theorem importRows_eq_faltering (base : RuleBase) (defaults : Defaults) (rows : List Row) :
    importRows base defaults rows =
      importRowsFaltering base defaults (rows.map fun row => (base.faults, row)) := by
  unfold importRows importRowsFaltering
  cases Resolve.resolveVersion base.stores .null defaults.version with
  | error failure => rfl
  | ok version => exact importAfter_eq_faltering defaults version {} base rows

/-- An import adds the rules of the rows that it inserts. -/
theorem importRowsFaltering_appends (held : base.stores.HoldRules rules)
    (unique : KeysUnique rules) (defaults : Defaults) (rows : List (Faults × Row)) :
    Appended rules (importRowsFaltering base defaults rows).1.stores
      (importedRows base defaults rows) := by
  unfold importRowsFaltering importedRows
  cases Resolve.resolveVersion base.stores .null defaults.version with
  | error failure => exact .nil held unique
  | ok version => exact importAfterFaltering_appends held unique defaults version {} rows

/-! ### Sheets as they come -/

/-- Rows that have been read are imported with the failures that are in the way. -/
theorem importRead_base (base : RuleBase) (defaults : Defaults) (rows : List Row) :
    (importRead base defaults rows).1 =
      (importRowsFaltering base defaults (rows.map fun row => (base.faults, row))).1 := by
  unfold importRead
  rw [← importRows_eq_faltering]
  split
  next imported => rw [imported]
  next imported => rw [imported]

/-- Nothing is imported where there are no rows. -/
theorem importRowsFaltering_nil (base : RuleBase) (defaults : Defaults) :
    (importRowsFaltering base defaults []).1 = base := by
  unfold importRowsFaltering
  split <;> rfl

theorem importedRows_nil (base : RuleBase) (defaults : Defaults) :
    importedRows base defaults [] = [] := by
  unfold importedRows
  split <;> rfl

theorem importCsv_base (base : RuleBase) (defaults : Defaults) (text : String) :
    (importCsv base defaults text).1 =
      (importRowsFaltering base defaults
        (((rowsOfCsv text).toOption.getD []).map fun row => (base.faults, row))).1 := by
  unfold importCsv
  cases rowsOfCsv text with
  | error fault => exact (importRowsFaltering_nil base defaults).symm
  | ok rows => exact importRead_base base defaults rows

theorem importPayload_base (base : RuleBase) (defaults : Defaults)
    (payload : Payload) :
    (importPayload base defaults payload).1 =
      (importRowsFaltering base defaults
        (((rowsOfPayload payload).toOption.getD []).map fun row => (base.faults, row))).1 := by
  unfold importPayload
  cases rowsOfPayload payload with
  | error fault =>
    have same := (importRowsFaltering_nil base defaults).symm
    simp only
    split <;> exact same
  | ok rows => exact importRead_base base defaults rows

end Signpost.Sheet
