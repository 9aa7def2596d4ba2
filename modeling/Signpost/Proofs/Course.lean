import Signpost.Proofs.Import
import Signpost.Proofs.Keeping
import Signpost.Proofs.Shown

/-!
# The course of an import

The rows of a sheet are taken in order, and each of them settles or ends the import. `Course` says
what came of the rows, one after the other. Every row of a course is stored or skipped.

## Main results

`importAfterFaltering_cases`: an import takes a course through all rows, or it breaks off at one of
them. `importRows_accounts`: in memory every import of JSON objects takes a course through all rows,
and the rules that are stored on it are put after those that were there.

## Proof strategy

Courses are found by induction on the rows. A row that has an entry is looked up by the key of its
rule (`lookup_eq`), which fails only in tables that have no room for the version; memory can always
be searched, and refuses a rule by no failure but its own. What is left to end an import into memory
are cells without texts, and no JSON object has these (`IsObject.readable`).
-/
namespace Signpost.Sheet

open Store (Failure Memory)

/-! ### Looking up a row -/

theorem bindAll_key (path host : String) (version : Int) :
    Sql.bindAll 1 [.text path, .text host, .int version] =
      if Sql.fits version then .ok [.text path, .text host, .integer version]
      else .error .integerTooLarge := by
  rw [Sql.bindAll_eq (by simp [Value.isPlain])]
  simp [Value.fits, Sql.cellOf]

/-- The rules with a key are found, if the stores have room for its version. -/
theorem searchRules_key {stores : Stores} {contents : Contents} {row normal : Row}
    {path host : String} {version : Int} (held : stores.Holds contents)
    (keyed : Keyed row normal (.text path) host version) :
    stores.searchRules (keyCriteria normal) =
      if stores.hasRoom version then .ok (contents.rules.filter (·.key = (path, host, version)))
      else .error .integerTooLarge := by
  have suits := keyCriteria_suits keyed
  have wanted : (fun (other : Rule) => satisfies (keyCriteria normal) other.attributes) =
      fun other => decide (other.key = (path, host, version)) :=
    funext fun other => Bool.eq_iff_iff.mpr
      ((satisfies_keyCriteria keyed other).trans decide_eq_true_iff.symm)
  cases held with
  | memory m =>
    rw [Stores.searchRules_memory suits, wanted]
    rfl
  | @tables place database _ held =>
    obtain ⟨clauses, values, made, searched⟩ := Stores.searchRules_tables held suits place
    rw [keyCriteria_eq keyed] at made
    cases made
    rw [wanted, database.parameters_of_small (by simp [Sql.sizeOfAll, Sql.Clause.size])] at searched
    refine searched.trans ((congrArg (Except.map _) (bindAll_key path host version)).trans ?_)
    by_cases small : Sql.fits version = true <;> simp [Stores.hasRoom, small, Except.map]

section

variable [Platform] {base next : RuleBase} {defaults : Defaults} {version : Int} {row normal : Row}
  {rule : Rule} {fate : Fate}

omit [Platform] in
/-- A row is looked up by its key among the rules, if the stores have room for its version. -/
theorem lookup_eq {contents : Contents} {path host : String} (held : base.stores.Holds contents)
    (searchable : base.allow .search = .ok ())
    (keyed : Keyed row normal (.text path) host version) :
    base.search (keyCriteria normal) =
      if base.stores.hasRoom version then
        .ok (contents.rules.filter (·.key = (path, host, version)))
      else .error .integerTooLarge := by
  simp only [RuleBase.search, searchable]
  exact searchRules_key held keyed

/-! ### The rows of a sheet -/

/-- What came of the rows of a sheet, each with the failures that were in the way while it was
taken, and what they left behind. -/
inductive Course (defaults : Defaults) (version : Int) :
    RuleBase → List (Faults × Row) → List Fate → RuleBase → Prop
  | nil (base : RuleBase) : Course defaults version base [] [] base
  | cons {base next after : RuleBase} {faults : Faults} {row : Row} {fate : Fate}
    {rows : List (Faults × Row)} {fates : List Fate}
    (first : Settles defaults version { base with faults } row fate next)
    (rest : Course defaults version next rows fates after) :
    Course defaults version base ((faults, row) :: rows) (fate :: fates) after

/-- The report with what came of more rows. -/
def Report.addAll (report : Report) (fates : List Fate) : Report :=
  fates.foldl (fun report fate => report.add fate.outcome) report

/-- The rules that are stored. -/
def storedOf : List Fate → List Rule
  | [] => []
  | .ok rule :: rest => rule :: storedOf rest
  | .error _ :: rest => storedOf rest

omit [Platform] in
theorem storedOf_cons (fate : Fate) (fates : List Fate) :
    storedOf (fate :: fates) = storedOf [fate] ++ storedOf fates := by
  cases fate <;> rfl

/-- The rows that are skipped. -/
def skipsOf : List Fate → List Skip
  | [] => []
  | .ok _ :: rest => skipsOf rest
  | .error skip :: rest => skip :: skipsOf rest

variable {fates : List Fate} {rows : List (Faults × Row)} {after : RuleBase}

omit [Platform] in
/-- A report tells the number of the rules that are stored, and the rows that are skipped. -/
theorem Report.addAll_eq (report : Report) (fates : List Fate) :
    report.addAll fates =
      ⟨report.inserted + (storedOf fates).length, report.skipped ++ skipsOf fates⟩ := by
  induction fates generalizing report with
  | nil => simp [addAll, storedOf, skipsOf]
  | cons fate rest ih =>
    have next : report.addAll (fate :: rest) = (report.add fate.outcome).addAll rest := rfl
    rw [next, ih]
    cases fate with
    | ok rule =>
      simp only [Fate.outcome, add, storedOf, skipsOf, List.length_cons, Nat.add_assoc,
        Nat.add_comm 1]
    | error skip =>
      simp only [Fate.outcome, add, storedOf, skipsOf, List.append_assoc, List.singleton_append]

omit [Platform] in
theorem length_storedOf_add_skipsOf (fates : List Fate) :
    (storedOf fates).length + (skipsOf fates).length = fates.length := by
  induction fates with
  | nil => rfl
  | cons fate rest ih =>
    cases fate with
    | ok rule =>
      simp only [storedOf, skipsOf, List.length_cons]
      omega
    | error skip =>
      simp only [storedOf, skipsOf, List.length_cons]
      omega

theorem Course.length_eq (course : Course defaults version base rows fates after) :
    fates.length = rows.length := by
  induction course with
  | nil => rfl
  | cons _ _ ih => rw [List.length_cons, List.length_cons, ih]

/-- A course during which the failures in the way stay the same begins with a row that settles among
them. -/
theorem Course.cons_inv {rest : List Row}
    (course : Course defaults version base ((row :: rest).map fun row => (base.faults, row)) fates
      after) :
    ∃ fate next others, fates = fate :: others ∧ Settles defaults version base row fate next ∧
      Course defaults version next (rest.map fun row => (next.faults, row)) others after := by
  rw [List.map_cons] at course
  cases course with
  | @cons _ next _ _ _ fate _ others first later =>
    have kept : next.faults = base.faults := first.faults
    exact ⟨fate, next, others, rfl, first, by rwa [kept]⟩

/-- An import takes a course through all rows, or it breaks off at one of them. -/
theorem importAfterFaltering_cases (defaults : Defaults) (version : Int) (report : Report)
    (base : RuleBase) (rows : List (Faults × Row)) :
    (∃ fates after, Course defaults version base rows fates after ∧
        importAfterFaltering defaults version report base rows =
          (after, .ok (report.addAll fates))) ∨
      ∃ earlier faults row later fates mid failure after,
        rows = earlier ++ (faults, row) :: later ∧ Course defaults version base earlier fates mid ∧
        Breaks defaults version { mid with faults } row failure after ∧
        importAfterFaltering defaults version report base rows = (after, .error failure) := by
  -- A row that settles comes in front of whatever becomes of the rows behind it.
  induction rows generalizing base report with
  | nil => exact Or.inl ⟨[], base, .nil base, rfl⟩
  | cons taken rest ih =>
    obtain ⟨faults, row⟩ := taken
    rw [importAfterFaltering]
    rcases settles_or_breaks defaults version { base with faults } row with
      ⟨fate, next, settles⟩ | ⟨failure, next, breaks⟩
    · rw [settles.importRow_eq]
      rcases ih (report.add fate.outcome) next with
        ⟨fates, after, course, done⟩ |
          ⟨earlier, other, last, later, fates, mid, failure, after, rfl, course, breaks, stopped⟩
      · exact Or.inl ⟨fate :: fates, after, .cons settles course, done⟩
      · exact Or.inr ⟨(faults, row) :: earlier, other, last, later, fate :: fates, mid, failure,
          after, rfl, .cons settles course, breaks, stopped⟩
    · -- The course ends before the first row.
      rw [breaks.importRow_eq]
      exact Or.inr ⟨[], faults, row, rest, [], base, failure, next, rfl, .nil base, breaks, rfl⟩

theorem Course.faults {rows : List Row}
    (course : Course defaults version base (rows.map fun row => (base.faults, row)) fates after) :
    after.faults = base.faults := by
  induction rows generalizing base fates with
  | nil =>
    cases course
    rfl
  | cons row rest ih =>
    obtain ⟨_, _, _, _, first, remaining⟩ := course.cons_inv
    exact (ih remaining).trans first.faults

/-- An import takes a course through all rows while the failures in the way stay the same, or it
breaks off at one of them. -/
theorem importAfter_cases (defaults : Defaults) (version : Int) (report : Report)
    (base : RuleBase) (rows : List Row) :
    (∃ fates after,
        Course defaults version base (rows.map fun row => (base.faults, row)) fates after ∧
        importAfter defaults version report base rows = (after, .ok (report.addAll fates))) ∨
      ∃ before row rest fates mid failure after, rows = before ++ row :: rest ∧
        Course defaults version base (before.map fun row => (base.faults, row)) fates mid ∧
        Breaks defaults version mid row failure after ∧
        importAfter defaults version report base rows = (after, .error failure) := by
  rw [importAfter_eq_faltering]
  rcases importAfterFaltering_cases defaults version report base
      (rows.map fun row => (base.faults, row)) with
    found | ⟨earlier, faults, row, later, fates, mid, failure, after, split, course, breaks, result⟩
  · exact Or.inl found
  · -- The row that breaks off meets the failures of the start, since those stay on the course.
    obtain ⟨before, others, rfl, rfl, cut⟩ := List.map_eq_append_iff.mp split
    obtain ⟨_, rest, rfl, same, rfl⟩ := List.map_eq_cons_iff.mp cut
    cases same
    have kept : ({ mid with faults := base.faults } : RuleBase) = mid := by
      rw [← course.faults]
    rw [kept] at breaks
    exact Or.inr ⟨before, row, rest, fates, mid, failure, after, rfl, course, breaks, result⟩

/-! ### What is stored on a course -/

theorem Settles.holds {contents : Contents} (settles : Settles defaults version base row fate next)
    (held : base.stores.Holds contents) :
    next.stores.Holds { contents with rules := contents.rules ++ storedOf [fate] } := by
  cases settles with
  | refused | duplicate => simpa [storedOf] using held
  | failed _ _ failed _ =>
    rw [RuleBase.stores_of_insert_error failed]
    simpa [storedOf] using held
  | unheld isNormal _ made failed _ =>
    rw [(kept_of_unheld isNormal made failed).1]
    simpa [storedOf] using held
  | stored _ _ inserted =>
    obtain ⟨id, same, taken⟩ := RuleBase.stores_of_insert_ok inserted
    rw [storedOf, same]
    exact Stores.insertRule_holds held taken

theorem Course.holds {contents : Contents} (course : Course defaults version base rows fates after)
    (held : base.stores.Holds contents) :
    after.stores.Holds { contents with rules := contents.rules ++ storedOf fates } := by
  induction course generalizing contents with
  | nil => simpa [storedOf] using held
  | @cons _ _ _ _ _ fate _ fates first _ ih =>
    have later := ih (first.holds held)
    rwa [List.append_assoc, ← storedOf_cons fate fates] at later

/-! ### Rows with texts -/

/-- Every cell of the row has a text, and those that come into a rule are of characters. -/
structure Readable (row : Row) : Prop where
  shown : ∀ column, unshown? (cell row column) = none
  paired : ¬ HasUnpaired row

/-- The row is an object of a JSON text, and the texts that come into a rule are of characters, as they
are unless surrogates are written in them one by one. -/
structure IsObject (row : Row) : Prop where
  read : ∃ text rows, rowsOfPayload (.text text) = .ok rows ∧ row ∈ rows
  paired : ¬ HasUnpaired row

theorem IsObject.readable (isObject : IsObject row) : Readable row := by
  obtain ⟨⟨text, rows, taken, member⟩, paired⟩ := isObject
  have written : Payload.IsWritten (.text text) := trivial
  exact ⟨shown_of_rowsOfPayload written taken member, paired⟩

/-- The rows of a sheet, if it has some, have no text that is none of characters where rules take
texts, and if it has none, the reason is another. -/
def ArePaired : Except PayloadFault (List Row) → Prop
  | .ok rows => ∀ row ∈ rows, ¬ HasUnpaired row
  | .error fault => fault.isUnspoken = false

instance : (rows : Except PayloadFault (List Row)) → Decidable (ArePaired rows)
  | .ok rows => inferInstanceAs (Decidable (∀ row ∈ rows, ¬ HasUnpaired row))
  | .error fault => inferInstanceAs (Decidable (fault.isUnspoken = false))

/-- The value is a text of characters, or none at all. -/
def IsField : Value → Prop
  | .text _ | .null => True
  | _ => False

theorem IsField.shown {value : Value} (isField : IsField value) :
    unshown? value = none ∧ value.isUnpaired = false := by
  cases value with
  | text s => exact ⟨rfl, rfl⟩
  | null => exact ⟨rfl, rfl⟩
  | bool _ | int _ | real _ | unpaired _ | list _ | object _ => cases isField

omit [Platform] in
theorem isField_setField {fields : List (String × Value)} {column : String} {value : Value}
    (plain : ∀ field ∈ fields, IsField field.2) (isField : IsField value) :
    ∀ field ∈ Value.setField fields column value, IsField field.2 := by
  rw [Value.setField_eq_put]
  intro field member
  rcases Operations.mem_put member with old | rfl
  · exact plain field old
  · exact isField

omit [Platform] in
theorem isField_rowOf (columns : List String) (record : Csv.Record) :
    ∀ field ∈ rowOf columns record, IsField field.2 := by
  refine List.foldlRecOn (motive := fun row : Row => ∀ field ∈ row, IsField field.2) _ _ ?_
    fun row plain column _ => isField_setField plain trivial
  exact List.foldlRecOn (motive := fun row : Row => ∀ field ∈ row, IsField field.2) _ _
    (fun field member => nomatch member) fun row plain (column, field) _ =>
      isField_setField plain trivial

/-- The rows of comma-separated text are readable. -/
theorem readable_of_csv {text : String} {rows : List Row} (read : rowsOfCsv text = .ok rows)
    (member : row ∈ rows) : Readable row := by
  unfold rowsOfCsv at read
  cases taken : Csv.read (text.toList.dropWhile fun c => c.toNat == 0xFEFF) with
  | error fault =>
    rw [taken] at read
    cases read
  | ok records =>
    rw [taken] at read
    cases read
    have plain (column : String) : IsField (cell row column) := by
      cases records with
      | nil => cases member
      | cons columns records =>
        obtain ⟨record, _, rfl⟩ := List.mem_map.mp (List.mem_of_mem_filter member)
        unfold cell
        cases found : (rowOf columns record).lookup column with
        | none => trivial
        | some value => exact isField_rowOf columns record _ (mem_of_lookup found)
    refine ⟨fun column => (plain column).shown.1, ?_⟩
    rintro ⟨column, _, lone⟩
    rw [(plain column).shown.2] at lone
    cases lone

theorem Readable.isTooDeep_eq (readable : Readable row) (column : String) :
    isTooDeep (cell row column) = false := by
  rw [isTooDeep, readable.shown column]
  rfl

theorem Readable.legible (readable : Readable row) : Legible row where
  integers column _ := readable.isTooDeep_eq column
  texts column _ := readable.shown column
  paired column member := isUnpaired_eq_false readable.paired (by
    revert column
    decide)

/-- Of a readable row that passes the checks, only the URL in its path can be at fault. -/
theorem url_of_normalizeRow_error {fault : RowFault} (readable : Readable row)
    (checked : skipReason? row = none) (failed : normalizeRow row version = .error fault) :
    ∃ malformed, fault = .url malformed := by
  obtain ⟨⟨path, has⟩, _⟩ := lookups_of_checked checked
  have atPath : cell row "path" = path := by rw [cell, has, Option.getD_some]
  have shown : checkShown [cell row "host", cell row "isRegex", cell row "path"] = .ok () :=
    checkShown_eq_ok_iff.mpr (by simp [readable.shown])
  have nested : checkNesting [cell row "version"] = .ok () :=
    checkNesting_eq_ok_iff.mpr (by simp [readable.isTooDeep_eq])
  have pathText : path.isUnpaired = false :=
    atPath ▸ isUnpaired_eq_false readable.paired (by simp [textColumns])
  have hostText : (cell row "host").isUnpaired = false :=
    isUnpaired_eq_false readable.paired (by simp [textColumns])
  simp only [normalizeRow, rowKey, needed, has, shown, nested, hostText, pathText,
    Bind.bind, Except.bind, Pure.pure, Except.pure] at failed
  -- A pattern is taken as it stands; any other path is read as a URL.
  cases isPattern : isPatternRow row with
  | true => simp [isPattern] at failed
  | false =>
    cases read : Url.Location.ofText (trimmed path) with
    | ok location => simp [isPattern, read, Except.mapError] at failed
    | error malformed =>
      simp only [isPattern, read, Except.mapError] at failed
      exact ⟨malformed, (Except.error.inj failed).symm⟩

/-- A readable row is not at fault before it is looked up. -/
theorem Readable.refused_ok (readable : Readable row) {answer : Except Failure Skip}
    (refused : refusal? version row = some answer) : ∃ skip, answer = .ok skip := by
  unfold refusal? at refused
  split at refused
  next reason _ =>
    have flat : isTooDeep (reason.asked row) = false := by
      cases reason with
      | versionNotInteger | statusNotInteger => exact readable.isTooDeep_eq _
      | missingPath | missingTarget => rfl
    rw [flat] at refused
    exact ⟨_, (Option.some.inj refused).symm⟩
  next checked =>
    split at refused
    · cases refused
    next fault failed =>
      obtain ⟨malformed, rfl⟩ := url_of_normalizeRow_error readable checked failed
      exact ⟨_, (Option.some.inj refused).symm⟩

/-- What is made of a readable row is a rule. -/
theorem Readable.exists_entry (readable : Readable row) (isNormal : IsNormal version row normal)
    (defaults : Defaults) : ∃ rule, entry? defaults version row = some (normal, rule) := by
  obtain ⟨rule, made⟩ := (isNormal.exists_rule_iff defaults).mpr (isNormal.legible readable.legible)
  exact ⟨rule, entry?_eq_some_iff.mpr ⟨isNormal.checked, isNormal.normalized, made⟩⟩

/-! ### Imports into memory -/

variable {m : Memory}

/-- No readable row ends an import into memory that can be searched. -/
theorem not_breaks_memory {failure : Failure} (stored : base.stores = .memory m)
    (searchable : base.allow .search = .ok ()) (readable : Readable row) :
    ¬ Breaks defaults version base row failure next := by
  intro breaks
  cases breaks with
  | unread refused =>
    obtain ⟨_, done⟩ := readable.refused_ok refused
    cases done
  | lookup isNormal failed =>
    have held : base.stores.Holds ⟨m.rules, m.hosts, m.versions⟩ := stored ▸ .memory m
    have room : base.stores.hasRoom = fun _ => true := by
      rw [stored]
      rfl
    obtain ⟨_, entered⟩ := readable.exists_entry isNormal defaults
    simp only [lookup_eq held searchable (keyed_of_entry entered), room, if_true] at failed
    cases failed
  | unshown isNormal _ made | unheld isNormal _ made =>
    obtain ⟨_, entered⟩ := readable.exists_entry isNormal defaults
    cases made.symm.trans (entry?_eq_some_iff.mp entered).2.2
  | @insertion _ rule _ _ entered absent failed foreign =>
    rcases base.insert_cases rule with
      ⟨other, stopped, result⟩ | ⟨_, ⟨other, refused, result⟩ | ⟨_, _, result⟩⟩ <;>
        cases failed.symm.trans result
    · rw [RuleBase.obstacle?_isOwn stopped] at foreign
      cases foreign
    · -- Memory refuses nothing but an id that is there already.
      simp only [stored, Stores.insertRule, Memory.insertRule] at refused
      split at refused <;> cases refused
      cases foreign

theorem Settles.memory (settles : Settles defaults version base row fate next)
    (stored : base.stores = .memory m) :
    next.stores = .memory { m with rules := m.rules ++ storedOf [fate] } := by
  cases settles with
  | refused | duplicate => simp [storedOf, stored]
  | failed _ _ failed _ => simp [storedOf, RuleBase.stores_of_insert_error failed, stored]
  | unheld isNormal _ made failed _ =>
    simp [storedOf, (kept_of_unheld isNormal made failed).1, stored]
  | stored _ _ inserted =>
    obtain ⟨id, same, taken⟩ := RuleBase.stores_of_insert_ok inserted
    simp only [stored, Stores.insertRule, Memory.insertRule] at taken
    split at taken
    · cases taken
    · rw [← Except.ok.inj taken]
      simp only [storedOf, same]

/-- On a course, the rules that are stored are put after those in memory, in order. -/
theorem Course.memory (course : Course defaults version base rows fates after)
    (stored : base.stores = .memory m) :
    after.stores = .memory { m with rules := m.rules ++ storedOf fates } := by
  induction course generalizing m with
  | nil => simp [storedOf, stored]
  | @cons _ _ _ _ _ fate _ fates first _ ih =>
    have later := ih (first.memory stored)
    rw [later, storedOf_cons fate fates, List.append_assoc]

end

attribute [local instance] Platform.usual

end Signpost.Sheet
