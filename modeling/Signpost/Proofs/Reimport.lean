import Signpost.Proofs.Course
import Signpost.Proofs.Resolution

/-!
# Importing a sheet again

A sheet that has been imported to its end, and whose insertions have all succeeded, leaves a rule for
the key of every row that is not refused. When the sheet comes again, each of these rows is a duplicate
and the others are refused as before, so nothing changes.

## Main result

`importRows_again`: the second import leaves the rule base as the first one has left it, inserts
nothing and skips every row, provided that the first import comes to its end. With a version that is
too large for a table it does not, though no insertion fails (`importRows_ends_again`).

## Proof strategy

A row that has settled is known: a rule with its key is stored (`Settles.known`). Rules are only put
after others, so known rows stay known to the end of the course. The rows of the second import are
known from its start, which makes it a loop that goes nowhere (`importAfter_known`).
-/
namespace Signpost.Sheet

open Store (Failure)

section

variable [Platform] {base next after : RuleBase} {contents : Contents} {defaults : Defaults} {version : Int}
  {row normal : Row} {rule : Rule} {fate : Fate} {fates : List Fate}

/-! ### Insertions that succeed -/

/-- The answer to the insertion that a row leads to; none if the row is refused or a duplicate, or
cannot be looked up. -/
def insertion? (defaults : Defaults) (version : Int) (base : RuleBase) (row : Row) :
    Option (Except Failure Unit) :=
  match skipReason? row, normalizeRow row version with
  | none, .ok normal =>
    match base.search (keyCriteria normal), ruleOfRow normal defaults with
    | .ok [], .ok rule => some ((base.insert rule).2.map fun _ => ())
    | .ok [], .error (.unpaired fields) => some (base.insertFields fields).2
    | _, _ => none
  | _, _ => none

/-- Every insertion that the rows lead to, one after the other, succeeds. -/
def insertionsSucceed (defaults : Defaults) (version : Int) : RuleBase → List Row → Bool
  | _, [] => true
  | base, row :: rest =>
    (insertion? defaults version base row).all (·.isOk) &&
      insertionsSucceed defaults version (importRow base defaults version row).1 rest

theorem insertion?_of_entry (entered : entry? defaults version row = some (normal, rule))
    (absent : base.search (keyCriteria normal) = .ok []) :
    insertion? defaults version base row = some ((base.insert rule).2.map fun _ => ()) := by
  obtain ⟨checked, normalized, made⟩ := entry?_eq_some_iff.mp entered
  simp only [insertion?, checked, normalized, absent, made]

theorem insertion?_of_unheld {fields : List (String × Value)}
    (isNormal : IsNormal version row normal) (absent : base.search (keyCriteria normal) = .ok [])
    (made : ruleOfRow normal defaults = .error (.unpaired fields)) :
    insertion? defaults version base row = some (base.insertFields fields).2 := by
  simp only [insertion?, isNormal.checked, isNormal.normalized, absent, made]

/-! ### Known rows -/

/-- What is said of a row that is known: it is refused, or it is a duplicate. -/
def skipAgain (version : Int) (row : Row) : Skip :=
  match refusal? version row with
  | some (.ok skip) => skip
  | _ => ⟨"Duplicate record", (normalizeRow row version).toOption.getD row⟩

/-- The row can be looked up, and a rule with its key is stored, unless it is refused. -/
structure Known (version : Int) (base : RuleBase) (contents : Contents) (row : Row) : Prop where
  read : ∀ failure, refusal? version row ≠ some (.error failure)
  stored : ∀ normal, IsNormal version row normal → ∃ path host number,
    Keyed row normal (.text path) host number ∧ base.stores.hasRoom number = true ∧
      ∃ other ∈ contents.rules, other.key = (path, host, number)

/-- A row that is known is skipped. -/
theorem importRow_known (serves : base.Serves contents) (known : Known version base contents row)
    (defaults : Defaults) :
    importRow base defaults version row = (base, .ok (.skipped (skipAgain version row))) := by
  cases refused : refusal? version row with
  | some answer =>
    cases answer with
    | error failure => exact absurd refused (known.read failure)
    | ok skip =>
      rw [importRow_of_refusal refused, skipAgain, refused]
      rfl
  | none =>
    obtain ⟨normal, isNormal⟩ := exists_isNormal refused
    obtain ⟨path, host, number, keyed, room, other, member, same⟩ := known.stored normal isNormal
    have again : skipAgain version row = ⟨"Duplicate record", normal⟩ := by
      rw [skipAgain, refused, isNormal.normalized]
      rfl
    have found := lookup_eq serves.held serves.allowed keyed
    rw [if_pos room] at found
    have present : other ∈ contents.rules.filter (·.key = (path, host, number)) :=
      List.mem_filter.mpr ⟨member, decide_eq_true same⟩
    rw [importRow_of_isNormal isNormal, importNormalized, found, again]
    cases rules : contents.rules.filter (·.key = (path, host, number)) with
    | nil => simp [rules] at present
    | cons first others => rfl

theorem importAfter_known (serves : base.Serves contents) {earlier : List Row}
    (known : ∀ row ∈ earlier, Known version base contents row) (defaults : Defaults)
    (report : Report) (rest : List Row) :
    importAfter defaults version report base (earlier ++ rest) =
      importAfter defaults version
        ⟨report.inserted, report.skipped ++ earlier.map (skipAgain version)⟩ base rest := by
  induction earlier generalizing report with
  | nil => rw [List.map_nil, List.append_nil, List.nil_append]
  | cons row others ih =>
    rw [List.cons_append, importAfter, importRow_known serves (known row (.head _)) defaults]
    simp only [ih (fun r member => known r (.tail _ member)), Report.add, List.map_cons,
      List.append_assoc, List.singleton_append]

/-! ### What a course leaves -/

/-- The second rule base serves what the first one does, with rules put after the others. -/
structure Extends (contents : Contents) (base next : RuleBase) (rules : List Rule) : Prop where
  serves : next.Serves { contents with rules := contents.rules ++ rules }
  room : next.stores.hasRoom = base.stores.hasRoom

omit [Platform] in
theorem Extends.of_same (serves : base.Serves contents) (stores : next.stores = base.stores)
    (faults : next.faults = base.faults) : Extends contents base next [] where
  serves := by
    refine ⟨(RuleBase.allow_of_faults faults .search).trans serves.allowed, ?_⟩
    rw [stores, List.append_nil]
    exact serves.held
  room := by rw [stores]

omit [Platform] in
theorem Extends.trans {mid : RuleBase} {first second : List Rule}
    (earlier : Extends contents base mid first)
    (later : Extends { contents with rules := contents.rules ++ first } mid next second) :
    Extends contents base next (first ++ second) where
  serves := by
    rw [← List.append_assoc]
    exact later.serves
  room := later.room.trans earlier.room

/-- A row that settles puts its rule after the others, if it is stored. -/
theorem Settles.extends (settles : Settles defaults version base row fate next)
    (serves : base.Serves contents) : Extends contents base next (storedOf [fate]) := by
  have allowed := (RuleBase.allow_of_faults settles.faults .search).trans serves.allowed
  have room : next.stores.hasRoom = base.stores.hasRoom := by
    cases settles with
    | refused | duplicate => rfl
    | failed _ _ failed _ => rw [RuleBase.stores_of_insert_error failed]
    | unheld isNormal _ made failed _ => rw [(kept_of_unheld isNormal made failed).1]
    | stored _ _ inserted =>
      obtain ⟨_, _, taken⟩ := RuleBase.stores_of_insert_ok inserted
      exact Stores.hasRoom_of_insertRule taken
  exact ⟨⟨allowed, settles.holds serves.held⟩, room⟩

/-- A row that is looked up and found, or whose rule is stored, is known from then on. -/
theorem known_of_search (serves : base.Serves contents) (isNormal : IsNormal version row normal)
    {path host : String} {number : Int} (keyed : Keyed row normal (.text path) host number)
    {found : List Rule} (searched : base.search (keyCriteria normal) = .ok found)
    {rules : List Rule} (extended : Extends contents base next rules)
    (stored : ∃ other ∈ found ++ rules, other.key = (path, host, number)) :
    Known version next { contents with rules := contents.rules ++ rules } row where
  read failure refused := by
    rw [isNormal.not_refused] at refused
    cases refused
  stored other again := by
    cases isNormal.eq again
    rw [lookup_eq serves.held serves.allowed keyed] at searched
    split at searched
    next room =>
      obtain ⟨rule, member, same⟩ := stored
      refine ⟨path, host, number, keyed, extended.room ▸ room, rule, ?_, same⟩
      rw [← Except.ok.inj searched] at member
      rcases List.mem_append.mp member with present | new
      · exact List.mem_append_left _ (List.mem_filter.mp present).1
      · exact List.mem_append_right _ new
    next => cases searched

/-- The import of a row that settles leaves its course known. -/
theorem Settles.known (settles : Settles defaults version base row fate next)
    (serves : base.Serves contents)
    (succeeds : (insertion? defaults version base row).all (·.isOk) = true) :
    Known version next { contents with rules := contents.rules ++ storedOf [fate] } row := by
  have extended := settles.extends serves
  cases settles with
  | refused refused =>
    constructor
    · intro failure again
      cases refused.symm.trans again
    · intro normal isNormal
      rw [isNormal.not_refused] at refused
      cases refused
  | @duplicate normal other others isNormal found =>
    obtain ⟨_, host, named, keyed⟩ := keyed_of_normalizeRow isNormal.normalized
    obtain ⟨path, rfl⟩ := text_of_search keyed (textual_of_rowKey named) found
    have listed := found
    rw [lookup_eq serves.held serves.allowed keyed] at listed
    split at listed
    next =>
      have first : other ∈ other :: others := .head _
      rw [← Except.ok.inj listed] at first
      exact known_of_search serves isNormal keyed found extended
        ⟨other, .head _, of_decide_eq_true (List.mem_filter.mp first).2⟩
    next => cases listed
  | failed entered absent failed _ =>
    -- No insertion fails.
    rw [insertion?_of_entry entered absent, failed] at succeeds
    cases succeeds
  | unheld isNormal absent made failed _ =>
    rw [insertion?_of_unheld isNormal absent made, failed] at succeeds
    cases succeeds
  | @stored _ rule id _ entered absent _ =>
    exact known_of_search serves (isNormal_of_entry entered) (keyed_of_entry entered) absent
      extended ⟨{ rule with id := some id }, .head _, rfl⟩

theorem Known.extends {rules : List Rule} (known : Known version base contents row)
    (extended : Extends contents base next rules) :
    Known version next { contents with rules := contents.rules ++ rules } row where
  read := known.read
  stored normal isNormal := by
    obtain ⟨path, host, number, keyed, room, other, member, same⟩ := known.stored normal isNormal
    exact ⟨path, host, number, keyed, extended.room ▸ room, other, List.mem_append_left _ member,
      same⟩

/-- On a course whose insertions succeed, the rules that are stored are put after the others, and all
rows become known. -/
theorem Course.leaves {rows later : List Row}
    (course : Course defaults version base (rows.map fun row => (base.faults, row)) fates after)
    (serves : base.Serves contents)
    (succeed : insertionsSucceed defaults version base (rows ++ later) = true) :
    Extends contents base after (storedOf fates) ∧
      (∀ row ∈ rows,
        Known version after { contents with rules := contents.rules ++ storedOf fates } row) ∧
      insertionsSucceed defaults version after later = true := by
  -- What the first row leaves is where the others start, and there it is known already.
  induction rows generalizing base contents fates with
  | nil =>
    cases course
    exact ⟨.of_same serves rfl rfl, (fun _ member => nomatch member), succeed⟩
  | cons row rest ih =>
    obtain ⟨fate, next, others, rfl, first, remaining⟩ := course.cons_inv
    rw [List.cons_append, insertionsSucceed, first.importRow_eq, Bool.and_eq_true] at succeed
    have extended := first.extends serves
    have known := first.known serves succeed.1
    obtain ⟨further, theirs, left⟩ := ih remaining extended.serves succeed.2
    rw [storedOf_cons fate others]
    refine ⟨extended.trans further, ?_, left⟩
    rw [← List.append_assoc]
    intro other member
    rcases List.mem_cons.mp member with rfl | elsewhere
    · exact known.extends further
    · exact theirs other elsewhere

/-! ### The second import -/

theorem Settles.fate_of_refusal {skip : Skip}
    (settles : Settles defaults version base row fate next)
    (refused : refusal? version row = some (.ok skip)) : fate = .error skip := by
  cases settles with
  | refused again => rw [Except.ok.inj (Option.some.inj (again.symm.trans refused))]
  | duplicate isNormal | unheld isNormal =>
    rw [isNormal.not_refused] at refused
    cases refused
  | failed entered | stored entered =>
    rw [refusal?_of_entry entered] at refused
    cases refused

/-- On a course, every row that is refused is skipped for the reason that it is refused for. -/
theorem Course.refusals {rows : List (Faults × Row)}
    (course : Course defaults version base rows fates after) :
    List.Forall₂ (fun taken fate => ∀ skip, refusal? version taken.2 = some (.ok skip) →
      fate = .error skip) rows fates := by
  induction course with
  | nil => exact .nil
  | cons first _ ih => exact .cons (fun _ refused => first.fate_of_refusal refused) ih

/-- The version of rows that name none is the active one, however many rules there are. -/
theorem importRows_eq (held : base.stores.Holds contents) (defaults : Defaults) (rows : List Row) :
    importRows base defaults rows =
      importAfter defaults (contents.activeVersion defaults.version) {} base rows := by
  simp only [importRows, Resolve.resolveVersion_of_holds held]
  rfl

/-- A sheet that is imported to its end, and whose insertions succeed, is imported a second time
without any effect: the rule base stays as it is, nothing is inserted, and every row is skipped, for
the same reason as the first time if it is refused, else as a duplicate. -/
theorem importRows_again (serves : base.Serves contents) (defaults : Defaults)
    (active : contents.activeVersion defaults.version = version) {rows : List Row}
    (succeed : insertionsSucceed defaults version base rows = true) {report : Report}
    (imported : importRows base defaults rows = (after, .ok report)) :
    importRows after defaults rows = (after, .ok ⟨0, rows.map (skipAgain version)⟩) ∧
      ∃ fates, Course defaults version base (rows.map fun row => (base.faults, row)) fates after ∧
        report.skipped = skipsOf fates ∧
        List.Forall₂ (fun row fate => ∀ skip, refusal? version row = some (.ok skip) →
          fate = .error skip ∧ skipAgain version row = skip) rows fates := by
  have first := importRows_eq serves.held defaults rows
  rw [active, imported] at first
  rcases importAfter_cases defaults version {} base rows with
    ⟨fates, next, course, result⟩ | ⟨_, _, _, _, _, _, _, _, _, _, result⟩
  · cases first.trans result
    refine ⟨?_, fates, course, ?_, ?_⟩
    · obtain ⟨extended, known, _⟩ := course.leaves serves (List.append_nil rows ▸ succeed)
      have again := importAfter_known extended.serves known defaults {} []
      rw [List.append_nil] at again
      rw [importRows_eq extended.serves.held]
      exact (congrArg (importAfter defaults · {} after rows) active).trans again
    · rw [Report.addAll_eq]
      rfl
    · have refusals := List.forall₂_map_left_iff.mp course.refusals
      refine refusals.imp fun row fate same skip refused => ⟨same skip refused, ?_⟩
      rw [skipAgain, refused]
  · cases first.trans result

end

attribute [local instance] Platform.usual

/-- A sheet with a rule that is stored already, a path that comes twice, a pattern and a row without
a target is imported twice. -/
theorem importRows_again_of_mixed :
    let old : Rule := ⟨some "a", "/old", "", 2, "/to", 301, none, none, none, false, none⟩
    let base : RuleBase := { stores := .memory { rules := [old], versions := [⟨2⟩] } }
    let row (path : String) : Row := [("path", .text path), ("redirectURL", .text "/to")]
    let rows := [row "/old", row "/a", row " /a ", ("isRegex", .int 1) :: row "^/a",
      [("path", .text "/b")]]
    let after := (importRows base {} rows).1
    base.Serves ⟨[old], [], [⟨2⟩]⟩ ∧ insertionsSucceed {} 2 base rows = true ∧
      (∃ report, importRows base {} rows = (after, .ok report)) ∧
      importRows after {} rows = (after, .ok ⟨0, rows.map (skipAgain 2)⟩) := by
  intro old base row rows after
  have serves : base.Serves ⟨[old], [], [⟨2⟩]⟩ := ⟨rfl, .memory _⟩
  have succeed : insertionsSucceed {} 2 base rows = true := by decide +kernel
  have ends : (importRows base {} rows).2.isOk = true := by decide +kernel
  rcases result : importRows base {} rows with ⟨next, failure | report⟩
  · rw [result] at ends
    cases ends
  · have left : after = next := congrArg Prod.fst result
    rw [left]
    exact ⟨serves, succeed, ⟨report, rfl⟩, (importRows_again serves {} rfl succeed result).1⟩

/-- A version that is too large for a table cannot be looked up: both imports end there, though no
insertion fails, and nothing is said of the row. -/
theorem importRows_ends_again :
    let tables : List Sql.Table := [⟨"rules", []⟩, ⟨"hosts", []⟩, ⟨"versions", []⟩]
    let base : RuleBase := { stores := .tables "rules.db" (.present { tables }) }
    let row : Row := [("path", .text "/a"), ("redirectURL", .text "/b"),
      ("version", .int 9223372036854775808)]
    let after := (importRows base {} [row]).1
    base.Serves ⟨[], [], []⟩ ∧ insertionsSucceed {} 0 base [row] = true ∧
      (importRows base {} [row]).2.toOption = none ∧
      (importRows after {} [row]).2.toOption = none := by
  intro tables base row after
  have serves : base.Serves ⟨[], [], []⟩ := ⟨rfl, .tables ⟨rfl, rfl, rfl⟩⟩
  refine ⟨serves, by decide +kernel, ?_, ?_⟩
  · exact Option.isNone_iff_eq_none.mp (by decide +kernel)
  · exact Option.isNone_iff_eq_none.mp (by decide +kernel)

end Signpost.Sheet
