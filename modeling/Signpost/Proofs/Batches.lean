import Signpost.Proofs.Reimport

/-!
# Sheets in parts

The rows of a sheet may come in two batches, each with a report of its own. The loop over the rows reads
the store that it writes, and looks the active version up once.

## Main results

`importRows_append`: in every kind of store, a sheet is imported like its parts one after the other, up
to where one of them breaks off. `importRows_of_parts`: in memory no part with readable cells breaks
off, and the report of the sheet is the sum of theirs.

## Proof strategy

A report is only added to, so what came before it may be put in front at the end (`importAfter_report`).
What the loop carries from row to row is then the rule base alone (`importAfter_append`). An import
changes no version, and the second batch looks up what the first one did (`Course.holds`).
-/
namespace Signpost.Sheet

open Store (Failure Memory)

variable [Platform] {base : RuleBase} {contents : Contents} {defaults : Defaults} {version : Int} {m : Memory}

/-! ### Reports -/

/-- The report on two batches. -/
def Report.append (first second : Report) : Report where
  inserted := first.inserted + second.inserted
  skipped := first.skipped ++ second.skipped

omit [Platform] in
theorem Report.append_add (first second : Report) (outcome : Outcome) :
    (first.append second).add outcome = first.append (second.add outcome) := by
  cases outcome with
  | inserted => simp only [append, add, Nat.add_assoc]
  | skipped skip => simp only [append, add, List.append_assoc]

omit [Platform] in
theorem Report.append_empty (report : Report) : report.append {} = report := by
  simp [append]

theorem importAfter_report (first second : Report) (base : RuleBase) (rows : List Row) :
    importAfter defaults version (first.append second) base rows =
      ((importAfter defaults version second base rows).1,
        (importAfter defaults version second base rows).2.map first.append) := by
  -- On the rows. Each of them adds to the second part, and none is decided by what is reported.
  induction rows generalizing base second with
  | nil => rfl
  | cons row rest ih =>
    rw [importAfter, importAfter]
    cases importRow base defaults version row with
    | mk mid answer =>
      cases answer with
      | error failure => rfl
      | ok outcome =>
        simp only [Report.append_add]
        exact ih (second.add outcome) mid

/-! ### The loop -/

/-- What comes of the second batch behind a report, if the first one has come to one. -/
def thenImport (second : Report → RuleBase → RuleBase × Except Failure Report) :
    RuleBase × Except Failure Report → RuleBase × Except Failure Report
  | (mid, .ok report) => second report mid
  | (mid, .error failure) => (mid, .error failure)

theorem importAfter_append (report : Report) (base : RuleBase) (earlier later : List Row) :
    importAfter defaults version report base (earlier ++ later) =
      thenImport (fun report mid => importAfter defaults version report mid later)
        (importAfter defaults version report base earlier) := by
  induction earlier generalizing base report with
  | nil => rfl
  | cons row rest ih =>
    rw [List.cons_append, importAfter, importAfter]
    cases importRow base defaults version row with
    | mk mid answer =>
      cases answer with
      | error failure => rfl
      | ok outcome => exact ih (report.add outcome) mid

/-! ### Two batches -/

/-- A sheet is imported like its parts, one after the other, unless the first of them breaks off. -/
theorem importRows_append (held : base.stores.Holds contents) (defaults : Defaults)
    (earlier later : List Row) :
    importRows base defaults (earlier ++ later) =
      thenImport (fun report mid =>
          ((importRows mid defaults later).1, (importRows mid defaults later).2.map report.append))
        (importRows base defaults earlier) := by
  rw [importRows_eq held, importRows_eq held, importAfter_append]
  rcases importAfter_cases defaults (contents.activeVersion defaults.version) {} base earlier with
    ⟨fates, mid, course, result⟩ | ⟨_, _, _, _, _, failure, mid, _, _, _, result⟩
  · -- The rules that were stored leave the active version as it was.
    have again := importRows_eq (course.holds held) defaults later
    have behind := @importAfter_report _ defaults (contents.activeVersion defaults.version)
      (Report.addAll {} fates) {} mid later
    rw [Report.append_empty] at behind
    rw [result]
    simp only [thenImport]
    rw [behind, again]
    rfl
  · rw [result]
    rfl

/-- A sheet comes into memory with a report, or it has a row that is not readable. -/
theorem importRows_memory (stored : base.stores = .memory m)
    (searchable : base.allow .search = .ok ()) (defaults : Defaults) (rows : List Row) :
    (∃ fates after report, importRows base defaults rows = (after, .ok report) ∧
        after.stores = .memory { m with rules := m.rules ++ storedOf fates } ∧
        after.faults = base.faults) ∨
      ∃ row ∈ rows, ¬ Readable row ∧
        ∃ after failure, importRows base defaults rows = (after, .error failure) := by
  have held : base.stores.Holds ⟨m.rules, m.hosts, m.versions⟩ := stored ▸ .memory m
  rw [importRows_eq held]
  rcases importAfter_cases defaults
      ((⟨m.rules, m.hosts, m.versions⟩ : Contents).activeVersion defaults.version) {} base rows with
    ⟨fates, after, course, result⟩ |
      ⟨_, row, _, fates, mid, failure, after, rfl, course, breaks, result⟩
  · exact Or.inl ⟨fates, after, _, result, course.memory stored, course.faults⟩
  · have allowed := (RuleBase.allow_of_faults course.faults .search).trans searchable
    refine Or.inr ⟨row, by simp, fun readable => ?_, after, failure, result⟩
    exact not_breaks_memory (course.memory stored) allowed readable breaks

/-- In memory, with any rules and versions in it and any insertions made to fail, a sheet leaves the
rules and the supply of ids that its parts leave, one after the other; as many rules are inserted as
there, and the rows skipped there are skipped in order. A sheet with a row that is not readable may end
there; then its parts end there too, by the same failure and with the same rules. -/
theorem importRows_of_parts (m : Memory) (issued : Nat) (rejected : List (String × String))
    (defaults : Defaults) (earlier later : List Row) :
    let base : RuleBase := { stores := .memory m, issued, faults := { paths := rejected } }
    (∃ mid after first second,
      importRows base defaults earlier = (mid, .ok first) ∧
      importRows mid defaults later = (after, .ok second) ∧
      importRows base defaults (earlier ++ later) =
        (after, .ok ⟨first.inserted + second.inserted, first.skipped ++ second.skipped⟩)) ∨
    ∃ row ∈ earlier ++ later, ¬ Readable row ∧ ∃ after failure,
      importRows base defaults (earlier ++ later) = (after, .error failure) ∧
      (importRows base defaults earlier = (after, .error failure) ∨
        ∃ mid first, importRows base defaults earlier = (mid, .ok first) ∧
          importRows mid defaults later = (after, .error failure)) := by
  intro base
  have held : base.stores.Holds ⟨m.rules, m.hosts, m.versions⟩ := .memory m
  have whole := importRows_append held defaults earlier later
  rcases @importRows_memory _ base m rfl rfl defaults earlier with
    ⟨fates, mid, first, imported, stored, faults⟩ | ⟨row, member, unreadable, mid, failure, ended⟩
  · -- The first part leaves memory, so that the second is imported as any sheet.
    rw [imported] at whole
    have searchable : mid.allow .search = .ok () := RuleBase.allow_of_faults faults .search
    rcases importRows_memory stored searchable defaults later with
      ⟨_, after, second, again, _, _⟩ | ⟨row, member, unreadable, after, failure, ended⟩
    · refine Or.inl ⟨mid, after, first, second, imported, again, whole.trans ?_⟩
      simp only [thenImport, again]
      rfl
    · refine Or.inr ⟨row, List.mem_append_right _ member, unreadable, after, failure,
        whole.trans ?_, Or.inr ⟨mid, first, imported, ended⟩⟩
      simp only [thenImport, ended]
      rfl
  · rw [ended] at whole
    exact Or.inr ⟨row, List.mem_append_left _ member, unreadable, mid, failure, whole,
      Or.inl ended⟩

end Signpost.Sheet
