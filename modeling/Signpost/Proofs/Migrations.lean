import Mathlib.Data.List.Nodup
import Mathlib.Data.List.Sort
import Mathlib.Data.String.Basic
import Signpost.Proofs.Holdings
import Signpost.Store.Migration

/-!
# Migrations in order

The scripts of a folder are carried out in the order of their names, each once: what is on record is
passed over. A script that fails is not put on record, but what its statements did before stays.

## Main results

`scripts_once_in_order`: what a run at any point of a history of runs carries out and puts on
record. It holds of whatever carries the scripts out, as long as that leaves the record alone.
`tables_after_fault`: the tables after a script has failed, and when they are those from before it. It
holds of every way to read a script as statements.

## Proof strategy

A run is split at the script that fails (`applyAll_error`); as the names ascend, the part before it
is the scripts with smaller names (`mem_before`). Within a script, the last statement about a table
says whether it is there (`isSome_runStatements`).
-/
namespace Signpost

open Sql Store

/-! ### What a statement leaves of a table -/

namespace Sql

/-- Whether the statement leaves a table of the name, if it is about one. -/
def Statement.leaves (name : String) : Statement → Option Bool
  | create written _ _ => if foldName (unquote written) = foldName name then some true else none
  | drop other _ => if foldName other = foldName name then some false else none
  | empty | refused _ => none

namespace Database

theorem table?_congr {name other : String} (same : foldName other = foldName name)
    (database : Database) : database.table? other = database.table? name := by
  simp only [table?, same]

theorem table?_append (database : Database) (table : Table) (name : String) :
    table? { database with tables := database.tables ++ [table] } name =
      (database.table? name).or
        (if foldName table.name = foldName name then some table else none) := by
  by_cases same : foldName table.name = foldName name <;>
    simp [table?, List.find?_append, same]

theorem table?_filter (database : Database) (other name : String) :
    table? { database with
        tables := database.tables.filter fun table => foldName table.name != foldName other } name =
      if foldName other = foldName name then none else database.table? name := by
  simp only [table?, List.find?_filter]
  split_ifs with same
  · rw [List.find?_eq_none]
    intro table _
    simp [same]
  · congr 1
    funext table
    by_cases found : foldName table.name = foldName name
    · simp [found, Ne.symm same]
    · simp [found]

end Database

variable {database after : Database} {statement : Statement} {name : String}

theorem Statement.table?_run_of_apart (done : statement.run database = .ok after)
    (apart : statement.leaves name = none) : after.table? name = database.table? name := by
  cases statement with
  | create written ifMissing spoilt =>
    have other : foldName (unquote written) ≠ foldName name := fun same => by
      simp [leaves, same] at apart
    simp only [run] at done
    split_ifs at done
    · cases done
      rfl
    · cases spoilt <;> cases done
      rw [Database.table?_append, if_neg other, Option.or_none]
  | drop removed ifPresent =>
    have other : foldName removed ≠ foldName name := fun same => by
      simp [leaves, same] at apart
    simp only [run] at done
    split at done
    · cases done
    · split_ifs at done
      · cases done
        rw [Database.table?_filter, if_neg other]
      · cases done
        rfl
  | empty =>
    cases done
    rfl
  | refused fault => cases done

theorem Statement.isSome_run (done : statement.run database = .ok after) (name : String) :
    (after.table? name).isSome = (statement.leaves name).getD (database.table? name).isSome := by
  cases left : statement.leaves name with
  | none => rw [table?_run_of_apart done left, Option.getD_none]
  | some there =>
    cases statement with
    | create written ifMissing spoilt =>
      simp only [leaves, Option.ite_none_right_eq_some, Option.some.injEq] at left
      obtain ⟨same, rfl⟩ := left
      simp only [run, Database.table?_congr same] at done
      split_ifs at done with _ there
      · cases done
        exact there
      · cases spoilt <;> cases done
        rw [Database.table?_append, if_pos same, Option.isSome_or]
        simp
    | drop removed ifPresent =>
      simp only [leaves, Option.ite_none_right_eq_some, Option.some.injEq] at left
      obtain ⟨same, rfl⟩ := left
      simp only [run, Database.table?_congr same] at done
      split at done
      · cases done
      · split_ifs at done with missing
        · cases done
          rw [Database.table?_filter, if_pos same]
          rfl
        · cases done
          simpa using missing
    | empty | refused fault => cases left

theorem isSome_runStatements {statements : List Statement}
    (done : runStatements database statements = (after, none)) (name : String) :
    (after.table? name).isSome =
      (statements.filterMap (·.leaves name)).getLast?.getD (database.table? name).isSome := by
  induction statements generalizing database with
  | nil =>
    cases done
    rfl
  | cons statement rest ih =>
    rw [runStatements] at done
    cases first : statement.run database with
    | error fault => simp [first] at done
    | ok next =>
      rw [first] at done
      rw [ih done, Statement.isSome_run first, List.filterMap_cons]
      -- What the first statement leaves counts only where none of the others is about the table.
      cases statement.leaves name with
      | none => rfl
      | some there => simp [List.getLast?_cons]

theorem runStatements_fault {statements : List Statement} {fault : ScriptFault}
    (failed : runStatements database statements = (after, some fault)) :
    ∃ done failing rest, statements = done ++ failing :: rest ∧
      runStatements database done = (after, none) ∧ failing.run after = .error fault := by
  induction statements generalizing database with
  | nil => cases failed
  | cons statement rest ih =>
    rw [runStatements] at failed
    cases first : statement.run database with
    | error other =>
      rw [first] at failed
      cases failed
      exact ⟨[], statement, rest, rfl, rfl, first⟩
    | ok next =>
      rw [first] at failed
      obtain ⟨done, failing, later, rfl, ran, fails⟩ := ih failed
      exact ⟨statement :: done, failing, later, rfl, by rw [runStatements, first]; exact ran, fails⟩

end Sql

/-! ### The order of scripts -/

namespace Store

theorem insertByName_perm (file : Migration) (sorted : List Migration) :
    (insertByName file sorted).Perm (file :: sorted) := by
  induction sorted with
  | nil => exact .refl _
  | cons other rest ih =>
    rw [insertByName]
    split_ifs
    · exact .refl _
    · exact (ih.cons other).trans (.swap file other rest)

theorem insertByName_sorted {file : Migration} {sorted : List Migration}
    (ordered : sorted.Pairwise (·.name ≤ ·.name)) :
    (insertByName file sorted).Pairwise (·.name ≤ ·.name) := by
  induction ordered with
  | nil => exact List.pairwise_singleton _ _
  | @cons other rest first ordered ih =>
    rw [insertByName]
    split_ifs with before
    -- In front of the rest, the file comes before all that the first of them comes before.
    · refine .cons (fun later member => ?_) (.cons first ordered)
      rcases List.mem_cons.mp member with rfl | member
      · exact before.le
      · exact before.le.trans (first later member)
    · refine .cons (fun later member => ?_) ih
      rcases List.mem_cons.mp ((insertByName_perm file rest).mem_iff.mp member) with rfl | member
      · exact not_lt.mp before
      · exact first later member

theorem scripts_perm (files : List Migration) :
    (scripts files).Perm (files.filter (isScript ·.name)) := by
  suffices all : ∀ files sorted : List Migration,
      (files.foldl (fun sorted file => insertByName file sorted) sorted).Perm (sorted ++ files) by
    exact all _ []
  intro files
  -- The list that is built up grows from step to step, so it is general in the induction.
  induction files with
  | nil => exact fun sorted => by simp
  | cons file rest ih =>
    intro sorted
    have put := (insertByName_perm file sorted).append_right rest
    exact (ih _).trans (put.trans List.perm_middle.symm)

theorem scripts_sorted (files : List Migration) :
    (scripts files).Pairwise (·.name ≤ ·.name) :=
  List.foldlRecOn _ _ .nil fun _ ordered _ _ => insertByName_sorted ordered

theorem mem_pending {files : List Migration} {database : Database} {file : Migration} :
    file ∈ pending files database ↔
      file ∈ files ∧ isScript file.name = true ∧ file.name ∉ recorded database := by
  simp [pending, (scripts_perm files).mem_iff, and_assoc]

theorem pending_sorted {files : List Migration} (distinct : (files.map (·.name)).Nodup)
    (database : Database) : (pending files database).Pairwise (·.name < ·.name) := by
  -- Files in a folder have names of their own, so the order is strict.
  have apart : (scripts files).Pairwise (·.name ≠ ·.name) := by
    have names : ((scripts files).map (·.name)).Nodup :=
      ((scripts_perm files).map _).nodup_iff.mpr (distinct.sublist (List.filter_sublist.map _))
    exact List.pairwise_map.mp names
  have strict := ((scripts_sorted files).and apart).imp fun both => lt_of_le_of_ne both.1 both.2
  exact strict.filter _

theorem mem_before {first rest : List Migration} {file : Migration}
    (ordered : (first ++ file :: rest).Pairwise (·.name < ·.name)) (other : Migration) :
    other ∈ first ↔ other ∈ first ++ file :: rest ∧ other.name < file.name := by
  obtain ⟨_, behind, across⟩ := List.pairwise_append.mp ordered
  constructor
  · exact fun member => ⟨List.mem_append_left _ member, across other member file (.head _)⟩
  · rintro ⟨member, before⟩
    rcases List.mem_append.mp member with here | there
    · exact here
    · rcases List.mem_cons.mp there with rfl | later
      · exact absurd before (lt_irrefl _)
      · exact absurd before (List.rel_of_pairwise_cons behind later).not_gt

theorem pending_filter_lt {files first rest : List Migration} {file : Migration}
    {database : Database} (distinct : (files.map (·.name)).Nodup)
    (split : pending files database = first ++ file :: rest) :
    pending (files.filter (·.name < file.name)) database = first := by
  have ordered := pending_sorted distinct database
  rw [split] at ordered
  have fewer : (pending (files.filter (·.name < file.name)) database).Pairwise (·.name < ·.name) :=
    pending_sorted (distinct.sublist (List.filter_sublist.map _)) database
  -- Both lists ascend strictly, so it is enough that they have the same members.
  have asymmetric : Std.Asymm fun a b : Migration => a.name < b.name := ⟨fun _ _ => lt_asymm⟩
  refine fewer.eq_of_mem_iff (List.pairwise_append.mp ordered).1 fun other => ?_
  rw [mem_before ordered, ← split, mem_pending, mem_pending, List.mem_filter, decide_eq_true_eq]
  tauto

/-! ### The record -/

theorem recorded_record {database after : Database} {name : String}
    (put : record database name = .ok after) :
    (after.table? recordTable).isSome ∧ recorded after = recorded database ++ [name] := by
  cases found : database.table? recordTable with
  | none => simp [record, found] at put
  | some table =>
    simp only [record, found, Except.ok.injEq] at put
    subst put
    have named := Database.foldName_of_table? found
    simp [recorded, Database.table?_setRows, found, named, Row.cell]

theorem withRecord_isSome (database : Database) :
    ((withRecord database).table? recordTable).isSome := by
  rw [withRecord]
  split_ifs with there
  · exact there
  · rw [Database.table?_append, if_pos rfl, Option.isSome_or]
    simp

theorem recorded_withRecord (database : Database) :
    recorded (withRecord database) = recorded database := by
  rw [withRecord]
  split_ifs with there
  · rfl
  · rw [Option.not_isSome_iff_eq_none] at there
    simp [recorded, Database.table?_append, there]

/-- What a run puts on record. -/
structure Records (before after : Database) (names : List String) : Prop where
  ordered : names.Pairwise (· < ·)
  added : recorded after = recorded before ++ names

/-- The file of the name is in the folder, is a script and is not on record. -/
def Awaits (files : List Migration) (database : Database) (name : String) : Prop :=
  name ∈ files.map (·.name) ∧ isScript name = true ∧ name ∉ recorded database

theorem awaits_iff {files : List Migration} {database : Database} {name : String} :
    Awaits files database name ↔ name ∈ (pending files (withRecord database)).map (·.name) := by
  simp only [Awaits, List.mem_map, mem_pending, recorded_withRecord]
  constructor
  · rintro ⟨⟨file, member, rfl⟩, script, apart⟩
    exact ⟨file, ⟨member, script, apart⟩, rfl⟩
  · rintro ⟨file, ⟨member, script, apart⟩, rfl⟩
    exact ⟨⟨file, member, rfl⟩, script, apart⟩

namespace Engine

variable {engine other : Engine} {file : Migration} {files : List Migration}
  {database after : Database}

/-- The engine leaves the record to the service when it carries out the file. -/
def Spares (engine : Engine) (file : Migration) : Prop :=
  ∀ database, (engine file database).1.table? recordTable = database.table? recordTable

theorem spares_stepwise {reading : Reading}
    (apart : ∀ statement ∈ file.statements reading, statement.leaves recordTable = none) :
    (stepwise reading).Spares file := by
  suffices all : ∀ (statements : List Statement) (database : Database),
      (∀ statement ∈ statements, statement.leaves recordTable = none) →
      (runStatements database statements).1.table? recordTable = database.table? recordTable from
    fun database => all _ _ apart
  intro statements
  induction statements with
  | nil => exact fun _ _ => rfl
  | cons statement rest ih =>
    intro database apart
    rw [runStatements]
    cases first : statement.run database with
    | error fault => rfl
    | ok next =>
      have same := Statement.table?_run_of_apart first (apart statement (.head _))
      exact (ih next fun later member => apart later (.tail _ member)).trans same

/-- The engine carries out the files one after the other, each on what those before it have left, and
they are put on record. -/
inductive Carries (engine : Engine) : Database → List Migration → Database → Prop
  | nil (database : Database) : Carries engine database [] database
  | cons {database mid next after : Database} {file : Migration} {rest : List Migration}
    (carried : engine file database = (mid, none)) (put : record mid file.name = .ok next)
    (others : Carries engine next rest after) : Carries engine database (file :: rest) after

/-! ### A run -/

theorem apply_ok (done : engine.apply file database = (after, .ok ())) :
    ∃ mid, engine file database = (mid, none) ∧ record mid file.name = .ok after := by
  rw [apply] at done
  split at done
  · cases done
  next mid carried =>
    split at done
    · cases done
    next next put =>
      cases done
      exact ⟨mid, carried, put⟩

theorem apply_error {fault : MigrationFault}
    (failed : engine.apply file database = (after, .error fault)) : fault.name = file.name := by
  rw [apply] at failed
  split at failed
  · cases failed
    rfl
  · split at failed <;> cases failed
    rfl

theorem applyAll_cons_ok {rest : List Migration} {names : List String}
    (done : engine.applyAll database (file :: rest) = (after, .ok names)) :
    ∃ next more, engine.apply file database = (next, .ok ()) ∧
      engine.applyAll next rest = (after, .ok more) ∧ names = file.name :: more := by
  rw [applyAll] at done
  split at done
  · cases done
  · rename_i next applied
    cases later : engine.applyAll next rest with
    | mk last result =>
      cases result with
      | error fault => simp [later, Except.map] at done
      | ok more =>
        rw [later] at done
        cases done
        exact ⟨next, more, applied, later, rfl⟩

theorem applyAll_cons_error {rest : List Migration} {fault : MigrationFault}
    (failed : engine.applyAll database (file :: rest) = (after, .error fault)) :
    engine.apply file database = (after, .error fault) ∨
      ∃ next, engine.apply file database = (next, .ok ()) ∧
        engine.applyAll next rest = (after, .error fault) := by
  rw [applyAll] at failed
  split at failed
  · rename_i applied
    cases failed
    exact Or.inl applied
  · rename_i next applied
    cases later : engine.applyAll next rest with
    | mk last result =>
      cases result with
      | ok more => simp [later, Except.map] at failed
      | error other =>
        rw [later] at failed
        cases failed
        exact Or.inr ⟨next, applied, later⟩

theorem applyAll_ok {names : List String}
    (done : engine.applyAll database files = (after, .ok names)) : names = files.map (·.name) := by
  induction files generalizing database names with
  | nil =>
    cases done
    rfl
  | cons file rest ih =>
    obtain ⟨next, more, _, later, rfl⟩ := applyAll_cons_ok done
    rw [List.map_cons, ← ih later]

theorem carries_applyAll {names : List String}
    (done : engine.applyAll database files = (after, .ok names)) :
    Carries engine database files after := by
  induction files generalizing database names with
  | nil =>
    cases done
    exact .nil _
  | cons file rest ih =>
    obtain ⟨next, _, applied, later, _⟩ := applyAll_cons_ok done
    obtain ⟨mid, carried, put⟩ := apply_ok applied
    exact .cons carried put (ih later)

/-- A run that fails has carried out all before the file at which it fails. -/
theorem applyAll_error {fault : MigrationFault}
    (failed : engine.applyAll database files = (after, .error fault)) :
    ∃ first file rest ready, files = first ++ file :: rest ∧
      engine.applyAll database first = (ready, .ok (first.map (·.name))) ∧
      engine.apply file ready = (after, .error fault) := by
  induction files generalizing database with
  | nil => cases failed
  | cons file rest ih =>
    rcases applyAll_cons_error failed with here | ⟨next, applied, later⟩
    · exact ⟨[], file, rest, database, rfl, rfl, here⟩
    · obtain ⟨first, failing, rest, ready, rfl, ran, fails⟩ := ih later
      refine ⟨file :: first, failing, rest, ready, rfl, ?_, fails⟩
      simp only [applyAll, applied, ran]
      rfl

/-- A file that is carried out is put on record, and one that fails is not. -/
theorem recorded_apply (spares : engine.Spares file)
    (kept : (database.table? recordTable).isSome) :
    ((engine.apply file database).1.table? recordTable).isSome ∧
      recorded (engine.apply file database).1 = recorded database ++
        match (engine.apply file database).2 with
        | .ok () => [file.name]
        | .error _ => [] := by
  have same := spares database
  have still (next : Database) (left : next.table? recordTable = database.table? recordTable) :
      (next.table? recordTable).isSome ∧ recorded next = recorded database := by
    simp only [recorded, left, kept, true_and]
  rw [apply]
  cases carried : engine file database with
  | mk next stop =>
    rw [carried] at same
    obtain ⟨there, unchanged⟩ := still next same
    cases stop with
    | some fault => simpa using ⟨there, unchanged⟩
    | none =>
      cases put : record next file.name with
      | error fault => simpa [put] using ⟨there, unchanged⟩
      | ok last =>
        have added := recorded_record put
        simpa [put, unchanged] using added

theorem recorded_applyAll (spares : ∀ file ∈ files, engine.Spares file)
    (kept : (database.table? recordTable).isSome) {names : List String}
    (done : engine.applyAll database files = (after, .ok names)) :
    (after.table? recordTable).isSome ∧ recorded after = recorded database ++ names := by
  induction files generalizing database names with
  | nil =>
    cases done
    exact ⟨kept, (List.append_nil _).symm⟩
  | cons file rest ih =>
    obtain ⟨next, more, applied, later, rfl⟩ := applyAll_cons_ok done
    have first := recorded_apply (spares file (.head _)) kept
    rw [applied] at first
    obtain ⟨there, added⟩ := ih (fun f member => spares f (.tail _ member)) first.1 later
    refine ⟨there, ?_⟩
    rw [added, first.2, List.append_assoc]
    rfl

theorem applyAll_congr
    (same : ∀ file ∈ files, ∀ database, other file database = engine file database)
    (database : Database) : other.applyAll database files = engine.applyAll database files := by
  induction files generalizing database with
  | nil => rfl
  | cons file rest ih =>
    have first : other.apply file database = engine.apply file database := by
      rw [apply, apply, same file (.head _)]
    simp only [applyAll, first, ih fun f member => same f (.tail _ member)]

/-! ### Runs one after the other -/

/-- The database after runs on folders, one after the other. -/
def migrateAll (engine : Engine) (database : Database) (runs : List (List Migration)) : Database :=
  runs.foldl (fun database files => (engine.migrate files database).1) database

section Run

variable (spares : ∀ file ∈ files, isScript file.name = true → engine.Spares file)
  (distinct : (files.map (·.name)).Nodup)
include spares distinct

theorem migrate_ok {names : List String}
    (done : engine.migrate files database = (after, .ok names)) :
    Records database after names ∧ (∀ name, name ∈ names ↔ Awaits files database name) ∧
      ∃ carried, carried.map (·.name) = names ∧ (∀ file ∈ carried, file ∈ files) ∧
        Carries engine (withRecord database) carried after := by
  have all := applyAll_ok done
  have ordered := pending_sorted distinct (withRecord database)
  have pendingSpared : ∀ file ∈ pending files (withRecord database), engine.Spares file :=
    fun file member => spares file (mem_pending.mp member).1 (mem_pending.mp member).2.1
  obtain ⟨_, added⟩ := recorded_applyAll pendingSpared (withRecord_isSome database) done
  rw [recorded_withRecord] at added
  refine ⟨⟨?_, added⟩, fun name => ?_, _, all.symm, fun file member => ?_, carries_applyAll done⟩
  · rw [all]
    exact List.pairwise_map.mpr ordered
  · rw [all, awaits_iff]
  · exact (mem_pending.mp member).1

theorem migrate_error {fault : MigrationFault}
    (failed : engine.migrate files database = (after, .error fault)) :
    Awaits files database fault.name ∧ ∃ names, Records database after names ∧
      (∀ name, name ∈ names ↔ Awaits files database name ∧ name < fault.name) ∧
      ∃ carried ready, carried.map (·.name) = names ∧ (∀ file ∈ carried, file ∈ files) ∧
        Carries engine (withRecord database) carried ready := by
  obtain ⟨first, file, rest, ready, split, ran, fails⟩ := applyAll_error failed
  have named := apply_error fails
  have ordered := pending_sorted distinct (withRecord database)
  rw [split] at ordered
  have pendingSpared : ∀ other ∈ first ++ file :: rest, engine.Spares other :=
    fun other member =>
      have awaited := mem_pending.mp (split ▸ member)
      spares other awaited.1 awaited.2.1
  obtain ⟨there, added⟩ := recorded_applyAll
    (fun other member => pendingSpared other (List.mem_append_left _ member))
    (withRecord_isSome database) ran
  -- The file that fails leaves the record as those before it have made it.
  have unchanged := (recorded_apply (pendingSpared file (by simp)) there).2
  rw [fails] at unchanged
  refine ⟨?_, first.map (·.name), ⟨?_, ?_⟩, fun name => ?_, first, ready, rfl,
    fun other member => ?_, carries_applyAll ran⟩
  · rw [awaits_iff, split, named]
    simp
  · exact List.pairwise_map.mpr (List.pairwise_append.mp ordered).1
  · rw [unchanged, added, recorded_withRecord, List.append_nil]
  · rw [awaits_iff, split, named]
    simp only [List.mem_map, mem_before ordered]
    constructor
    · rintro ⟨other, ⟨member, less⟩, rfl⟩
      exact ⟨⟨other, member, rfl⟩, less⟩
    · rintro ⟨⟨other, member, rfl⟩, less⟩
      exact ⟨other, ⟨member, less⟩, rfl⟩
  · exact (mem_pending.mp (split ▸ List.mem_append_left _ member)).1

theorem recorded_migrate (database : Database) :
    recorded database <+: recorded (engine.migrate files database).1 := by
  cases run : engine.migrate files database with
  | mk after result =>
    cases result with
    | ok names =>
      obtain ⟨⟨_, added⟩, _⟩ := migrate_ok spares distinct run
      exact ⟨_, added.symm⟩
    | error fault =>
      obtain ⟨_, names, ⟨_, added⟩, _⟩ := migrate_error spares distinct run
      exact ⟨_, added.symm⟩

end Run

theorem recorded_migrateAll {runs : List (List Migration)}
    (spares : ∀ files ∈ runs, ∀ file ∈ files, isScript file.name = true → engine.Spares file)
    (distinct : ∀ files ∈ runs, (files.map (·.name)).Nodup) (database : Database) :
    recorded database <+: recorded (engine.migrateAll database runs) := by
  induction runs generalizing database with
  | nil => exact List.prefix_refl _
  | cons files rest ih =>
    -- Each run appends to the record, so the record of any earlier run is a front of it.
    have first := recorded_migrate (spares files (.head _)) (distinct files (.head _)) database
    exact first.trans (ih (fun f member => spares f (.tail _ member))
      (fun f member => distinct f (.tail _ member)) _)

/-- A run carries out only files that are not on record. -/
theorem migrate_congr
    (same : ∀ file ∈ files, file.name ∉ recorded database →
      ∀ database, other file database = engine file database) :
    other.migrate files database = engine.migrate files database := by
  -- What is on record is not pending, so the engines are asked for the same files.
  refine applyAll_congr (fun file member => ?_) _
  obtain ⟨present, _, apart⟩ := mem_pending.mp member
  rw [recorded_withRecord] at apart
  exact same file present apart

/-- At any point of a history of runs: a run that ends well has put on record, in order, just the
scripts of its folder that were not; one that fails, those of them before the script at which it
fails. They have been carried out in this order, each on what those before it have left. What is on
record stays there, and is not carried out again. -/
theorem scripts_once_in_order {runs : List (List Migration)}
    (spares : ∀ files ∈ runs, ∀ file ∈ files, isScript file.name = true → engine.Spares file)
    (distinct : ∀ files ∈ runs, (files.map (·.name)).Nodup) (database : Database)
    {earlier later : List (List Migration)} {files : List Migration}
    (split : runs = earlier ++ files :: later) :
    let before := engine.migrateAll database earlier
    let (after, result) := engine.migrate files before
    (∀ names, result = .ok names → Records before after names ∧
      (∀ name, name ∈ names ↔ Awaits files before name) ∧
      ∃ carried, carried.map (·.name) = names ∧ (∀ file ∈ carried, file ∈ files) ∧
        Carries engine (withRecord before) carried after) ∧
    (∀ fault, result = .error fault → Awaits files before fault.name ∧
      ∃ names, Records before after names ∧
        (∀ name, name ∈ names ↔ Awaits files before name ∧ name < fault.name) ∧
        ∃ carried ready, carried.map (·.name) = names ∧ (∀ file ∈ carried, file ∈ files) ∧
          Carries engine (withRecord before) carried ready) ∧
    (∀ other : Engine,
      (∀ file ∈ files, file.name ∉ recorded before →
        ∀ database, other file database = engine file database) →
      other.migrate files before = engine.migrate files before) ∧
    recorded after <+: recorded (engine.migrateAll database runs) := by
  have here : files ∈ runs := by simp [split]
  have there : ∀ others ∈ later, others ∈ runs := fun others member => by simp [split, member]
  dsimp only
  refine ⟨fun names done => ?_, fun fault failed => ?_, fun other same => migrate_congr same, ?_⟩
  · exact migrate_ok (spares _ here) (distinct _ here) (Prod.ext rfl done)
  · exact migrate_error (spares _ here) (distinct _ here) (Prod.ext rfl failed)
  · have whole : engine.migrateAll database runs =
        engine.migrateAll (engine.migrate files (engine.migrateAll database earlier)).1 later := by
      rw [split, migrateAll, List.foldl_append]
      rfl
    rw [whole]
    exact recorded_migrateAll (fun f member => spares f (there f member))
      (fun f member => distinct f (there f member)) _

/-- The second run fails at the second of two new scripts, and the third goes on from there; the
script that was carried out first has changed in between. -/
theorem scripts_once_in_order_resumed :
    let earlier : List (List Migration) :=
      [[⟨"1.sql", "CREATE TABLE a (x TEXT);"⟩],
        [⟨"3.sql", "DROP;"⟩, ⟨"2.sql", "CREATE TABLE b (x TEXT);"⟩, ⟨"1.sql", "DROP TABLE a;"⟩]]
    let last : List Migration :=
      [⟨"1.sql", "BROKEN;"⟩, ⟨"3.sql", "DROP TABLE b;"⟩, ⟨"notes.txt", ""⟩]
    let engine := stepwise Statement.ofScript
    let before := engine.migrateAll {} earlier
    (∀ files ∈ earlier ++ [last], ∀ file ∈ files,
        isScript file.name = true → engine.Spares file) ∧
      (∀ files ∈ earlier ++ [last], (files.map (·.name)).Nodup) ∧
      Records before (engine.migrate last before).1 ["3.sql"] := by
  intro earlier last engine before
  have apart : ∀ files ∈ earlier ++ [last], ∀ file ∈ files,
      ∀ statement ∈ file.statements Statement.ofScript, statement.leaves recordTable = none := by
    decide +kernel
  have spares : ∀ files ∈ earlier ++ [last], ∀ file ∈ files,
      isScript file.name = true → engine.Spares file :=
    fun files here file member _ => spares_stepwise (apart files here file member)
  have distinct : ∀ files ∈ earlier ++ [last], (files.map (·.name)).Nodup := by decide
  have third := scripts_once_in_order spares distinct {} rfl
  exact ⟨spares, distinct, (third.1 ["3.sql"] (by decide +kernel)).1⟩

end Engine

/-! ### What a script that fails leaves -/

/-- The file fails at the first of the statements that are left, or, without any, at its record. -/
def StopsAt (file : Migration) (database : Database) (fault : ScriptFault) :
    List Statement → Prop
  | [] => record database file.name = .error fault
  | failing :: _ => failing.run database = .error fault

theorem apply_stepwise_error {reading : Reading} {file : Migration} {database after : Database}
    {fault : MigrationFault}
    (failed : (stepwise reading).apply file database = (after, .error fault)) :
    ∃ done rest, file.statements reading = done ++ rest ∧ runStatements database done = (after, none) ∧
      StopsAt file after fault.fault rest := by
  simp only [Engine.apply, stepwise] at failed
  -- Either a statement fails, or all are done and the name cannot be put on record.
  cases carried : runStatements database (file.statements reading) with
  | mk next stop =>
    cases stop with
    | some why =>
      rw [carried] at failed
      cases failed
      obtain ⟨done, failing, rest, split, ran, fails⟩ := runStatements_fault carried
      exact ⟨done, failing :: rest, split, ran, fails⟩
    | none =>
      cases put : record next file.name with
      | ok last => simp [carried, put] at failed
      | error why =>
        simp only [carried, put, Prod.mk.injEq, Except.error.injEq] at failed
        obtain ⟨rfl, rfl⟩ := failed
        exact ⟨file.statements reading, [], (List.append_nil _).symm, carried, put⟩

/-- A script that fails has the tables made and dropped that its statements before the failing one
say, however it is read. So there are other tables than after the last script that was carried out,
unless the last of these statements about each table leaves it as it was. -/
theorem tables_after_fault (reading : Reading) {files : List Migration}
    (distinct : (files.map (·.name)).Nodup) {database after : Database} {fault : MigrationFault}
    (failed : (stepwise reading).migrate files database = (after, .error fault)) :
    ∃ ready names file done rest,
      (stepwise reading).migrate (files.filter (·.name < fault.name)) database =
        (ready, .ok names) ∧
      file ∈ files ∧ file.name = fault.name ∧ file.statements reading = done ++ rest ∧
      runStatements ready done = (after, none) ∧ StopsAt file after fault.fault rest ∧
      ((∀ name, (after.table? name).isSome = (ready.table? name).isSome) ↔
        ∀ name, ∀ left ∈ (done.filterMap (·.leaves name)).getLast?,
          left = (ready.table? name).isSome) := by
  obtain ⟨first, file, rest, ready, split, ran, fails⟩ := Engine.applyAll_error failed
  have named := Engine.apply_error fails
  have awaited : file ∈ pending files (withRecord database) := by simp [split]
  have present := (mem_pending.mp awaited).1
  obtain ⟨done, undone, parts, carried, stops⟩ := apply_stepwise_error fails
  -- A run on the files with smaller names ends where this one was before the file that fails.
  have smaller : pending (files.filter (·.name < fault.name)) (withRecord database) = first := by
    rw [named]
    exact pending_filter_lt distinct split
  refine ⟨ready, first.map (·.name), file, done, undone, ?_, present, named.symm, parts, carried,
    stops, ?_⟩
  · rw [Engine.migrate, smaller]
    exact ran
  · refine forall_congr' fun name => ?_
    rw [isSome_runStatements carried name]
    cases (done.filterMap (·.leaves name)).getLast? with
    | none => simp
    | some left => simp

/-- A table made before a statement that cannot be read is still there after the failure, and in the
way of the corrected script. -/
theorem table_left_by_fault :
    let broken : Migration := ⟨"0001.sql", "CREATE TABLE a (x INTEGER); BROKEN;"⟩
    let corrected : Migration := ⟨"0001.sql", "CREATE TABLE a (x INTEGER);"⟩
    let after := (migrate [broken] {}).1
    (migrate [broken] {}).2 = .error ⟨"0001.sql", .syntaxError "BROKEN"⟩ ∧
      ((withRecord {}).table? "a").isSome = false ∧ (after.table? "a").isSome = true ∧
      (migrate [corrected] after).2 = .error ⟨"0001.sql", .tableExists "a"⟩ := by
  decide +kernel

/-- A script that makes nothing before it fails leaves the tables as they were. -/
theorem tables_after_fault_of_idle :
    let files : List Migration :=
      [⟨"0002.sql", "DROP TABLE IF EXISTS b; BROKEN;"⟩, ⟨"0001.sql", "CREATE TABLE a (x TEXT);"⟩]
    let fault : MigrationFault := ⟨"0002.sql", .syntaxError "BROKEN"⟩
    let after := (migrate files {}).1
    (files.map (·.name)).Nodup ∧ migrate files {} = (after, .error fault) ∧
      ∃ ready names file done rest,
        migrate (files.filter (·.name < fault.name)) {} = (ready, .ok names) ∧
        file ∈ files ∧ file.name = fault.name ∧
        file.statements Statement.ofScript = done ++ rest ∧
        runStatements ready done = (after, none) ∧ StopsAt file after fault.fault rest ∧
        ((∀ name, (after.table? name).isSome = (ready.table? name).isSome) ↔
          ∀ name, ∀ left ∈ (done.filterMap (·.leaves name)).getLast?,
            left = (ready.table? name).isSome) := by
  intro files fault after
  have distinct : (files.map (·.name)).Nodup := by decide
  have failed : migrate files {} = (after, .error fault) := Prod.ext rfl (by decide +kernel)
  exact ⟨distinct, failed, tables_after_fault Statement.ofScript distinct failed⟩

end Store
end Signpost
