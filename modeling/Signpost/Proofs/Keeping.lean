import Mathlib.Data.List.Nodup
import Signpost.Proofs.Holdings
import Signpost.Store.Migration

/-!
# What calls on the stores give

Stores that hold the same records give the same answers, in memory and in tables, as long as every
integer fits in a cell. This module says what each call gives and leaves, by the records that the
stores hold.

## Main results

`insertRule_of_holds`, `updateRule_of_known`, `updateRule_of_unknown` and `noteAccess_of_holds` for
rules that have ids of their own; `resolveVersion_of_holds` and `resolveHostOnly_of_holds` for what a
request looks up. `Tables.insertRule_eq` says in full what an insertion into any table of rules
comes to.

## Proof strategy

The plain values of a record are bound if its integers fit (`bindAll_ruleFields`), and its row
offends no column. So a change of a table fails only by the key, and ids that differ rule that out.
-/
namespace Signpost

open Sql Store

theorem eq_ok_of_toOption {ε α : Type} {found : Except ε α} {value : α}
    (given : found.toOption = some value) : found = .ok value := by
  cases found with
  | error failure => cases given
  | ok other => rw [Option.some.inj given]

/-- The tables that the scripts make hold nothing yet. -/
theorem migrate_inTables :
    (⟨[], [], []⟩ : Contents).InTables (Store.migrate Store.serviceScripts {}).1 := by
  rw [Store.migrate_serviceScripts]
  exact ⟨rfl, rfl, rfl⟩

/-! ### The integers of a record -/

/-- The integers of a rule. -/
def Rule.integers (rule : Rule) : List Int :=
  rule.version :: rule.status :: (rule.start.toList ++ rule.stop.toList ++ rule.lastAccessed.toList)

/-- The stores have room for an integer: memory for any, tables for one that fits in a cell. -/
def Stores.hasRoom : Stores → Int → Bool
  | .memory _, _ => true
  | .tables _ _, n => fits n

theorem fits_ofOption_int (value : Option Int) :
    (asNumber (.ofOption .int value)).fits = value.toList.all fits := by
  cases value <;> simp [Value.ofOption, asNumber, Value.fits]

theorem fits_ofOption_text (value : Option String) :
    (asNumber (.ofOption .text value)).fits = true := by
  cases value <;> rfl

theorem fits_bool (flag : Bool) : (asNumber (.bool flag)).fits = true := by
  cases flag <;> rfl

/-- The values of a rule fit exactly if its integers do. -/
theorem ruleFields_fit (rule : Rule) :
    ((ruleFields rule).map (·.2)).all (·.fits) = rule.integers.all fits := by
  simp only [ruleFields, Rule.attributes, Rule.attributeNames, Rule.values, List.zip_cons_cons,
    List.zip_nil_right, List.map_cons, List.map_nil, List.all_cons, List.all_nil,
    fits_ofOption_int, fits_ofOption_text, fits_bool, Rule.integers, List.all_append]
  simp only [asNumber, Value.fits, Bool.true_and, Bool.and_true, Bool.and_assoc]

/-- The fields of a rule are bound to the cells of its row, if its integers fit. -/
theorem bindAll_ruleFields (rule : Rule) : bindAll 1 ((ruleFields rule).map (·.2)) =
    if rule.integers.all fits then .ok (((ruleFields rule).map (·.2)).map cellOf)
    else .error .integerTooLarge := by
  rw [bindAll_eq (ruleFields_plain rule), ruleFields_fit]

/-! ### Rows in a table -/

theorem nullFault?_row {rule : Rule} {id : String} (named : rule.id = some id) (name : String) :
    Database.nullFault? name ruleColumns rule.row = none := by
  cases rule
  cases named
  rfl

namespace Store.Tables

/-- An insertion into a table of rules fails if an integer is too large or the id is taken; else the
row is put after all others. -/
theorem insertRule_eq {database : Database} {rows : List Row}
    (held : database.rows "rules" = .ok rows) (id : String) (rule : Rule) :
    insertRule database id rule =
      if rule.integers.all fits then
        if rows.any (·.cell "id" == .text id) then .error (.notUnique "rules.id")
        else .ok (database.setRows "rules" (rows ++ [Rule.row { rule with id := some id }]))
      else .error .integerTooLarge := by
  have bound := bindAll_ruleFields { rule with id := some id }
  have same : Rule.integers { rule with id := some id } = rule.integers := rfl
  rw [same] at bound
  simp only [insertRule, Database.insert, held, bound, Bind.bind, Except.bind]
  cases rule.integers.all fits with
  | false => rfl
  | true =>
    have row := (conforms_rule { rule with id := some id }).stored
    have key : (Rule.row { rule with id := some id }).cell "id" = .text id := rfl
    have complete : Database.nullFault? "rules" ruleColumns
        (Rule.row { rule with id := some id }) = none := nullFault?_row rfl "rules"
    simp only [if_true, zip_ruleFields, row, complete, Option.none_or,
      Option.bind_some, Database.keyFault?, key]
    cases rows.any (·.cell "id" == .text id) <;> rfl

end Store.Tables

/-! ### Rules with ids of their own -/

theorem cell_id_inj {rule other : Rule} (same : rule.row.cell "id" = other.row.cell "id") :
    rule.id = other.id := by
  have cell (r : Rule) : r.row.cell "id" = cellOf (.ofOption .text r.id) := rfl
  rw [cell, cell] at same
  cases hereId : rule.id <;> cases thereId : other.id <;>
    simp_all [Value.ofOption, cellOf]

/-- Rows of rules differ in their ids as the rules do. -/
theorem nodup_cell_id {rules : List Rule} (distinct : (rules.map (·.id)).Nodup) :
    ((rules.map Rule.row).map (·.cell "id")).Nodup := by
  rw [List.map_map]
  refine (List.nodup_map_iff_inj_on (List.Nodup.of_map _ distinct)).mpr ?_
  intro rule member other present same
  exact List.inj_on_of_nodup_map distinct member present (cell_id_inj same)

theorem Rule.id_noted (id : String) (millis : Int) (rule : Rule) :
    (rule.noted id millis).id = rule.id := by
  unfold noted
  split <;> rfl

theorem ids_map {change : Rule → Rule} (keepsId : ∀ rule, (change rule).id = rule.id)
    (rules : List Rule) : (rules.map change).map (·.id) = rules.map (·.id) := by
  rw [List.map_map]
  exact List.map_congr_left fun rule _ => keepsId rule

/-- Where ids differ, the first rule with an id is the only one. -/
theorem replaceFirst_eq_map {id : Option String} {change : Rule → Rule} {rules : List Rule}
    (distinct : (rules.map (·.id)).Nodup) :
    replaceFirst id change rules =
      if rules.any (·.id = id) then
        some (rules.map fun rule => if rule.id = id then change rule else rule)
      else none := by
  induction rules with
  | nil => rfl
  | cons rule rest ih =>
    rw [List.map_cons, List.nodup_cons] at distinct
    rw [replaceFirst, ih distinct.2, List.any_cons, List.map_cons]
    by_cases here : rule.id = id
    · -- No later rule has the id, so the others stay as they are.
      have others : ∀ other ∈ rest, (if other.id = id then change other else other) = other := by
        intro other member
        refine if_neg fun same : other.id = id => distinct.1 ?_
        exact List.mem_map.mpr ⟨other, member, same.trans here.symm⟩
      have kept := List.map_congr_left others
      simp only [List.map_id'] at kept
      simp [here, kept]
    · by_cases later : rest.any (·.id = id) = true <;> simp [here, later]

namespace Sql.Database

/-- Where rows differ in their key, cells that keep the key and leave no column without a value it
needs can be set in the rows that have a key. -/
theorem exists_updateRows {name key : String} {columns : List Column} {keyCell : Cell}
    {cells : Row} {before rows : List Row} (distinct : ((before ++ rows).map (·.cell key)).Nodup)
    (complete : ∀ row ∈ rows, row.cell key = keyCell →
      nullFault? name columns (assign row cells) = none)
    (keeps : ∀ row ∈ rows, row.cell key = keyCell → (assign row cells).cell key = keyCell) :
    ∃ changed, updateRows name columns key keyCell cells before rows = .ok changed := by
  -- The rows already looked at have the keys that they had, so the keys stay distinct.
  induction rows generalizing before with
  | nil => exact ⟨before, rfl⟩
  | cons row rest ih =>
    have others := fun (r : Row) member => complete r (.tail _ member)
    have theirs := fun (r : Row) member => keeps r (.tail _ member)
    rw [updateRows]
    by_cases found : (row.cell key == keyCell && keyCell != .null) = true
    · -- The row keeps its key, which no row before or behind it has.
      have here : row.cell key = keyCell := by simp_all
      have kept := keeps row (.head _) here
      have alone : (before ++ rest).any
          (fun other => other.cell key == (assign row cells).cell key) = false := by
        rw [kept, ← here, List.any_eq_false]
        intro other member same
        have apart := List.nodup_middle.mp (List.map_append ▸ distinct)
        rw [← List.map_append, List.nodup_cons] at apart
        exact apart.1 (List.mem_map.mpr ⟨other, member, beq_iff_eq.mp same⟩)
      simp only [if_pos found, complete row (.head _) here, keyFault?, alone, Option.none_or,
        Bool.and_false, Bool.false_eq_true, if_false]
      refine ih ?_ others theirs
      simpa [kept, here] using distinct
    · rw [if_neg found]
      refine ih ?_ others theirs
      simpa using distinct

end Sql.Database

/-- Where ids differ, the rule with an id can be given another content by setting cells that fit. -/
theorem Contents.InTables.exists_update {contents : Contents} {database : Database}
    (held : contents.InTables database) (distinct : (contents.rules.map (·.id)).Nodup)
    {fields : List (String × Value)} {id : String} {change : Rule → Rule}
    (plain : ∀ value ∈ fields.map (fun field => asNumber field.2), value.isPlain = true)
    (fitting : (fields.map fun field => asNumber field.2).all (·.fits) = true)
    (assigned : ∀ rule : Rule, Database.assign rule.row (Database.stored ruleColumns
      ((fields.map (·.1)).zip ((fields.map fun field => asNumber field.2).map cellOf))) =
        (change rule).row)
    (named : ∀ rule, rule.id = some id → (change rule).id = some id) :
    ∃ after, database.update "rules" ruleColumns "id" (.text id) fields =
        .ok (after, (contents.rules.filter (·.id = some id)).length) ∧
      { contents with rules := contents.rules.map fun (rule : Rule) =>
          if rule.id = some id then change rule else rule }.InTables after := by
  have key (rule : Rule) : (rule.row.cell "id" == .text id) = decide (rule.id = some id) :=
    cell_id_beq rule id
  have has {rule : Rule} (same : rule.row.cell "id" = .text id) : rule.id = some id :=
    of_decide_eq_true ((key rule).symm.trans (beq_iff_eq.mpr same))
  -- No row loses its id or a value that it needs, so every change of a row goes through.
  obtain ⟨changed, updated⟩ : ∃ changed, Database.updateRows "rules" ruleColumns "id" (.text id)
      (Database.stored ruleColumns
        ((fields.map (·.1)).zip ((fields.map fun field => asNumber field.2).map cellOf))) []
      (contents.rules.map Rule.row) = .ok changed := by
    refine Database.exists_updateRows (nodup_cell_id distinct) ?_ ?_
    · intro row member same
      obtain ⟨rule, _, rfl⟩ := List.mem_map.mp member
      rw [assigned]
      exact nullFault?_row (named rule (has same)) _
    · intro row member same
      obtain ⟨rule, _, rfl⟩ := List.mem_map.mp member
      rw [assigned]
      exact beq_iff_eq.mp ((key _).trans (decide_eq_true (named rule (has same))))
  have count : ((contents.rules.map Rule.row).filter (·.cell "id" == .text id)).length =
      (contents.rules.filter (·.id = some id)).length := by
    rw [List.filter_map, List.length_map]
    exact congrArg _ (congrArg (List.filter · _) (funext key))
  have bound := bindAll_eq plain
  rw [if_pos fitting] at bound
  have boundKey : Sql.bind (fields.length + 1) (.text id) = .ok (.text id) := rfl
  have stored : Affinity.text.stored (.text id) = .text id := rfl
  have done : database.update "rules" ruleColumns "id" (.text id) fields =
      .ok (database.setRows "rules" changed, (contents.rules.filter (·.id = some id)).length) := by
    simp only [Database.update, held.rules, bound, boundKey, stored, updated, count, Bind.bind,
      Except.bind, Pure.pure, Except.pure]
  exact ⟨_, done, held.of_update done plain assigned⟩

/-! ### Calls on rules -/

/-- The rule, put in the place of the other if that has the same id. -/
def Rule.inPlaceOf (rule other : Rule) : Rule :=
  if other.id = rule.id then rule else other

theorem Rule.id_inPlaceOf (rule other : Rule) : (rule.inPlaceOf other).id = other.id := by
  unfold inPlaceOf
  split
  next same => exact same.symm
  next => rfl

theorem Rule.inPlaceOf_eq {rule : Rule} {id : String} (named : rule.id = some id) :
    (fun (other : Rule) => if other.id = some id then rule else other) = rule.inPlaceOf := by
  funext other
  rw [inPlaceOf, named]

theorem assign_row (rule other : Rule) : Database.assign other.row rule.row = rule.row := rfl

theorem asNumber_asNumber (value : Value) : asNumber (asNumber value) = asNumber value := by
  cases value <;> rfl

theorem asNumber_ruleFields (rule : Rule) :
    (ruleFields rule).map (fun field => asNumber field.2) = (ruleFields rule).map (·.2) := by
  simp only [ruleFields, List.map_map]
  exact List.map_congr_left fun field _ => asNumber_asNumber field.2

theorem assign_ruleFields (rule other : Rule) :
    Database.assign other.row (Database.stored ruleColumns
      (((ruleFields rule).map (·.1)).zip
        (((ruleFields rule).map fun field => asNumber field.2).map cellOf))) = rule.row := by
  rw [asNumber_ruleFields, zip_ruleFields, (conforms_rule rule).stored]
  exact assign_row rule other

/-- In the tables, a rule is put in the place of the one with its id. -/
theorem Contents.InTables.updateRule {contents : Contents} {database : Database}
    (held : contents.InTables database) (distinct : (contents.rules.map (·.id)).Nodup)
    {rule : Rule} {id : String} (named : rule.id = some id)
    (small : rule.integers.all fits = true) :
    ∃ after, database.update "rules" ruleColumns "id" (.text id) (ruleFields rule) =
        .ok (after, (contents.rules.filter (·.id = some id)).length) ∧
      { contents with rules := contents.rules.map rule.inPlaceOf }.InTables after := by
  have plain := ruleFields_plain rule
  have fitting := (ruleFields_fit rule).trans small
  rw [← asNumber_ruleFields] at plain fitting
  obtain ⟨after, updated, holds⟩ :=
    held.exists_update distinct plain fitting (assign_ruleFields rule) fun _ _ => named
  exact ⟨after, updated, Rule.inPlaceOf_eq named ▸ holds⟩

/-- An update of the tables that is made puts the rule in the place of the one with its id. -/
theorem Contents.InTables.of_updateRule {contents : Contents} {database after : Database}
    (held : contents.InTables database) {rule : Rule} {id : String} (named : rule.id = some id)
    (updated : Tables.updateRule database rule = .ok after) :
    { contents with rules := contents.rules.map rule.inPlaceOf }.InTables after := by
  simp only [Tables.updateRule, named] at updated
  cases found : database.update "rules" ruleColumns "id" (.text id) (ruleFields rule) with
  | error failure => simp [found, Bind.bind, Except.bind] at updated
  | ok result =>
    obtain ⟨changed, count⟩ := result
    simp only [found, Bind.bind, Except.bind, Pure.pure, Except.pure] at updated
    split at updated
    · cases updated
    · cases updated
      have plain := ruleFields_plain rule
      rw [← asNumber_ruleFields] at plain
      exact Rule.inPlaceOf_eq named ▸ held.of_update found plain (assign_ruleFields rule)

/-- The rule with the id is the only one that an access is noted on, in the tables. -/
theorem Contents.InTables.noteOn {contents : Contents} {database : Database}
    (held : contents.InTables database) (distinct : (contents.rules.map (·.id)).Nodup)
    (id : String) {millis : Int} (small : fits millis = true) :
    ∃ after, database.update "rules" ruleColumns "id" (.text id) [("last_accessed", .int millis)] =
        .ok (after, (contents.rules.filter (·.id = some id)).length) ∧
      { contents with rules := contents.rules.map (Rule.noted id millis) }.InTables after :=
  held.exists_update distinct (by simp [asNumber, Value.isPlain])
    (by simp [asNumber, Value.fits, small]) (fun rule => assign_lastAccessed rule millis)
    fun _ named => named

namespace Stores

variable {stores : Stores} {contents : Contents}

theorem tables_of_changed {path : String} {file : DatabaseFile} {after : Stores}
    {change : Database → Except Failure Database} (done : changed path file change = .ok after) :
    ∃ next, after = .tables path next := by
  unfold changed at done
  cases found : opened path file with
  | error failure => simp [found, Bind.bind, Except.bind] at done
  | ok database =>
    cases made : change database with
    | error failure => simp [found, made, Bind.bind, Except.bind] at done
    | ok next =>
      simp only [found, made, Bind.bind, Except.bind, Pure.pure, Except.pure,
        Except.ok.injEq] at done
      exact ⟨_, done.symm⟩

theorem hasRoom_of_insertRule {after : Stores} {id : String} {rule : Rule}
    (inserted : stores.insertRule id rule = .ok after) : after.hasRoom = stores.hasRoom := by
  cases stores with
  | memory m =>
    simp only [insertRule, Memory.insertRule] at inserted
    split at inserted <;> cases inserted
    rfl
  | tables path file =>
    obtain ⟨next, rfl⟩ := tables_of_changed inserted
    rfl

/-- A rule is added at the end, under an id that no other rule has, if the stores have room for its
integers. -/
theorem insertRule_of_room (held : stores.Holds contents) {id : String}
    (fresh : ∀ other ∈ contents.rules, other.id ≠ some id) {rule : Rule}
    (room : rule.integers.all stores.hasRoom = true) :
    ∃ after, stores.insertRule id rule = .ok after ∧
      after.Holds { contents with rules := contents.rules ++ [{ rule with id := some id }] } := by
  suffices done : ∃ after, stores.insertRule id rule = .ok after by
    obtain ⟨after, inserted⟩ := done
    exact ⟨after, inserted, insertRule_holds held inserted⟩
  cases held with
  | memory m =>
    have absent : m.rules.any (·.id = some id) = false := by
      simpa using fresh
    simp only [insertRule, Memory.insertRule, absent]
    exact ⟨_, rfl⟩
  | @tables path database _ held =>
    have absent : (contents.rules.map Rule.row).any (·.cell "id" == .text id) = false := by
      rw [List.any_map, List.any_eq_false]
      intro other member same
      exact fresh other member (of_decide_eq_true ((cell_id_beq other id).symm.trans same))
    have small : rule.integers.all fits = true := room
    simp only [insertRule, changed_present, Tables.insertRule_eq held.rules, small, absent, if_true]
    exact ⟨_, rfl⟩

theorem hasRoom_of_fits (stores : Stores) {integers : List Int}
    (small : integers.all fits = true) : integers.all stores.hasRoom = true := by
  cases stores with
  | memory m => simp [hasRoom]
  | tables path file => exact small

theorem insertRule_of_holds (held : stores.Holds contents) {id : String}
    (fresh : ∀ other ∈ contents.rules, other.id ≠ some id) {rule : Rule}
    (small : rule.integers.all fits = true) :
    ∃ after, stores.insertRule id rule = .ok after ∧
      after.Holds { contents with rules := contents.rules ++ [{ rule with id := some id }] } :=
  insertRule_of_room held fresh (hasRoom_of_fits stores small)

/-- A rule is put in the place of the one with its id. -/
theorem updateRule_of_known (held : stores.Holds contents)
    (distinct : (contents.rules.map (·.id)).Nodup) {rule : Rule} {id : String}
    (named : rule.id = some id) (small : rule.integers.all fits = true)
    (known : contents.rules.any (·.id = some id) = true) :
    ∃ after, stores.updateRule rule = .ok after ∧
      after.Holds { contents with rules := contents.rules.map rule.inPlaceOf } := by
  cases held with
  | memory m =>
    simp only [updateRule, Memory.updateRule, named, replaceFirst_eq_map distinct, known, if_true]
    exact ⟨_, rfl, Rule.inPlaceOf_eq named ▸ .memory _⟩
  | @tables path database _ held =>
    obtain ⟨after, updated, holds⟩ := held.updateRule distinct named small
    have some : (contents.rules.filter (·.id = some id)).length ≠ 0 := by
      simpa [List.filter_eq_nil_iff] using known
    simp only [updateRule, named, changed_present, Tables.updateRule, updated, Bind.bind,
      Except.bind, some]
    exact ⟨_, rfl, .tables holds⟩

/-- Where ids differ, an update that is made puts the rule in the place of the one with its id. -/
theorem updateRule_holds (held : stores.Holds contents)
    (distinct : (contents.rules.map (·.id)).Nodup) {rule : Rule} {after : Stores}
    (updated : stores.updateRule rule = .ok after) :
    after.Holds { contents with rules := contents.rules.map rule.inPlaceOf } := by
  cases named : rule.id with
  | none =>
    -- A rule without an id is turned away.
    cases held with
    | memory m =>
      simp only [updateRule, Memory.updateRule, named] at updated
      cases updated
    | tables held =>
      simp only [updateRule, named] at updated
      cases updated
  | some id =>
    cases held with
    | memory m =>
      simp only [updateRule, Memory.updateRule, named, replaceFirst_eq_map distinct,
        Rule.inPlaceOf_eq named] at updated
      cases known : m.rules.any (·.id = some id) with
      | true =>
        simp only [known, if_true] at updated
        cases updated
        exact .memory _
      | false =>
        simp only [known] at updated
        cases updated
    | tables held =>
      simp only [updateRule, named] at updated
      exact holds_of_changed (fun _ done => held.of_updateRule named done) updated

/-- Without a rule that has its id, a rule has no place. -/
theorem updateRule_of_unknown (held : stores.Holds contents)
    (distinct : (contents.rules.map (·.id)).Nodup) {rule : Rule} {id : String}
    (named : rule.id = some id) (small : rule.integers.all fits = true)
    (unknown : contents.rules.any (·.id = some id) = false) :
    stores.updateRule rule = .error (.notFound id) := by
  cases held with
  | memory m =>
    simp only [updateRule, Memory.updateRule, named, replaceFirst_eq_map distinct, unknown]
    rfl
  | @tables path database _ held =>
    obtain ⟨after, updated, _⟩ := held.updateRule distinct named small
    have none : (contents.rules.filter (·.id = some id)).length = 0 := by
      simpa [List.filter_eq_nil_iff] using unknown
    simp only [updateRule, named, changed_present, Tables.updateRule, updated, Bind.bind,
      Except.bind, none, if_true]
    rfl

/-- An access is noted on the rule with the id; or it cannot be noted, and there is no such rule. -/
theorem noteAccess_of_holds (held : stores.Holds contents)
    (distinct : (contents.rules.map (·.id)).Nodup) (id : String) {millis : Int}
    (small : fits millis = true) :
    (∃ after, stores.patchRule id [("last_accessed", .int millis)] = .ok after ∧
        after.Holds { contents with rules := contents.rules.map (Rule.noted id millis) }) ∨
      (∃ failure, stores.patchRule id [("last_accessed", .int millis)] = .error failure) ∧
        contents.rules.map (Rule.noted id millis) = contents.rules := by
  cases held with
  | memory m =>
    simp only [patchRule, Memory.patchRule, List.foldl_cons, List.foldl_nil,
      setAttribute_lastAccessed, replaceFirst_eq_map distinct]
    cases known : m.rules.any (·.id = some id) with
    | true => exact Or.inl ⟨_, rfl, .memory _⟩
    | false =>
      -- There is nothing to note the access on; tables would say nothing of it.
      refine Or.inr ⟨⟨_, rfl⟩, ?_⟩
      have others : ∀ rule ∈ m.rules, rule.noted id millis = rule := by
        intro rule member
        refine if_neg fun same => ?_
        simpa [same] using List.any_eq_false.mp known rule member
      exact (List.map_congr_left others).trans (List.map_id' _)
  | @tables path database _ held =>
    obtain ⟨after, updated, holds⟩ := held.noteOn distinct id small
    refine Or.inl ⟨.tables path (.present after), ?_, .tables holds⟩
    have known : ["last_accessed"].filter (fun name => !Rule.attributeNames.contains name) = [] :=
      rfl
    simp only [patchRule, changed_present, Tables.patchRule, updated, Bind.bind, Except.bind,
      Pure.pure, Except.pure, Except.map, List.map_cons, List.map_nil, known, List.isEmpty_cons,
      List.isEmpty_nil, Bool.not_true]
    rfl

theorem deleteRules_of_holds (held : stores.Holds contents) :
    ∃ after, stores.deleteRules = .ok (after, contents.rules.length) := by
  cases held with
  | memory m => exact ⟨_, rfl⟩
  | @tables path database _ held =>
    refine ⟨.tables path (.present (database.setRows "rules" [])), ?_⟩
    simp only [deleteRules, opened, Database.deleteAll, held.rules, kept, Bind.bind, Except.bind,
      Pure.pure, Except.pure, List.length_map]

theorem countRules_of_holds (held : stores.Holds contents) :
    stores.countRules = .ok contents.rules.length := by
  cases held with
  | memory m => rfl
  | tables held =>
    simp only [countRules, opened, Tables.countRules, held.rules, Bind.bind, Except.bind,
      Pure.pure, Except.pure, List.length_map]

/-! ### Calls on versions and hosts -/

theorem insertVersion_of_holds (held : stores.Holds contents) {version : ActiveVersion}
    (small : fits version.number = true) :
    ∃ after, stores.insertVersion version = .ok after := by
  cases held with
  | memory m => exact ⟨_, rfl⟩
  | @tables path database _ held =>
    have bound : bindAll 1 (version.attributes.map (·.2)) = .ok [.integer version.number] := by
      rw [bindAll_eq (by simp [ActiveVersion.attributes, Value.isPlain])]
      simp [ActiveVersion.attributes, Value.fits, small, cellOf]
    simp only [insertVersion, changed_present, Tables.insertVersion, Database.insert, held.versions,
      bound, Bind.bind, Except.bind]
    exact ⟨_, rfl⟩

theorem deleteVersions_of_holds (held : stores.Holds contents) :
    ∃ after, stores.deleteVersions = .ok (after, contents.versions.length) := by
  cases held with
  | memory m => exact ⟨_, rfl⟩
  | @tables path database _ held =>
    refine ⟨.tables path (.present (database.setRows "versions" [])), ?_⟩
    simp only [deleteVersions, opened, Database.deleteAll, held.versions, kept, Bind.bind,
      Except.bind, Pure.pure, Except.pure, List.length_map]

theorem insertHost_of_holds (held : stores.Holds contents) (policy : HostPolicy) :
    ∃ after, stores.insertHost policy = .ok after := by
  cases held with
  | memory m => exact ⟨_, rfl⟩
  | @tables path database _ held =>
    simp only [insertHost, changed_present, Tables.insertHost, held.hosts, Bind.bind, Except.bind]
    split <;> exact ⟨_, rfl⟩

theorem conforms_version (version : ActiveVersion) : Conforms versionColumns version.attributes where
  taken := .cons ⟨rfl, Or.inr rfl⟩ .nil
  distinct := by decide

theorem versionOfRow_rowOf (version : ActiveVersion) : versionOfRow version.row = .ok version := rfl

/-- The positive versions are found in the order in which they were added. -/
theorem searchVersions_of_holds (held : stores.Holds contents) :
    stores.searchVersions [.one (.above "active_version" (.int 0))] =
      .ok (contents.versions.filter (0 < ·.number)) := by
  have suits : ∀ criterion ∈ [Criterion.one (.above "active_version" (.int 0))],
      criterion.suits versionColumns = true := by
    intro criterion member
    cases List.mem_singleton.mp member
    rfl
  have wanted (version : ActiveVersion) :
      satisfies [.one (.above "active_version" (.int 0))] version.attributes =
        decide (0 < version.number) := by
    have has : version.attributes.lookup "active_version" = some (.int version.number) := rfl
    have compared : (Value.int version.number).above (.int 0) = .ok (decide (0 < version.number)) :=
      congrArg Except.ok (before_integerPosition 0 version.number)
    simp only [satisfies, recordMatches, Criterion.holds, Condition.holds, Condition.above, has,
      Test.holds, compared]
    cases decide (0 < version.number) <;> rfl
  cases held with
  | memory m =>
    simp only [searchVersions, Store.search,
      select_of_suits suits (fun version _ => conforms_version version) m.others, wanted]
    rfl
  | @tables path database _ held =>
    obtain ⟨clauses, values, made, selected⟩ :=
      select_rowOf suits (fun version _ => conforms_version version) held.versions
    have bound : database.parameters clauses values = .ok [.integer 0] := by
      cases made
      exact database.parameters_of_small (by simp [sizeOfAll, Clause.size]) _
    simp only [wanted] at selected
    simp only [searchVersions, queried, made, opened, Tables.searchVersions, selected, bound,
      Bind.bind, Except.bind, Except.map]
    exact readRows_rowOf versionOfRow_rowOf _

end Stores

/-! ### What a request looks up -/

/-- The first positive version, or the default without one. -/
def Contents.activeVersion (contents : Contents) (default : Int) : Int :=
  ((contents.versions.find? (0 < ·.number)).map (·.number)).getD default

namespace Resolve

variable {stores : Stores} {contents : Contents}

theorem resolveVersion_of_holds (held : stores.Holds contents) (explicit : Value) (default : Int) :
    resolveVersion stores explicit default =
      .ok (explicit.integer?.getD (contents.activeVersion default)) := by
  unfold resolveVersion
  cases explicit.integer? with
  | some version => rfl
  | none =>
    simp only [Stores.searchVersions_of_holds held, Contents.activeVersion, ← List.head?_filter]
    rfl

theorem resolveHostOnly_of_holds (held : stores.Holds contents) (explicit : Option Bool)
    (host : String) (default : Bool) :
    resolveHostOnly stores explicit host default =
      .ok (explicit.getD (((policyOf contents.hosts host).map (·.hostOnly)).getD default)) := by
  cases explicit with
  | some hostOnly => rfl
  | none =>
    simp only [resolveHostOnly, Stores.searchHosts_of_holds held, policyOf, ← List.head?_filter]
    rfl

end Resolve

end Signpost
