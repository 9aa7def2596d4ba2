import Signpost.Proofs.Access
import Signpost.Proofs.History

/-!
# Invariants of the stores

What every change that a service makes to its stores keeps true stays true through all that happens to a
session. A service sets single attributes of a rule only to note an access; a step that patches a rule at
will is left out here, since it may set any attribute, the id included.

## Main results

`Invariant.run`: an invariant of the stores is kept by a whole history.

`distinct_invariant` and `run_distinct`: no two rules have the same id, in stores of either kind.

## Proof strategy

All changes of rules go through the calls named in `Invariant`. An import inserts the rules of its rows one
by one, and answering a request notes an access or does nothing.
-/
namespace Signpost

open Store (Failure)

/-- The event is a step that patches a rule. -/
def Event.patches : Event → Bool
  | .step (.patch _ _) => true
  | _ => false

namespace Stores

/-- A property of stores that is kept by the changes that a service makes. -/
structure Invariant (P : Stores → Prop) : Prop where
  insertRule {stores after : Stores} {id : String} {rule : Rule} :
    P stores → stores.insertRule id rule = .ok after → P after
  updateRule {stores after : Stores} {rule : Rule} :
    P stores → stores.updateRule rule = .ok after → P after
  noteAccess {stores after : Stores} {id : String} {millis : Int} :
    P stores → stores.patchRule id [("last_accessed", .int millis)] = .ok after → P after
  deleteRules {stores after : Stores} {count : Nat} :
    P stores → stores.deleteRules = .ok (after, count) → P after
  insertHost {stores after : Stores} {policy : HostPolicy} :
    P stores → stores.insertHost policy = .ok after → P after
  insertVersion {stores after : Stores} {version : ActiveVersion} :
    P stores → stores.insertVersion version = .ok after → P after
  deleteVersions {stores after : Stores} {count : Nat} :
    P stores → stores.deleteVersions = .ok (after, count) → P after

namespace Invariant

variable [Platform] {P : Stores → Prop} {base : RuleBase} {session : Session}

omit [Platform] in
theorem insert (invariant : Invariant P) (before : P base.stores) (rule : Rule) :
    P (base.insert rule).1.stores := by
  cases call : base.insert rule with
  | mk next answer =>
    cases answer with
    | error failure => exact (RuleBase.stores_of_insert_error call).symm ▸ before
    | ok stored =>
      obtain ⟨id, _, inserted⟩ := RuleBase.stores_of_insert_ok call
      exact invariant.insertRule before inserted

omit [Platform] in
theorem note (invariant : Invariant P) (before : P base.stores) (access : Resolve.Access) :
    P (Resolve.note base access).stores :=
  RuleBase.after_stores P before
    (fun _ patched => invariant.noteAccess before (RuleBase.ok_of_allowed patched)) ()

theorem importRow (invariant : Invariant P) (before : P base.stores) (defaults : Sheet.Defaults)
    (version : Int) (row : Sheet.Row) : P (Sheet.importRow base defaults version row).1.stores := by
  rcases Sheet.settles_or_breaks defaults version base row with
    ⟨fate, next, settles⟩ | ⟨failure, next, breaks⟩
  · rw [settles.importRow_eq]
    cases settles with
    | refused | duplicate => exact before
    | failed _ _ failed _ => exact (RuleBase.stores_of_insert_error failed).symm ▸ before
    | unheld isNormal _ made failed _ => exact (Sheet.kept_of_unheld isNormal made failed).1.symm ▸ before
    | stored _ _ inserted =>
      obtain ⟨id, _, taken⟩ := RuleBase.stores_of_insert_ok inserted
      exact invariant.insertRule before taken
  · rw [breaks.importRow_eq]
    exact breaks.stores.symm ▸ before

theorem importRowsFaltering (invariant : Invariant P) (before : P base.stores)
    (defaults : Sheet.Defaults) (rows : List (Faults × Sheet.Row)) :
    P (Sheet.importRowsFaltering base defaults rows).1.stores := by
  have all (version : Int) (report : Sheet.Report) :
      P (Sheet.importAfterFaltering defaults version report base rows).1.stores := by
    -- What a row leaves behind is what the next one is taken against.
    induction rows generalizing base report with
    | nil => exact before
    | cons taken rest ih =>
      obtain ⟨faults, row⟩ := taken
      have still : P ({ base with faults } : RuleBase).stores := before
      have first := invariant.importRow still defaults version row
      rw [Sheet.importAfterFaltering]
      cases call : Sheet.importRow { base with faults } defaults version row with
      | mk next answer =>
        rw [call] at first
        cases answer with
        | error failure => exact first
        | ok outcome => exact ih first _
  unfold Sheet.importRowsFaltering
  split
  · exact before
  · exact all _ _

theorem afterTurn (invariant : Invariant P) (before : P session.base.stores) (turn : Turn) :
    P (session.afterTurn turn).base.stores := by
  rw [Session.afterTurn_base]
  cases session.noting turn with
  | none => exact before
  | some access => exact invariant.note before access

/-- An event keeps an invariant, unless it is a step that patches a rule. -/
theorem occur (invariant : Invariant P) (before : P session.base.stores) {event : Event}
    (plain : event.patches = false) : P (session.occur event).base.stores := by
  cases imports : event.imports with
  | true =>
    rw [Session.occur_of_imports imports]
    exact invariant.importRowsFaltering before session.import_ (session.rowsOf event)
  | false =>
    cases event with
    | importFaltering => cases imports
    | note access => exact invariant.note before access
    | configure => exact before
    | step made =>
      cases made with
      | patch => cases plain
      | importRows | importCsv | importPayload | importDirect => cases imports
      | get | count | search | searchHosts | searchVersions | findRule | health | dump | advance
      | setFaults => exact before
      | insert rule => exact invariant.insert before rule
      | update rule =>
        exact RuleBase.after_stores P before
          (fun _ done => invariant.updateRule before (RuleBase.ok_of_allowed done)) rule
      | deleteAll =>
        exact RuleBase.afterRemoval_stores P before
          fun _ _ done => invariant.deleteRules before (RuleBase.ok_of_allowed done)
      | addHost policy =>
        exact RuleBase.after_stores P before (fun _ done => invariant.insertHost before done) policy
      | addVersion version =>
        exact RuleBase.after_stores P before (fun _ done => invariant.insertVersion before done)
          version
      | clearVersions =>
        exact RuleBase.afterRemoval_stores P before
          fun _ _ done => invariant.deleteVersions before done
      | resolve request => exact invariant.afterTurn before (.ask request)
      | runPending =>
        exact List.foldlRecOn (motive := fun (base : RuleBase) => P base.stores) session.pending
          Resolve.note before fun _ kept access _ => invariant.note kept access

/-- So does a whole history. -/
theorem run (invariant : Invariant P) (before : P session.base.stores) {events : List Event}
    (plain : ∀ event ∈ events, event.patches = false) : P (session.run events).base.stores := by
  induction events generalizing session with
  | nil => exact before
  | cons event rest ih =>
    exact ih (invariant.occur before (plain event (.head _)))
      fun later member => plain later (.tail _ member)

end Invariant

/-! ### Ids of rules -/

/-- The stores hold rules of which no two have the same id. -/
def Distinct (stores : Stores) : Prop :=
  ∃ contents, stores.Holds contents ∧ (contents.rules.map (·.id)).Nodup

variable {stores after : Stores} {contents : Contents} {rule : Rule}

/-- A rule is only inserted under an id that no other has. -/
theorem fresh_of_insertRule (held : stores.Holds contents) {id : String}
    (inserted : stores.insertRule id rule = .ok after) :
    ∀ other ∈ contents.rules, other.id ≠ some id := by
  intro other member same
  cases held with
  | memory m =>
    have taken : m.rules.any (·.id = some id) = true :=
      List.any_eq_true.mpr ⟨other, member, decide_eq_true same⟩
    simp only [insertRule, Store.Memory.insertRule, taken] at inserted
    cases inserted
  | @tables path database _ held =>
    have taken : (contents.rules.map Rule.row).any (·.cell "id" == .text id) = true := by
      rw [List.any_map]
      exact List.any_eq_true.mpr
        ⟨other, member, (cell_id_beq other id).trans (decide_eq_true same)⟩
    simp only [insertRule, changed_present, Store.Tables.insertRule_eq held.rules, taken] at inserted
    split at inserted <;> cases inserted

/-- That ids differ is an invariant: an id is free when it is given to a rule, and no change but a patch
gives a rule another one. -/
theorem distinct_invariant : Invariant Distinct where
  insertRule := by
    rintro stores after id rule ⟨contents, held, distinct⟩ inserted
    refine ⟨_, insertRule_holds held inserted, ?_⟩
    rw [List.map_append, List.nodup_append]
    refine ⟨distinct, List.nodup_singleton _, ?_⟩
    rintro _ earlier _ last rfl
    obtain ⟨known, member, named⟩ := List.mem_map.mp earlier
    exact fresh_of_insertRule held inserted known member (named.trans (List.mem_singleton.mp last))
  updateRule := by
    rintro stores after rule ⟨contents, held, distinct⟩ updated
    refine ⟨_, updateRule_holds held distinct updated, ?_⟩
    rwa [ids_map rule.id_inPlaceOf]
  noteAccess := by
    rintro stores after id millis ⟨contents, held, distinct⟩ patched
    refine ⟨_, patchRule_holds held distinct patched, ?_⟩
    rwa [ids_map (Rule.id_noted id millis)]
  deleteRules := by
    rintro stores after count ⟨contents, held, _⟩ deleted
    exact ⟨_, deleteRules_holds held deleted, List.nodup_nil⟩
  insertHost := by
    rintro stores after policy ⟨contents, held, distinct⟩ inserted
    obtain ⟨hosts, holds, _⟩ := insertHost_holds held inserted
    exact ⟨_, holds, distinct⟩
  insertVersion := by
    rintro stores after version ⟨contents, held, distinct⟩ inserted
    exact ⟨_, insertVersion_holds held inserted, distinct⟩
  deleteVersions := by
    rintro stores after count ⟨contents, held, distinct⟩ deleted
    exact ⟨_, deleteVersions_holds held deleted, distinct⟩

end Stores

/-- From stores whose rules have ids of their own, such as stores without rules, no events but patches lead
to stores in which two rules have the same id. -/
theorem Session.run_distinct [Platform] {session : Session} (distinct : session.base.stores.Distinct)
    {events : List Event} (plain : ∀ event ∈ events, event.patches = false) :
    (session.run events).base.stores.Distinct :=
  Stores.distinct_invariant.run distinct plain

end Signpost
