import Signpost.Proofs.Import
import Signpost.Session

/-!
# Histories of a session

A session goes through events: steps, imports during which the failures in the way change, accesses
noted one by one, and changes of the defaults. Rules come into the stores by imports, unless a step
writes one by itself.

## Main results

`run_keysUnique`: from stores without rules, no events but steps that write rules by themselves lead
to two rules with the same key.

`run_appends`: events that leave the stored rules alone add just the rules of the rows that are
logged as inserted.

## Proof strategy

One event is looked at first. An import adds rules with new keys; noting an access changes no key;
all other events keep the rules or remove them all. Histories follow by induction on the events.
-/
namespace Signpost

open Store (Failure)
open Sheet (Row Appended)

/-- The step writes a rule by itself. -/
def Step.editsRule : Step → Bool
  | .insert _ | .update _ | .patch _ _ => true
  | _ => false

/-- The step leaves the rules that are stored as they are. -/
def Step.sparesRules : Step → Bool
  | .insert _ | .update _ | .patch _ _ | .deleteAll | .resolve _ | .runPending => false
  | _ => true

/-- What happens to a session. -/
inductive Event
  | step (step : Step)
  | importFaltering (rows : List (Faults × Row))
  | note (access : Resolve.Access)
  | configure (resolution : Resolve.Defaults) (import_ : Sheet.Defaults) (defers : Bool)

/-- The event is a step that writes a rule by itself. -/
def Event.editsRule : Event → Bool
  | .step made => made.editsRule
  | _ => false

/-- The event leaves the rules that are stored as they are. -/
def Event.sparesRules : Event → Bool
  | .step made => made.sparesRules
  | .note _ => false
  | _ => true

/-- The event is an import. -/
def Event.imports : Event → Bool
  | .importFaltering _ | .step (.importRows _) | .step (.importCsv _) | .step (.importPayload _)
  | .step (.importDirect _) => true
  | _ => false

namespace Session

variable [Platform]

/-- The session after an event. -/
def occur (session : Session) : Event → Session
  | .step step => (session.step step).1
  | .importFaltering rows =>
    { session with
      base := (Sheet.importRowsFaltering session.base session.import_ rows).1 }
  | .note access => { session with base := Resolve.note session.base access }
  | .configure resolution import_ defers => { session with resolution, import_, defers }

/-- The session after events. -/
def run (session : Session) (events : List Event) : Session :=
  events.foldl occur session

/-- The rows that an event brings, each with the failures that are in the way while it is taken. -/
def rowsOf (session : Session) (event : Event) : List (Faults × Row) :=
  match event with
  | .importFaltering rows => rows
  | .step (.importRows rows) | .step (.importDirect rows) => taken rows
  | .step (.importCsv text) => taken ((Sheet.rowsOfCsv text).toOption.getD [])
  | .step (.importPayload payload) => taken ((Sheet.rowsOfPayload payload).toOption.getD [])
  | _ => []
where
  /-- The rows with the failures that are in the way now. -/
  taken (rows : List Row) : List (Faults × Row) :=
    rows.map fun row => (session.base.faults, row)

/-- The rows that are inserted in the course of events, each with the rule that it is stored as. -/
def log (session : Session) : List Event → List (Row × Rule)
  | [] => []
  | event :: rest =>
    Sheet.importedRows session.base session.import_ (session.rowsOf event) ++
      (session.occur event).log rest

end Session

/-! ### Calls that leave the rules alone -/

namespace RuleBase

variable {base : RuleBase} {rules : List Rule}

/-- A change that is made or not. -/
theorem after_stores (P : Stores → Prop) (before : P base.stores) {change : Except Failure Stores}
    (made : ∀ stores, change = .ok stores → P stores) (result : α) :
    P (base.after result change).1.stores := by
  cases change with
  | error failure => exact before
  | ok stores => exact made stores rfl

/-- A removal that is made or not. -/
theorem afterRemoval_stores (P : Stores → Prop) (before : P base.stores)
    {change : Except Failure (Stores × Nat)}
    (made : ∀ stores count, change = .ok (stores, count) → P stores) :
    P (base.afterRemoval change).1.stores := by
  cases change with
  | error failure => exact before
  | ok result => exact made result.1 result.2 rfl

theorem addHost_holdRules (held : base.stores.HoldRules rules) (policy : HostPolicy) :
    (base.addHost policy).1.stores.HoldRules rules := by
  refine after_stores (·.HoldRules rules) held (fun stores inserted => ?_) policy
  obtain ⟨hosts, versions, holds⟩ := held
  obtain ⟨others, holds, _⟩ := Stores.insertHost_holds holds inserted
  exact ⟨others, versions, holds⟩

theorem addVersion_holdRules (held : base.stores.HoldRules rules) (version : ActiveVersion) :
    (base.addVersion version).1.stores.HoldRules rules := by
  refine after_stores (·.HoldRules rules) held (fun stores inserted => ?_) version
  obtain ⟨hosts, versions, holds⟩ := held
  exact ⟨hosts, _, Stores.insertVersion_holds holds inserted⟩

theorem clearVersions_holdRules (held : base.stores.HoldRules rules) :
    base.clearVersions.1.stores.HoldRules rules := by
  refine afterRemoval_stores (·.HoldRules rules) held fun stores count deleted => ?_
  obtain ⟨hosts, versions, holds⟩ := held
  exact ⟨hosts, _, Stores.deleteVersions_holds holds deleted⟩

theorem deleteAll_holdRules (held : base.stores.HoldRules rules) :
    base.deleteAll.1.stores.HoldRules rules ∨ base.deleteAll.1.stores.HoldRules [] := by
  refine afterRemoval_stores (fun stores => stores.HoldRules rules ∨ stores.HoldRules [])
    (Or.inl held) fun stores count deleted => Or.inr ?_
  obtain ⟨hosts, versions, holds⟩ := held
  exact ⟨hosts, versions, Stores.deleteRules_holds holds (ok_of_allowed deleted)⟩

/-- Noting an access changes nothing but the accesses of rules. -/
theorem note_keeps {contents : Contents} (held : base.stores.Holds contents)
    (access : Resolve.Access) :
    ∃ noted, (Resolve.note base access).stores.Holds { contents with rules := noted } ∧
      noted.map Rule.withoutAccess = contents.rules.map Rule.withoutAccess := by
  refine after_stores (fun stores => ∃ noted, stores.Holds { contents with rules := noted } ∧
    noted.map Rule.withoutAccess = contents.rules.map Rule.withoutAccess)
    ⟨contents.rules, held, rfl⟩ ?_ ()
  intro stores patched
  exact Stores.noteAccess_holds held (ok_of_allowed patched)

theorem note_holdRules (held : base.stores.HoldRules rules) (access : Resolve.Access) :
    ∃ noted, (Resolve.note base access).stores.HoldRules noted ∧
      noted.map Rule.withoutAccess = rules.map Rule.withoutAccess := by
  obtain ⟨hosts, versions, holds⟩ := held
  obtain ⟨noted, holds, same⟩ := note_keeps holds access
  exact ⟨noted, ⟨hosts, versions, holds⟩, same⟩

end RuleBase

/-! ### Imports -/

namespace Session

variable [Platform] {session : Session} {rules : List Rule}

/-- All imports take the rows that they bring one after the other, and do nothing else. -/
theorem occur_of_imports {event : Event} (imports : event.imports = true) :
    session.occur event = { session with
      base := (Sheet.importRowsFaltering session.base session.import_ (session.rowsOf event)).1 } := by
  have put {a b : RuleBase} (same : a = b) : { session with base := a } = { session with base := b } := by
    rw [same]
  cases event with
  | importFaltering rows => rfl
  | note | configure => cases imports
  | step made =>
    cases made with
    | importRows rows => exact put (Sheet.importRead_base session.base session.import_ rows)
    | importCsv text => exact put (Sheet.importCsv_base session.base session.import_ text)
    | importPayload payload =>
      exact put (Sheet.importPayload_base session.base session.import_ payload)
    | importDirect rows =>
      exact put (congrArg (·.1) (Sheet.importRows_eq_faltering session.base session.import_ rows))
    | _ => cases imports

/-- An event that leaves the stored rules alone adds the rules of the rows that it inserts. -/
theorem occur_appends (held : session.base.stores.HoldRules rules) (unique : KeysUnique rules)
    {event : Event} (spares : event.sparesRules = true) :
    Appended rules (session.occur event).base.stores
      (Sheet.importedRows session.base session.import_ (session.rowsOf event)) := by
  have none {stores : Stores} (held : stores.HoldRules rules) :
      Appended rules stores (Sheet.importedRows session.base session.import_ []) := by
    rw [Sheet.importedRows_nil]
    exact .nil held unique
  cases imports : event.imports with
  | true =>
    rw [occur_of_imports imports]
    exact Sheet.importRowsFaltering_appends held unique session.import_ (session.rowsOf event)
  | false =>
    -- Steps that are no imports bring no rows, so nothing is logged for them.
    cases event with
    | importFaltering => cases imports
    | note access => cases spares
    | configure resolution import_ defers => exact none held
    | step made =>
      cases made with
      | insert | update | patch | deleteAll | resolve | runPending => cases spares
      | importRows | importCsv | importPayload | importDirect => cases imports
      | get | count | search | searchHosts | searchVersions | findRule | health | dump =>
        exact none held
      | advance | setFaults => exact none held
      | addHost policy => exact none (RuleBase.addHost_holdRules held policy)
      | addVersion version => exact none (RuleBase.addVersion_holdRules held version)
      | clearVersions => exact none (RuleBase.clearVersions_holdRules held)

/-- The rules that are logged are those that the events add to the stores. -/
theorem run_appends (held : session.base.stores.HoldRules rules) (unique : KeysUnique rules)
    {events : List Event} (spares : ∀ event ∈ events, event.sparesRules = true) :
    Appended rules (session.run events).base.stores (session.log events) := by
  induction events generalizing session rules with
  | nil => exact .nil held unique
  | cons event rest ih =>
    have first := occur_appends held unique (spares event (.head _))
    exact first.append (ih first.held first.unique fun later member => spares later (.tail _ member))

end Session

/-! ### Keys of rules -/

/-- The stores hold rules of which no two have the same key. -/
def Stores.WellKeyed (stores : Stores) : Prop :=
  ∃ rules, stores.HoldRules rules ∧ KeysUnique rules

theorem KeysUnique.of_withoutAccess {rules others : List Rule}
    (same : others.map Rule.withoutAccess = rules.map Rule.withoutAccess)
    (unique : KeysUnique rules) : KeysUnique others := by
  have keys (rules : List Rule) : rules.map Rule.key = (rules.map Rule.withoutAccess).map Rule.key := by
    rw [List.map_map]
    rfl
  rw [KeysUnique, keys, same, ← keys]
  exact unique

theorem RuleBase.note_wellKeyed {base : RuleBase} (kept : base.stores.WellKeyed)
    (access : Resolve.Access) : (Resolve.note base access).stores.WellKeyed := by
  obtain ⟨rules, held, unique⟩ := kept
  obtain ⟨noted, holds, same⟩ := note_holdRules held access
  exact ⟨noted, holds, unique.of_withoutAccess same⟩

theorem RuleBase.deleteAll_wellKeyed {base : RuleBase} (kept : base.stores.WellKeyed) :
    base.deleteAll.1.stores.WellKeyed := by
  obtain ⟨rules, held, unique⟩ := kept
  rcases deleteAll_holdRules held with same | none
  · exact ⟨rules, same, unique⟩
  · exact ⟨[], none, List.nodup_nil⟩

namespace Session

section

variable [Platform] {session : Session}

omit [Platform] in
theorem runPending_wellKeyed (kept : session.base.stores.WellKeyed) :
    session.runPending.base.stores.WellKeyed :=
  List.foldlRecOn (motive := fun (base : RuleBase) => base.stores.WellKeyed) session.pending
    Resolve.note kept fun _ still access _ => RuleBase.note_wellKeyed still access

theorem resolve_wellKeyed (kept : session.base.stores.WellKeyed) (request : Resolve.Request) :
    (session.resolve request).1.base.stores.WellKeyed := by
  unfold Session.resolve
  split
  next => exact kept
  next =>
    split
    next => exact kept
    next access _ =>
      -- An access that is put off changes no store.
      unfold record
      split
      next => exact kept
      next => exact RuleBase.note_wellKeyed kept access

/-- No event but a step that writes a rule by itself makes two keys the same. -/
theorem occur_wellKeyed (kept : session.base.stores.WellKeyed) {event : Event}
    (edits : event.editsRule = false) : (session.occur event).base.stores.WellKeyed := by
  -- Events that leave the rules alone are covered; deletions and accesses remain.
  cases spares : event.sparesRules with
  | true =>
    obtain ⟨rules, held, unique⟩ := kept
    have appended := occur_appends held unique spares
    exact ⟨_, appended.held, appended.unique⟩
  | false =>
    cases event with
    | importFaltering | configure => cases spares
    | note access => exact RuleBase.note_wellKeyed kept access
    | step made =>
      cases made with
      | insert | update | patch => cases edits
      | deleteAll => exact RuleBase.deleteAll_wellKeyed kept
      | resolve request => exact resolve_wellKeyed kept request
      | runPending => exact runPending_wellKeyed kept
      | _ => cases spares

theorem run_wellKeyed (kept : session.base.stores.WellKeyed) {events : List Event}
    (edits : ∀ event ∈ events, event.editsRule = false) :
    (session.run events).base.stores.WellKeyed := by
  induction events generalizing session with
  | nil => exact kept
  | cons event rest ih =>
    exact ih (occur_wellKeyed kept (edits event (.head _)))
      fun later member => edits later (.tail _ member)

/-- From stores without rules, events of which none writes a rule by itself lead to stores whose
rules can be listed, and no two of them have the same path, host and version. -/
theorem run_keysUnique {hosts : List HostPolicy} {versions : List ActiveVersion}
    (empty : session.base.stores.Holds ⟨[], hosts, versions⟩) {events : List Event}
    (edits : ∀ event ∈ events, event.editsRule = false) :
    ∃ rules, (session.run events).base.stores.searchRules [] = .ok rules ∧ KeysUnique rules := by
  have start : session.base.stores.WellKeyed := ⟨[], ⟨hosts, versions, empty⟩, List.nodup_nil⟩
  obtain ⟨rules, ⟨hosts, versions, held⟩, unique⟩ := run_wellKeyed start edits
  have listed : (session.run events).base.stores.searchRules [] =
      .ok (rules.filter fun rule => satisfies [] rule.attributes) :=
    Stores.searchRules_eq_filter held (by simp) rfl (by decide) rfl
  have all : (rules.filter fun rule => satisfies [] rule.attributes) = rules :=
    List.filter_eq_self.mpr fun _ _ => rfl
  rw [all] at listed
  exact ⟨rules, listed, unique⟩

end

attribute [local instance] Platform.usual

/-- Into the empty tables of a database, a sheet is imported that brings a rule twice and breaks off
at its third row; one of its rows comes again after the version has changed, and accesses are
noted. -/
theorem run_keysUnique_twice :
    let database : Sql.Database := { tables := [⟨"rules", []⟩, ⟨"hosts", []⟩, ⟨"versions", []⟩] }
    let session : Session :=
      { base := { stores := .tables "rules.db" (.present database) }, clock := 5, defers := true }
    let row (path : String) : Row := [("path", .text path), ("redirectURL", .text "/to")]
    let broken : Faults := { calls := [("search", "down")] }
    let sheet := [({}, row "/a"), ({}, row "/a"), (broken, row "/b"), ({}, row "/c")]
    let events : List Event := [.importFaltering sheet, .step (.addVersion ⟨2⟩),
      .step (.setFaults {}), .step (.resolve { path := "/a" }), .step (.importRows [row "/a"]),
      .step .runPending, .note ⟨"id-2", 7⟩]
    session.base.stores.Holds ⟨[], [], []⟩ ∧ (∀ event ∈ events, event.editsRule = false) ∧
      ∃ rules, (session.run events).base.stores.searchRules [] = .ok rules ∧ KeysUnique rules := by
  intro database session row broken sheet events
  have empty : session.base.stores.Holds ⟨[], [], []⟩ := .tables ⟨rfl, rfl, rfl⟩
  have edits : ∀ event ∈ events, event.editsRule = false := by decide
  exact ⟨empty, edits, run_keysUnique empty edits⟩

end Session
end Signpost
