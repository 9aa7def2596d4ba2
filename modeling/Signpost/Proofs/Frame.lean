import Signpost.Proofs.Access
import Signpost.Proofs.Course
import Signpost.Proofs.History

/-!
# What requests leave as it is

A session in memory takes steps, and the accesses that it put off are carried out at any time between
them: the rule that an access is to may have been replaced, removed or imported again by then.

## Main results

`note_memory`: noting an access sets the last access of the first rule with its id; without such a rule,
it does nothing.

`moves_spare`: at any point of a session, requests and accesses carried out change nothing else. If they
are left out, a session comes to the same rules but for their accesses, so nothing that was worked out
for a reply is ever stored, and no access brings back what was changed since it was decided on.

## Proof strategy

Two sessions are compared of which one takes all moves and the other those that are neither requests nor
accesses carried out. Every other call concurs: in memories that differ in accesses it gives the same
answer and leaves memories that differ in accesses again. For an import this goes row by row, since a row
is looked up by a key that has no access in it.
-/
namespace Signpost

open Store (Failure Memory replaceFirst setAttribute)

/-! ### One access in memory -/

/-- The rules after an access was noted on the first one with its id, or as they were. -/
def NotedOn (access : Resolve.Access) (rules after : List Rule) : Prop :=
  after = rules ∨
    ∃ front rule back, rules = front ++ rule :: back ∧ rule.id = some access.id ∧
      (∀ other ∈ front, other.id ≠ some access.id) ∧
      after = front ++ { rule with lastAccessed := some access.millis } :: back

theorem split_of_replaceFirst {id : Option String} {change : Rule → Rule} {rules after : List Rule}
    (replaced : replaceFirst id change rules = some after) :
    ∃ front rule back, rules = front ++ rule :: back ∧ rule.id = id ∧
      (∀ other ∈ front, other.id ≠ id) ∧ after = front ++ change rule :: back := by
  -- The front grows by every rule that is passed over in the search.
  induction rules generalizing after with
  | nil => cases replaced
  | cons rule rest ih =>
    rw [replaceFirst] at replaced
    split at replaced
    next same =>
      cases replaced
      exact ⟨[], rule, rest, rfl, same, List.forall_mem_nil _, rfl⟩
    next differs =>
      obtain ⟨others, found, rfl⟩ := Option.map_eq_some_iff.mp replaced
      obtain ⟨front, target, back, rfl, same, before, rfl⟩ := ih found
      refine ⟨rule :: front, target, back, rfl, same, fun other member => ?_, rfl⟩
      rcases List.mem_cons.mp member with rfl | later
      · exact differs
      · exact before other later

/-- Noting an access in memory changes the first rule with its id at most. -/
theorem note_memory {base : RuleBase} {memory : Memory} (stored : base.stores = .memory memory)
    (access : Resolve.Access) :
    ∃ rules, Resolve.note base access = { base with stores := .memory { memory with rules } } ∧
      NotedOn access memory.rules rules := by
  have same : base = { base with stores := .memory memory } := by rw [← stored]
  unfold Resolve.note RuleBase.patch RuleBase.after
  cases patched : (do
      base.allow .patch
      base.stores.patchRule access.id [("last_accessed", .int access.millis)]) with
  | error failure => exact ⟨memory.rules, same, Or.inl rfl⟩
  | ok stores =>
    have done := RuleBase.ok_of_allowed patched
    simp only [stored, Stores.patchRule, Memory.patchRule, List.foldl_cons, List.foldl_nil,
      setAttribute_lastAccessed] at done
    split at done
    next rules replaced =>
      cases done
      obtain ⟨front, rule, back, all, named, before, after⟩ := split_of_replaceFirst replaced
      exact ⟨rules, rfl, Or.inr ⟨front, rule, back, all, named, before, after⟩⟩
    next => cases done

theorem NotedOn.withoutAccess {access : Resolve.Access} {rules after : List Rule}
    (noted : NotedOn access rules after) :
    after.map Rule.withoutAccess = rules.map Rule.withoutAccess := by
  rcases noted with rfl | ⟨front, rule, back, rfl, _, _, rfl⟩
  · rfl
  · simp [Rule.withoutAccess]

/-- An access to a rule that is no longer there changes nothing. -/
theorem NotedOn.eq_of_absent {access : Resolve.Access} {rules after : List Rule}
    (noted : NotedOn access rules after) (absent : ∀ rule ∈ rules, rule.id ≠ some access.id) :
    after = rules := by
  rcases noted with same | ⟨front, rule, back, rfl, named, _, _⟩
  · exact same
  · exact absurd named (absent rule (by simp))

/-! ### Memories that differ in accesses -/

@[simp] theorem Rule.withoutAccess_withoutAccess (rule : Rule) :
    rule.withoutAccess.withoutAccess = rule.withoutAccess := rfl

/-- The memory without the accesses that were noted on rules. -/
def Store.Memory.withoutAccess (memory : Memory) : Memory :=
  { memory with rules := memory.rules.map Rule.withoutAccess }

@[simp] theorem Store.Memory.withoutAccess_withoutAccess (memory : Memory) :
    memory.withoutAccess.withoutAccess = memory.withoutAccess := by
  simp [withoutAccess]

/-- The rule bases are in memory and the same but for accesses. -/
inductive RuleBase.Like : RuleBase → RuleBase → Prop
  | memory {m n : Memory} (same : m.withoutAccess = n.withoutAccess) (issued : Nat) (faults : Faults) :
    Like ⟨.memory m, issued, faults⟩ ⟨.memory n, issued, faults⟩

/-- The answers are the same, and the rule bases differ in accesses at most. -/
structure Concur (x y : RuleBase × α) : Prop where
  answer : x.2 = y.2
  bases : x.1.Like y.1

theorem Concur.exists_answer {x y : RuleBase × α} (concur : Concur x y) :
    ∃ a b answer, x = (a, answer) ∧ y = (b, answer) ∧ a.Like b :=
  ⟨x.1, y.1, x.2, rfl, Prod.ext rfl concur.answer.symm, concur.bases⟩

/-- Results that are the same after a function are both failures, or the function does not tell them
apart. -/
theorem cases_of_map_eq {f : α → β} {x y : Except Failure α} (same : x.map f = y.map f) :
    (∃ failure, x = .error failure ∧ y = .error failure) ∨
      ∃ m n, x = .ok m ∧ y = .ok n ∧ f m = f n := by
  cases x with
  | error failure =>
    cases y with
    | error other =>
      cases same
      exact Or.inl ⟨failure, rfl, rfl⟩
    | ok n => cases same
  | ok m =>
    cases y with
    | error other => cases same
    | ok n => exact Or.inr ⟨m, n, rfl, rfl, Except.ok.inj same⟩

namespace Store.Memory

variable {m n : Memory}

theorem like_iff : m.withoutAccess = n.withoutAccess ↔
    m.rules.map Rule.withoutAccess = n.rules.map Rule.withoutAccess ∧ m.hosts = n.hosts ∧
      m.versions = n.versions ∧ m.others = n.others := by
  simp only [withoutAccess, Memory.mk.injEq]

theorem insertRule_withoutAccess (m : Memory) (id : String) (rule : Rule) :
    (m.withoutAccess.insertRule id rule).map withoutAccess =
      (m.insertRule id rule).map withoutAccess := by
  have taken : (m.rules.map Rule.withoutAccess).any (·.id = some id) =
      m.rules.any (·.id = some id) := by
    rw [List.any_map]
    rfl
  have twice : Rule.withoutAccess ∘ Rule.withoutAccess = Rule.withoutAccess := rfl
  simp only [insertRule, withoutAccess, taken]
  split <;> simp [Except.map, withoutAccess, twice]

theorem replaceFirst_map_withoutAccess (id : Option String) (change : Rule → Rule)
    (blind : ∀ rule, (change rule.withoutAccess).withoutAccess = (change rule).withoutAccess)
    (rules : List Rule) :
    (replaceFirst id change (rules.map Rule.withoutAccess)).map (List.map Rule.withoutAccess) =
      (replaceFirst id change rules).map (List.map Rule.withoutAccess) := by
  induction rules with
  | nil => rfl
  | cons rule rest ih =>
    have twice : Rule.withoutAccess ∘ Rule.withoutAccess = Rule.withoutAccess := rfl
    have prepended (others : Option (List Rule)) (first : Rule) :
        (others.map (first :: ·)).map (List.map Rule.withoutAccess) =
          (others.map (List.map Rule.withoutAccess)).map (first.withoutAccess :: ·) := by
      cases others <;> rfl
    have id : rule.withoutAccess.id = rule.id := rfl
    rw [List.map_cons, replaceFirst, replaceFirst, id]
    split
    · simp [blind, twice]
    · rw [prepended, prepended, ih]
      rfl

/-- The rules of both memories are replaced, or those of neither. -/
theorem replaced_withoutAccess (m : Memory) (changed others : Option (List Rule)) (failure : Failure) :
    changed.map (List.map Rule.withoutAccess) = others.map (List.map Rule.withoutAccess) →
    (match changed with
      | some rules => .ok { m.withoutAccess with rules }
      | none => .error failure : Except Failure Memory).map withoutAccess =
    (match others with
      | some rules => .ok { m with rules }
      | none => .error failure : Except Failure Memory).map withoutAccess := by
  intro same
  cases changed with
  | none =>
    cases others with
    | none => rfl
    | some after => cases same
  | some rules =>
    cases others with
    | none => cases same
    | some after =>
      refine congrArg Except.ok (like_iff.mpr ⟨?_, rfl, rfl, rfl⟩)
      exact Option.some.inj same

theorem updateRule_withoutAccess (m : Memory) (rule : Rule) :
    (m.withoutAccess.updateRule rule).map withoutAccess =
      (m.updateRule rule).map withoutAccess := by
  unfold updateRule
  cases rule.id with
  | none => rfl
  | some id =>
    exact m.replaced_withoutAccess _ _ (.notFound id)
      (replaceFirst_map_withoutAccess (some id) (fun _ => rule) (fun _ => rfl) m.rules)

theorem setAttribute_withoutAccess (rule : Rule) (field : String × Value) :
    (setAttribute rule.withoutAccess field).withoutAccess = (setAttribute rule field).withoutAccess := by
  -- Whether a value can be held does not depend on the rule, so both take it or neither does.
  unfold setAttribute
  split <;> first | rfl | (unfold setAttribute.orKeep; split <;> rfl)

theorem setAttributes_withoutAccess (rule : Rule) (fields : List (String × Value)) :
    (fields.foldl setAttribute rule.withoutAccess).withoutAccess =
      (fields.foldl setAttribute rule).withoutAccess := by
  induction fields generalizing rule with
  | nil => rfl
  | cons field rest ih =>
    rw [List.foldl_cons, List.foldl_cons, ← ih, setAttribute_withoutAccess, ih]

theorem patchRule_withoutAccess (m : Memory) (id : String) (fields : List (String × Value)) :
    (m.withoutAccess.patchRule id fields).map withoutAccess =
      (m.patchRule id fields).map withoutAccess :=
  m.replaced_withoutAccess _ _ (.notFound id)
    (replaceFirst_map_withoutAccess (some id) (fields.foldl setAttribute ·)
      (setAttributes_withoutAccess · fields) m.rules)

end Store.Memory

/-! ### Calls on rule bases that differ in accesses -/

namespace RuleBase

variable {a b : RuleBase}

theorem like_refl {base : RuleBase} {memory : Memory} (stored : base.stores = .memory memory) :
    base.Like base := by
  obtain ⟨stores, issued, faults⟩ := base
  cases stored
  exact .memory rfl issued faults

namespace Like

/-- Noting an access on one side keeps the rule bases alike. -/
theorem note (like : a.Like b) (access : Resolve.Access) : (Resolve.note a access).Like b := by
  cases like with
  | @memory m n same issued faults =>
    have stored : RuleBase.stores ⟨.memory m, issued, faults⟩ = .memory m := rfl
    obtain ⟨rules, result, noted⟩ := note_memory stored access
    rw [result]
    have forgotten := Store.Memory.like_iff.mp same
    have kept : Memory.withoutAccess { m with rules } = n.withoutAccess :=
      Store.Memory.like_iff.mpr ⟨noted.withoutAccess.trans forgotten.1, forgotten.2⟩
    exact .memory kept issued faults

theorem exists_memory (like : a.Like b) :
    ∃ m n, a.stores = .memory m ∧ b.stores = .memory n ∧ m.withoutAccess = n.withoutAccess := by
  cases like with
  | memory same => exact ⟨_, _, rfl, rfl, same⟩

theorem allow_eq (like : a.Like b) (call : Call) : a.allow call = b.allow call := by
  cases like
  rfl

theorem faults_eq (like : a.Like b) : a.faults = b.faults := by
  cases like
  rfl

/-- With other failures in the way, the rule bases are still alike. -/
theorem withFaults (like : a.Like b) (faults : Faults) :
    RuleBase.Like { a with faults } { b with faults } := by
  cases like with
  | memory same issued _ => exact .memory same issued faults

/-- A change is made to both memories or to neither, unless it is stopped before. -/
theorem after (like : a.Like b) (gate : Except Failure Unit) (result : α)
    (change : Memory → Except Failure Memory) (altered : Stores → Except Failure Stores)
    (inMemory : ∀ m, altered (.memory m) = (change m).map .memory)
    (blind : ∀ m, (change m.withoutAccess).map Memory.withoutAccess =
      (change m).map Memory.withoutAccess) :
    Concur (a.after result (gate >>= fun _ => altered a.stores))
      (b.after result (gate >>= fun _ => altered b.stores)) := by
  cases like with
  | @memory m n same issued faults =>
    cases gate with
    | error failure => exact ⟨rfl, .memory same issued faults⟩
    | ok _ =>
      have changes : (change m).map Memory.withoutAccess = (change n).map Memory.withoutAccess := by
        rw [← blind, same, blind]
      simp only [inMemory, Bind.bind, Except.bind]
      rcases cases_of_map_eq changes with
        ⟨failure, failedA, failedB⟩ | ⟨nextA, nextB, doneA, doneB, still⟩
      · rw [failedA, failedB]
        exact ⟨rfl, .memory same issued faults⟩
      · rw [doneA, doneB]
        exact ⟨rfl, .memory still issued faults⟩

theorem update (like : a.Like b) (rule : Rule) : Concur (a.update rule) (b.update rule) := by
  have changed := like.after (a.allow .update) rule (·.updateRule rule) (·.updateRule rule)
    (fun _ => rfl) (·.updateRule_withoutAccess rule)
  rwa [RuleBase.update, RuleBase.update, ← like.allow_eq]

theorem patch (like : a.Like b) (id : String) (fields : List (String × Value)) :
    Concur (a.patch id fields) (b.patch id fields) := by
  have changed := like.after (a.allow .patch) () (·.patchRule id fields) (·.patchRule id fields)
    (fun _ => rfl) (·.patchRule_withoutAccess id fields)
  rwa [RuleBase.patch, RuleBase.patch, ← like.allow_eq]

theorem addHost (like : a.Like b) (policy : HostPolicy) :
    Concur (a.addHost policy) (b.addHost policy) :=
  like.after (.ok ()) policy (.ok <| ·.insertHost policy) (·.insertHost policy) (fun _ => rfl)
    fun m => congrArg Except.ok (m.insertHost policy).withoutAccess_withoutAccess

theorem addVersion (like : a.Like b) (version : ActiveVersion) :
    Concur (a.addVersion version) (b.addVersion version) :=
  like.after (.ok ()) version (.ok <| ·.insertVersion version) (·.insertVersion version)
    (fun _ => rfl) fun m => congrArg Except.ok (m.insertVersion version).withoutAccess_withoutAccess

theorem clearVersions (like : a.Like b) : Concur a.clearVersions b.clearVersions := by
  cases like with
  | @memory m n same issued faults =>
    obtain ⟨rules, hosts, versions, others⟩ := Store.Memory.like_iff.mp same
    have cleared : Memory.withoutAccess { m with versions := [] } =
        Memory.withoutAccess { n with versions := [] } :=
      Store.Memory.like_iff.mpr ⟨rules, hosts, rfl, others⟩
    exact ⟨congrArg (Except.ok <| List.length ·) versions, .memory cleared issued faults⟩

theorem deleteAll (like : a.Like b) : Concur a.deleteAll b.deleteAll := by
  cases like with
  | @memory m n same issued faults =>
    obtain ⟨rules, hosts, versions, others⟩ := Store.Memory.like_iff.mp same
    have emptied : Memory.withoutAccess { m with rules := [] } =
        Memory.withoutAccess { n with rules := [] } :=
      Store.Memory.like_iff.mpr ⟨rfl, hosts, versions, others⟩
    have count : m.rules.length = n.rules.length := by
      simpa using congrArg List.length rules
    simp only [RuleBase.deleteAll, RuleBase.allow]
    cases faults.calls.lookup Call.deleteAll.name with
    | some message => exact ⟨rfl, .memory same issued faults⟩
    | none => exact ⟨congrArg Except.ok count, .memory emptied issued faults⟩

theorem insert (like : a.Like b) (rule : Rule) : Concur (a.insert rule) (b.insert rule) := by
  cases like with
  | @memory m n same issued faults =>
    -- The next id depends on those given out alone.
    obtain ⟨id, given, next⟩ : ∃ id given, ∀ memory : Memory,
        RuleBase.nextId ⟨.memory memory, issued, faults⟩ rule =
          (⟨.memory memory, given, faults⟩, id) := by
      refine ⟨(RuleBase.nextId ⟨.memory m, issued, faults⟩ rule).2,
        (RuleBase.nextId ⟨.memory m, issued, faults⟩ rule).1.issued, fun memory => ?_⟩
      unfold RuleBase.nextId
      split <;> rfl
    have changes : (m.insertRule id rule).map Memory.withoutAccess =
        (n.insertRule id rule).map Memory.withoutAccess := by
      rw [← Store.Memory.insertRule_withoutAccess, same, Store.Memory.insertRule_withoutAccess]
    simp only [RuleBase.insert, RuleBase.allow, next, Stores.insertRule]
    cases faults.calls.lookup Call.insert.name with
    | some message => exact ⟨rfl, .memory same issued faults⟩
    | none =>
      cases faults.paths.lookup rule.path with
      | some message => exact ⟨rfl, .memory same issued faults⟩
      | none =>
        rcases cases_of_map_eq changes with
          ⟨failure, failedA, failedB⟩ | ⟨nextA, nextB, doneA, doneB, still⟩
        · rw [failedA, failedB]
          exact ⟨rfl, .memory same given faults⟩
        · rw [doneA, doneB]
          exact ⟨rfl, .memory still given faults⟩

/-- No memory holds fields with a text that is none of characters. -/
theorem insertFields (like : a.Like b) (fields : List (String × Value)) :
    Concur (a.insertFields fields) (b.insertFields fields) := by
  cases like with
  | @memory m n same issued faults =>
    have rejected (memory : Memory) : RuleBase.rejection? ⟨.memory memory, issued, faults⟩ fields =
        RuleBase.rejection? ⟨.memory m, issued, faults⟩ fields := rfl
    simp only [RuleBase.insertFields, RuleBase.allow, rejected n, RuleBase.nextId.fresh,
      Stores.insertFields]
    cases faults.calls.lookup Call.insert.name with
    | some message => exact ⟨rfl, .memory same issued faults⟩
    | none =>
      cases RuleBase.rejection? ⟨.memory m, issued, faults⟩ fields with
      | some failure => exact ⟨rfl, .memory same issued faults⟩
      | none => exact ⟨rfl, .memory same (issued + 1) faults⟩

end Like
end RuleBase

/-! ### Imports -/

namespace Sheet

variable [Platform] {a b : RuleBase} {defaults : Defaults} {version : Int} {row normal : Row} {rule : Rule}

/-- A row is looked up by its key, so accesses make no difference to whether it is found. -/
theorem lookup_like (like : a.Like b) (isNormal : IsNormal version row normal) :
    (a.search (keyCriteria normal)).map List.isEmpty =
      (b.search (keyCriteria normal)).map List.isEmpty := by
  obtain ⟨path, host, named, keyed⟩ := keyed_of_normalizeRow isNormal.normalized
  cases like with
  | @memory m n same issued faults =>
    simp only [RuleBase.search, RuleBase.allow, Stores.searchRules]
    cases faults.calls.lookup Call.search.name with
    | some message => rfl
    | none =>
      rcases textual_of_rowKey named with ⟨text, rfl⟩ | lone
      · have found (memory : Memory) : (memory.searchRules (keyCriteria normal)).map List.isEmpty =
            .ok ((memory.rules.map Rule.withoutAccess).filter
              (·.key = (text, host, (cell row "version").integer?.getD version))).isEmpty := by
          have searched := searchRules_key (.memory memory) keyed
          simp only [Stores.searchRules] at searched
          rw [searched, List.filter_map, List.isEmpty_map]
          rfl
        have rules := (Store.Memory.like_iff.mp same).1
        exact (found m).trans (rules ▸ (found n).symm)
      · -- A path that is none of characters is found in no memory.
        have missed (memory : Memory) : memory.searchRules (keyCriteria normal) = .ok [] := by
          rw [Memory.searchRules, Store.search, keyCriteria_eq keyed, select_unpaired lone]
          rfl
        exact congrArg (Except.map List.isEmpty) ((missed m).trans (missed n).symm)

theorem importRow_concur (like : a.Like b) (defaults : Defaults) (version : Int) (row : Row) :
    Concur (importRow a defaults version row) (importRow b defaults version row) := by
  obtain ⟨answer, bases⟩ := importRow_related like defaults version row
    (fun _ isNormal => lookup_like like isNormal)
    (fun _ rule _ _ => ⟨(like.insert rule).answer, (like.insert rule).bases⟩)
    fun _ fields _ _ _ => ⟨(like.insertFields fields).answer, (like.insertFields fields).bases⟩
  exact ⟨answer, bases⟩

/-- The rows of a sheet come to the same where the rule bases differ in accesses. -/
theorem importAfterFaltering_concur (like : a.Like b) (defaults : Defaults) (version : Int)
    (report : Report) (rows : List (Faults × Row)) :
    Concur (importAfterFaltering defaults version report a rows)
      (importAfterFaltering defaults version report b rows) := by
  induction rows generalizing a b report with
  | nil => exact ⟨rfl, like⟩
  | cons taken rest ih =>
    obtain ⟨faults, row⟩ := taken
    obtain ⟨nextA, nextB, answer, callA, callB, bases⟩ :=
      (importRow_concur (like.withFaults faults) defaults version row).exists_answer
    rw [importAfterFaltering, importAfterFaltering, callA, callB]
    cases answer with
    | error failure => exact ⟨rfl, bases⟩
    | ok outcome => exact ih bases _

theorem importRowsFaltering_concur (like : a.Like b) (defaults : Defaults)
    (rows : List (Faults × Row)) :
    Concur (importRowsFaltering a defaults rows) (importRowsFaltering b defaults rows) := by
  have version : Resolve.resolveVersion a.stores .null defaults.version =
      Resolve.resolveVersion b.stores .null defaults.version := by
    cases like with
    | @memory m n same =>
      obtain ⟨_, _, versions, others⟩ := Store.Memory.like_iff.mp same
      simp only [Resolve.resolveVersion, Stores.searchVersions, versions, others]
  rw [importRowsFaltering, importRowsFaltering, version]
  cases Resolve.resolveVersion b.stores .null defaults.version with
  | error failure => exact ⟨rfl, like⟩
  | ok number => exact importAfterFaltering_concur like defaults number {} rows

end Sheet

/-! ### Moves -/

/-- A move of a session: it takes a step, or of the accesses that were put off, the one at a place of the
queue is carried out. -/
inductive Move
  | step (made : Step)
  | carryOut (place : Nat)

/-- The move answers a request, or it carries out accesses that were put off. -/
def Move.serves : Move → Bool
  | .step (.resolve _) | .step .runPending | .carryOut _ => true
  | .step _ => false

namespace Session

section

variable [Platform]

/-- The session after a move. -/
def afterMove (session : Session) : Move → Session
  | .step made => (session.step made).1
  | .carryOut place => session.carryOut place

/-- The session after moves. -/
def afterMoves (session : Session) (moves : List Move) : Session :=
  moves.foldl afterMove session

/-- The sessions are in memory and differ in accesses and in what concerns requests alone. -/
structure Like (a b : Session) : Prop where
  bases : a.base.Like b.base
  import_ : a.import_ = b.import_

namespace Like

variable {a b : Session}

/-- A turn may be taken by one of the sessions alone. -/
theorem afterTurn (like : a.Like b) (turn : Turn) : (a.afterTurn turn).Like b := by
  refine ⟨?_, (a.afterTurn_settings turn).2.2.2.trans like.import_⟩
  rw [afterTurn_base]
  cases a.noting turn with
  | none => exact like.bases
  | some access => exact like.bases.note access

theorem runPending (like : a.Like b) : a.runPending.Like b := by
  rw [runPending_eq]
  exact List.foldlRecOn (motive := fun (session : Session) => session.Like b) _ Session.afterTurn like
    fun _ kept turn _ => kept.afterTurn turn

/-- Any step that has nothing to do with requests is taken by both. -/
theorem step (like : a.Like b) {made : Step} (aside : (Move.step made).serves = false) :
    (a.step made).1.Like (b.step made).1 := by
  cases imports : (Event.step made).imports with
  | true =>
    have rows : a.rowsOf (.step made) = b.rowsOf (.step made) := by
      simp only [rowsOf, rowsOf.taken, like.bases.faults_eq]
    have here : (a.step made).1 = _ := occur_of_imports imports
    have there : (b.step made).1 = _ := occur_of_imports imports
    rw [here, there, rows, like.import_]
    exact ⟨(Sheet.importRowsFaltering_concur like.bases b.import_ _).bases, rfl⟩
  | false =>
    cases made with
    | resolve | runPending => cases aside
    | importRows | importCsv | importPayload | importDirect => cases imports
    | get | count | search | searchHosts | searchVersions | findRule | health | dump | advance =>
      exact ⟨like.bases, like.import_⟩
    | setFaults faults => exact ⟨like.bases.withFaults faults, like.import_⟩
    | insert rule => exact ⟨(like.bases.insert rule).bases, like.import_⟩
    | update rule => exact ⟨(like.bases.update rule).bases, like.import_⟩
    | patch id fields => exact ⟨(like.bases.patch id fields).bases, like.import_⟩
    | deleteAll => exact ⟨like.bases.deleteAll.bases, like.import_⟩
    | addHost policy => exact ⟨(like.bases.addHost policy).bases, like.import_⟩
    | addVersion version => exact ⟨(like.bases.addVersion version).bases, like.import_⟩
    | clearVersions => exact ⟨like.bases.clearVersions.bases, like.import_⟩

/-- A session that takes all moves stays like one that leaves out requests and what comes of them. -/
theorem afterMoves_filter (like : a.Like b) (moves : List Move) :
    (a.afterMoves moves).Like (b.afterMoves (moves.filter (!·.serves))) := by
  induction moves generalizing a b with
  | nil => exact like
  | cons move rest ih =>
    cases serves : move.serves with
    | false =>
      rw [List.filter_cons_of_pos (by simp [serves])]
      cases move with
      | step made => exact ih (like.step serves)
      | carryOut place => cases serves
    | true =>
      -- The second session waits while the first takes the move.
      rw [List.filter_cons_of_neg (by simp [serves])]
      cases move with
      | carryOut place => exact ih (like.afterTurn (.carryOut place))
      | step made =>
        cases made with
        | resolve request => exact ih (like.afterTurn (.ask request))
        | runPending => exact ih like.runPending
        | _ => cases serves

end Like

/-- At any point of a session in memory, a turn changes the last access of one rule at most, the first
with the id of the access that is noted, and without such a rule it changes nothing. A request is answered
and accesses are carried out whatever becomes of them. Had the session left out all requests and all that
came of them, it would have the same rules but for their accesses. -/
theorem moves_spare {session : Session} {start : Memory} (stored : session.base.stores = .memory start)
    (moves : List Move) :
    let now := session.afterMoves moves
    ∃ memory, now.base.stores = .memory memory ∧
      (∀ turn, now.noting turn = none → (now.afterTurn turn).base = now.base) ∧
      (∀ turn access, now.noting turn = some access →
        ∃ rules, (now.afterTurn turn).base = { now.base with stores := .memory { memory with rules } } ∧
          NotedOn access memory.rules rules ∧
          ((∀ rule ∈ memory.rules, rule.id ≠ some access.id) →
            (now.afterTurn turn).base = now.base)) ∧
      (∀ request, (now.resolve request).2 =
        Resolve.reply now.base now.resolution now.clock request) ∧
      (now.step .runPending).2 = .ok (.number now.pending.length) ∧
      ∃ other, (session.afterMoves (moves.filter (!·.serves))).base.stores = .memory other ∧
        other.withoutAccess = memory.withoutAccess := by
  intro now
  have same : session.Like session := ⟨RuleBase.like_refl stored, rfl⟩
  obtain ⟨memory, other, held, left, forgotten⟩ := (same.afterMoves_filter moves).bases.exists_memory
  have noted (turn : Turn) (access : Resolve.Access) (noting : now.noting turn = some access) :
      (now.afterTurn turn).base = Resolve.note now.base access := by
    rw [afterTurn_base, noting]
    rfl
  refine ⟨memory, held, fun turn idle => ?_, fun turn access noting => ?_,
    fun request => ?_, rfl, other, left, forgotten.symm⟩
  · rw [afterTurn_base, idle]
    rfl
  · obtain ⟨rules, result, one⟩ := note_memory held access
    refine ⟨rules, (noted turn access noting).trans result, one, fun absent => ?_⟩
    rw [noted turn access noting, result, one.eq_of_absent absent, ← held]
  · rw [resolve_eq]

end

attribute [local instance] Platform.usual

/-- A request is answered by a pattern and another by a rule. Before the first access is carried out, the
pattern is given another target; before the second, all rules are removed and the path is imported again. -/
theorem moves_spare_meanwhile :
    let rule : Rule := ⟨some "id-1", "/a", "", 0, "/b", 301, none, none, none, false, none⟩
    let pattern : Rule :=
      ⟨some "id-2", "^/old/(.*)$", "", 0, "/new/$1", 301, none, none, none, true, none⟩
    let session : Session :=
      { base := { stores := .memory { rules := [rule, pattern] }, issued := 2 }, clock := 50,
        defers := true }
    let moves : List Move := [.step (.resolve { path := "/old/x" }), .step (.resolve { path := "/a" }),
      .step (.update { pattern with target := "/newer/$1" })]
    let later : List Move := [.carryOut 0, .step .deleteAll,
      .step (.importRows [[("path", .text "/a"), ("redirectURL", .text "/c")]])]
    let kept (session : Session) : List Rule :=
      match session.base.stores with
      | .memory memory => memory.rules
      | .tables _ _ => []
    session.base.stores = .memory { rules := [rule, pattern] } ∧
    (session.afterMoves moves).noting (.carryOut 0) = some ⟨"id-2", 50000⟩ ∧
    kept ((session.afterMoves moves).afterTurn (.carryOut 0)) =
      [rule, { pattern with target := "/newer/$1", lastAccessed := some 50000 }] ∧
    kept (session.afterMoves (moves ++ later)) = [{ rule with id := some "id-3", target := "/c" }] ∧
    (session.afterMoves (moves ++ later)).noting (.carryOut 0) = some ⟨"id-1", 50000⟩ ∧
    ((session.afterMoves (moves ++ later)).afterTurn (.carryOut 0)).base =
      (session.afterMoves (moves ++ later)).base := by
  intro rule pattern session moves later kept
  have stored : session.base.stores = .memory { rules := [rule, pattern] } := rfl
  have again : kept (session.afterMoves (moves ++ later)) =
      [{ rule with id := some "id-3", target := "/c" }] := by decide +kernel
  have noting : (session.afterMoves (moves ++ later)).noting (.carryOut 0) = some ⟨"id-1", 50000⟩ := by
    decide +kernel
  obtain ⟨memory, held, _, change, _⟩ := moves_spare stored (moves ++ later)
  obtain ⟨_, _, _, spared⟩ := change _ _ noting
  have rules : memory.rules = [{ rule with id := some "id-3", target := "/c" }] := by
    rw [← again]
    simp only [kept, held]
  refine ⟨stored, by decide +kernel, by decide +kernel, again, noting, spared ?_⟩
  rw [rules]
  decide

end Session
end Signpost
