import Signpost.Proofs.Keeping
import Signpost.Proofs.Resolution

/-!
# Rule bases by what they keep

Two rule bases may keep the same rules, versions and host policies in different stores, one in memory
and one in tables. A ledger says what is kept and leaves out where, and in which order the policies
of different hosts stand. A call is uniform if its answer, and the ledger after it, depend on the
ledger before it alone.

## Main results

`insert_uniform`, `update_uniform`, `note_uniform` and the others below say that the calls that change
something are uniform, as long as the integers that they bring to the stores fit in a cell.
`Uniform.agree`: rule bases that keep the same give the same answers to uniform calls and keep the
same after them. `Alike.reply_eq`: they answer a request alike.

## Proof strategy

What a call gives is said of the contents of stores in `Proofs.Keeping`. It remains that ids stay
distinct: they come from a supply, and an id of the supply is never given out twice.
-/
namespace Signpost

open Sql Store

/-! ### Ledgers -/

/-- What a rule base keeps: the rules, the versions, the policy of each host and the number of the
ids given out. -/
structure Ledger where
  rules : List Rule
  versions : List ActiveVersion
  policy : String → Option HostPolicy
  issued : Nat

/-- The id that is given out as the one of that number. -/
def suppliedId (n : Nat) : String :=
  "id-" ++ Number.decimal n

theorem suppliedId_injective {m n : Nat} (same : suppliedId m = suppliedId n) : m = n := by
  have texts := congrArg String.toList same
  simp only [suppliedId, String.toList_append, List.append_cancel_left_eq] at texts
  exact Number.decimal_injective (String.toList_inj.mp texts)

/-- The rules have ids of the supply, each of its own. -/
structure Ledger.Sound (ledger : Ledger) : Prop where
  distinct : (ledger.rules.map (·.id)).Nodup
  supplied : ∀ rule ∈ ledger.rules, ∃ n ≤ ledger.issued, rule.id = some (suppliedId n)

/-- The next id of the supply is the id of no rule. -/
theorem Ledger.Sound.fresh {ledger : Ledger} (sound : ledger.Sound) :
    ∀ rule ∈ ledger.rules, rule.id ≠ some (suppliedId (ledger.issued + 1)) := by
  intro rule member same
  obtain ⟨n, given, named⟩ := sound.supplied rule member
  have next := suppliedId_injective (Option.some.inj (named.symm.trans same))
  omega

/-- The rule base keeps what the ledger says, and nothing is put in its way. -/
structure RuleBase.Keeps (base : RuleBase) (ledger : Ledger) : Prop where
  held : ∃ hosts, base.stores.Holds ⟨ledger.rules, hosts, ledger.versions⟩ ∧
    ∀ host, policyOf hosts host = ledger.policy host
  issued : base.issued = ledger.issued
  clear : base.faults = {}

/-- The rule bases keep the same. -/
def RuleBase.Alike (a b : RuleBase) : Prop :=
  ∃ ledger, ledger.Sound ∧ a.Keeps ledger ∧ b.Keeps ledger

/-- The answers are the same, and the rule bases keep the same afterwards. -/
structure Agree (x y : RuleBase × α) : Prop where
  answer : x.2 = y.2
  bases : x.1.Alike y.1

theorem Agree.exists_answer {x y : RuleBase × α} (agree : Agree x y) :
    ∃ a b answer, x = (a, answer) ∧ y = (b, answer) ∧ a.Alike b :=
  ⟨x.1, y.1, x.2, rfl, Prod.ext rfl agree.answer.symm, agree.bases⟩

/-- The answer to a call and the ledger after it depend on the ledger alone. -/
def Uniform (call : RuleBase → RuleBase × α) : Prop :=
  ∀ ledger : Ledger, ledger.Sound → ∃ answer after, Ledger.Sound after ∧
    ∀ base, base.Keeps ledger → ∃ next, call base = (next, answer) ∧ next.Keeps after

theorem Uniform.agree {call : RuleBase → RuleBase × α} (uniform : Uniform call) {a b : RuleBase}
    (alike : a.Alike b) : Agree (call a) (call b) := by
  obtain ⟨ledger, sound, keepsA, keepsB⟩ := alike
  obtain ⟨answer, after, still, answers⟩ := uniform ledger sound
  obtain ⟨nextA, resultA, laterA⟩ := answers a keepsA
  obtain ⟨nextB, resultB, laterB⟩ := answers b keepsB
  rw [resultA, resultB]
  exact ⟨rfl, after, still, laterA, laterB⟩

namespace RuleBase.Keeps

variable {base : RuleBase} {ledger : Ledger}

theorem allow (keeps : base.Keeps ledger) (call : Call) : base.allow call = .ok () := by
  rw [RuleBase.allow, keeps.clear]
  rfl

/-- The rule base with stores that hold other contents keeps what these are. -/
theorem withStores (keeps : base.Keeps ledger) {stores : Stores} {rules : List Rule}
    {hosts : List HostPolicy} {versions : List ActiveVersion} {policy : String → Option HostPolicy}
    (held : stores.Holds ⟨rules, hosts, versions⟩) (policies : ∀ host, policyOf hosts host = policy host) :
    ({ base with stores } : RuleBase).Keeps { ledger with rules, versions, policy } where
  held := ⟨hosts, held, policies⟩
  issued := keeps.issued
  clear := keeps.clear

end RuleBase.Keeps

/-! ### Calls on rules -/

theorem nextId_of_blank {rule : Rule} (blank : rule.id = none ∨ rule.id = some "")
    (base : RuleBase) :
    base.nextId rule = ({ base with issued := base.issued + 1 }, suppliedId (base.issued + 1)) := by
  rcases blank with none | empty <;> simp only [RuleBase.nextId, *] <;> rfl

/-- A rule under the next id of the supply, after all others. -/
def Ledger.add (ledger : Ledger) (rule : Rule) : Ledger :=
  { ledger with
    rules := ledger.rules ++ [{ rule with id := some (suppliedId (ledger.issued + 1)) }]
    issued := ledger.issued + 1 }

theorem Ledger.Sound.add {ledger : Ledger} (sound : ledger.Sound) (rule : Rule) :
    (ledger.add rule).Sound where
  distinct := by
    rw [Ledger.add, List.map_append, List.nodup_append]
    refine ⟨sound.distinct, List.nodup_singleton _, ?_⟩
    intro id earlier other last
    obtain ⟨known, member, rfl⟩ := List.mem_map.mp earlier
    cases List.mem_singleton.mp last
    exact sound.fresh known member
  supplied := by
    intro known member
    rcases List.mem_append.mp member with earlier | last
    · obtain ⟨n, given, named⟩ := sound.supplied known earlier
      exact ⟨n, Nat.le_succ_of_le given, named⟩
    · cases List.mem_singleton.mp last
      exact ⟨ledger.issued + 1, Nat.le_refl _, rfl⟩

theorem insert_uniform {rule : Rule} (blank : rule.id = none ∨ rule.id = some "")
    (small : rule.integers.all fits = true) : Uniform (·.insert rule) := by
  intro ledger sound
  refine ⟨.ok { rule with id := some (suppliedId (ledger.issued + 1)) }, ledger.add rule,
    sound.add rule, fun base keeps => ?_⟩
  obtain ⟨hosts, held, policies⟩ := keeps.held
  obtain ⟨after, inserted, holds⟩ := Stores.insertRule_of_holds held sound.fresh small
  refine ⟨⟨after, base.issued + 1, base.faults⟩, ?_, ⟨hosts, holds, policies⟩, ?_, keeps.clear⟩
  · have unhindered : base.faults.paths.lookup rule.path = none := by
      rw [keeps.clear]
      rfl
    simp only [RuleBase.insert, keeps.allow, unhindered, nextId_of_blank blank, inserted,
      keeps.issued]
  · rw [keeps.issued]
    rfl

theorem Ledger.Sound.map {ledger : Ledger} (sound : ledger.Sound) {change : Rule → Rule}
    (keepsId : ∀ rule, (change rule).id = rule.id) :
    Ledger.Sound { ledger with rules := ledger.rules.map change } where
  distinct := by
    rw [ids_map keepsId]
    exact sound.distinct
  supplied := by
    intro rule member
    obtain ⟨other, present, rfl⟩ := List.mem_map.mp member
    rw [keepsId]
    exact sound.supplied other present

/-- A rule is put in the place of the one with its id, if there is one. -/
theorem update_uniform {rule : Rule}
    (small : rule.id.isSome = true → rule.integers.all fits = true) : Uniform (·.update rule) := by
  intro ledger sound
  cases named : rule.id with
  | none =>
    refine ⟨.error .noId, ledger, sound, fun base keeps => ⟨base, ?_, keeps⟩⟩
    -- A rule without an id is turned away before anything is looked up.
    have failed : base.stores.updateRule rule = .error .noId := by
      cases base.stores with
      | memory m => simp only [Stores.updateRule, Memory.updateRule, named, Except.map]
      | tables path file => simp only [Stores.updateRule, named]
    simp only [RuleBase.update, RuleBase.after, keeps.allow, failed, Bind.bind, Except.bind]
  | some id =>
    have fitting := small (by rw [named]; rfl)
    cases known : ledger.rules.any (·.id = some id) with
    | true =>
      refine ⟨.ok rule, { ledger with rules := ledger.rules.map rule.inPlaceOf },
        sound.map (Rule.id_inPlaceOf rule), fun base keeps => ?_⟩
      obtain ⟨hosts, held, policies⟩ := keeps.held
      obtain ⟨after, updated, holds⟩ :=
        Stores.updateRule_of_known held sound.distinct named fitting known
      refine ⟨{ base with stores := after }, ?_, keeps.withStores holds policies⟩
      simp only [RuleBase.update, RuleBase.after, keeps.allow, updated, Bind.bind, Except.bind]
    | false =>
      refine ⟨.error (.notFound id), ledger, sound, fun base keeps => ⟨base, ?_, keeps⟩⟩
      obtain ⟨hosts, held, _⟩ := keeps.held
      have failed := Stores.updateRule_of_unknown held sound.distinct named fitting known
      simp only [RuleBase.update, RuleBase.after, keeps.allow, failed, Bind.bind, Except.bind]

/-- An access is noted on the rule with its id, if there is one. -/
theorem note_uniform {access : Resolve.Access} (small : fits access.millis = true) :
    Uniform fun base => (Resolve.note base access, ()) := by
  intro ledger sound
  refine ⟨(), { ledger with rules := ledger.rules.map (Rule.noted access.id access.millis) },
    sound.map (Rule.id_noted access.id access.millis), fun base keeps => ?_⟩
  obtain ⟨hosts, held, policies⟩ := keeps.held
  rcases Stores.noteAccess_of_holds held sound.distinct access.id small with
    ⟨after, noted, holds⟩ | ⟨⟨failure, failed⟩, same⟩
  · refine ⟨{ base with stores := after }, ?_, keeps.withStores holds policies⟩
    simp only [Resolve.note, RuleBase.patch, RuleBase.after, keeps.allow, noted, Bind.bind,
      Except.bind]
  · -- Memory reports that there is no such rule, and the report is dropped.
    refine ⟨base, ?_, ?_⟩
    · simp only [Resolve.note, RuleBase.patch, RuleBase.after, keeps.allow, failed, Bind.bind,
        Except.bind]
    · rw [same]
      exact keeps

theorem deleteAll_uniform : Uniform RuleBase.deleteAll := by
  intro ledger sound
  refine ⟨.ok ledger.rules.length, { ledger with rules := [] },
    ⟨List.nodup_nil, fun _ member => nomatch member⟩, fun base keeps => ?_⟩
  obtain ⟨hosts, held, policies⟩ := keeps.held
  obtain ⟨after, deleted⟩ := Stores.deleteRules_of_holds held
  refine ⟨{ base with stores := after }, ?_,
    keeps.withStores (Stores.deleteRules_holds held deleted) policies⟩
  simp only [RuleBase.deleteAll, RuleBase.afterRemoval, keeps.allow, deleted, Bind.bind, Except.bind]

/-! ### Calls on hosts and versions -/

theorem addHost_uniform (policy : HostPolicy) : Uniform (·.addHost policy) := by
  intro ledger sound
  refine ⟨.ok policy, { ledger with
    policy := fun host => if host = policy.host then some policy else ledger.policy host },
    ⟨sound.distinct, sound.supplied⟩, fun base keeps => ?_⟩
  obtain ⟨hosts, held, policies⟩ := keeps.held
  obtain ⟨after, inserted⟩ := Stores.insertHost_of_holds held policy
  -- Memory keeps the new policy behind all others and a table in the place of the old one, so
  -- only what is found for each host is the same.
  obtain ⟨others, holds, found⟩ := Stores.insertHost_holds held inserted
  refine ⟨{ base with stores := after }, ?_, keeps.withStores holds fun host => ?_⟩
  · simp only [RuleBase.addHost, RuleBase.after, inserted]
  · rw [found, policies]

theorem addVersion_uniform {version : ActiveVersion} (small : fits version.number = true) :
    Uniform (·.addVersion version) := by
  intro ledger sound
  refine ⟨.ok version, { ledger with versions := ledger.versions ++ [version] },
    ⟨sound.distinct, sound.supplied⟩, fun base keeps => ?_⟩
  obtain ⟨hosts, held, policies⟩ := keeps.held
  obtain ⟨after, inserted⟩ := Stores.insertVersion_of_holds held small
  refine ⟨{ base with stores := after }, ?_,
    keeps.withStores (Stores.insertVersion_holds held inserted) policies⟩
  simp only [RuleBase.addVersion, RuleBase.after, inserted]

theorem clearVersions_uniform : Uniform RuleBase.clearVersions := by
  intro ledger sound
  refine ⟨.ok ledger.versions.length, { ledger with versions := [] },
    ⟨sound.distinct, sound.supplied⟩, fun base keeps => ?_⟩
  obtain ⟨hosts, held, policies⟩ := keeps.held
  obtain ⟨after, deleted⟩ := Stores.deleteVersions_of_holds held
  refine ⟨{ base with stores := after }, ?_,
    keeps.withStores (Stores.deleteVersions_holds held deleted) policies⟩
  simp only [RuleBase.clearVersions, RuleBase.afterRemoval, deleted]

/-! ### Questions -/

theorem RuleBase.Keeps.serves {base : RuleBase} {ledger : Ledger} (keeps : base.Keeps ledger) :
    ∃ hosts, base.Serves ⟨ledger.rules, hosts, ledger.versions⟩ ∧
      ∀ host, policyOf hosts host = ledger.policy host := by
  obtain ⟨hosts, held, policies⟩ := keeps.held
  exact ⟨hosts, ⟨keeps.allow .search, held⟩, policies⟩

namespace RuleBase.Alike

variable {a b : RuleBase}

/-- Of rule bases that keep the same, one serves what the other one does, but for the order of the
policies. -/
theorem serve (alike : a.Alike b) :
    ∃ rules versions here there, a.Serves ⟨rules, here, versions⟩ ∧ b.Serves ⟨rules, there, versions⟩ ∧
      ∀ host, policyOf here host = policyOf there host := by
  obtain ⟨ledger, _, keepsA, keepsB⟩ := alike
  obtain ⟨here, servesA, policiesA⟩ := keepsA.serves
  obtain ⟨there, servesB, policiesB⟩ := keepsB.serves
  exact ⟨ledger.rules, ledger.versions, here, there, servesA, servesB,
    fun host => (policiesA host).trans (policiesB host).symm⟩

theorem allow_eq (alike : a.Alike b) (call : Call) : a.allow call = b.allow call := by
  obtain ⟨_, _, keepsA, keepsB⟩ := alike
  rw [keepsA.allow, keepsB.allow]

theorem listing_eq (alike : a.Alike b) : a.search [] = b.search [] := by
  obtain ⟨_, _, _, _, servesA, servesB, _⟩ := alike.serve
  have none : ∀ criterion ∈ ([] : List Criterion), criterion.suits ruleColumns = true :=
    fun _ member => nomatch member
  have small : sizeOfAll [] ≤ 4 := by decide
  rw [Resolve.search_eq_filter servesA none rfl small rfl,
    Resolve.search_eq_filter servesB none rfl small rfl]

theorem get_eq (alike : a.Alike b) (id : String) : a.get (.text id) = b.get (.text id) := by
  obtain ⟨_, _, _, _, servesA, servesB, _⟩ := alike.serve
  have suits : ∀ criterion ∈ [Criterion.one (.equals "id" (.text id))],
      criterion.suits ruleColumns = true := by
    intro criterion member
    cases List.mem_singleton.mp member
    rfl
  have one (clause : Clause) (single : clause.size = 1) : sizeOfAll [clause] ≤ 4 := by
    simp [sizeOfAll, single]
  simp only [RuleBase.get, alike.allow_eq, Stores.rule?,
    Stores.searchRules_eq_filter servesA.held suits rfl (one _ rfl) rfl,
    Stores.searchRules_eq_filter servesB.held suits rfl (one _ rfl) rfl]

theorem count_eq (alike : a.Alike b) : a.count = b.count := by
  obtain ⟨_, _, _, _, servesA, servesB, _⟩ := alike.serve
  simp only [RuleBase.count, alike.allow_eq, Stores.countRules_of_holds servesA.held,
    Stores.countRules_of_holds servesB.held]

theorem resolveVersion_eq (alike : a.Alike b) (explicit : Value) (default : Int) :
    Resolve.resolveVersion a.stores explicit default =
      Resolve.resolveVersion b.stores explicit default := by
  obtain ⟨_, _, _, _, servesA, servesB, _⟩ := alike.serve
  rw [Resolve.resolveVersion_of_holds servesA.held, Resolve.resolveVersion_of_holds servesB.held]
  rfl

theorem resolveHostOnly_eq (alike : a.Alike b) (explicit : Option Bool) (host : String)
    (default : Bool) :
    Resolve.resolveHostOnly a.stores explicit host default =
      Resolve.resolveHostOnly b.stores explicit host default := by
  obtain ⟨_, _, _, _, servesA, servesB, policies⟩ := alike.serve
  rw [Resolve.resolveHostOnly_of_holds servesA.held, Resolve.resolveHostOnly_of_holds servesB.held]
  simp only [policies]

theorem findRule_eq [Platform] (alike : a.Alike b) (path : String) (need : Resolve.Need)
    (ignoreSlash : Bool) :
    Resolve.findRule a path need ignoreSlash = Resolve.findRule b path need ignoreSlash := by
  obtain ⟨_, _, _, _, servesA, servesB, _⟩ := alike.serve
  rw [Resolve.findRule_eq, Resolve.findRule_eq, Resolve.search_candidates servesA,
    Resolve.search_candidates servesB, Resolve.search_patterns servesA,
    Resolve.search_patterns servesB]

/-- A request is answered by the rules, by the versions and by the policy of its host. -/
theorem reply_eq [Platform] (alike : a.Alike b) (defaults : Resolve.Defaults) (now : Int)
    (request : Resolve.Request) :
    Resolve.reply a defaults now request = Resolve.reply b defaults now request := by
  simp only [Resolve.reply, Resolve.resolve, alike.resolveVersion_eq, alike.resolveHostOnly_eq,
    alike.findRule_eq]

end RuleBase.Alike
end Signpost
