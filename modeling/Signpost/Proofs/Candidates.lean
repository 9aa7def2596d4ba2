import Mathlib.Data.List.Nodup
import Mathlib.Data.List.Perm.Subperm
import Signpost.Resolve.Candidate

/-!
# The candidate that answers

A rule is entitled to answer a request if it is stored for its path and eligible for what it needs.
Of the rules entitled to answer, one bound to the host comes before one of every host, and then one
stored for the path itself before one stored for the path with its slash put on or off.

## Main result

`selectCandidate_of_wins`: where no two rules have the same key, the rule that comes before all
others entitled to answer is the one that is selected.

## Proof strategy

The filter leaves rules of a single host and a single version (`host_eq_of_kept`). Keys are unique,
so these rules have different paths, of which there are two at most.
-/
namespace Signpost

/-- Path, host and version, by which rules are told apart. -/
def Rule.key (rule : Rule) : String × String × Int :=
  (rule.path, rule.host, rule.version)

/-- No two of the rules have the same key. -/
def KeysUnique (rules : List Rule) : Prop :=
  (rules.map Rule.key).Nodup

instance (rules : List Rule) : Decidable (KeysUnique rules) :=
  inferInstanceAs (Decidable (rules.map Rule.key).Nodup)

/-- A rule with a key of its own may be added. -/
theorem KeysUnique.append {rules : List Rule} {rule : Rule} (unique : KeysUnique rules)
    (absent : ∀ other ∈ rules, other.key ≠ rule.key) : KeysUnique (rules ++ [rule]) := by
  rw [KeysUnique, List.map_append, List.nodup_append]
  refine ⟨unique, List.nodup_singleton _, fun key member other last => ?_⟩
  obtain ⟨stored, present, rfl⟩ := List.mem_map.mp member
  rw [List.mem_singleton.mp last]
  exact absent stored present

namespace Resolve

/-- The rule is stored for the path. Where the final slash does not count, it may be stored for the
path with its slash put on or off, and then it is no pattern rule. -/
def StoredFor (path : String) (ignoreSlash : Bool) (rule : Rule) : Prop :=
  if ignoreSlash then (rule.path = path ∨ rule.path = toggleSlash path) ∧ rule.isPattern = false
  else rule.path = path

instance (path : String) (ignoreSlash : Bool) (rule : Rule) :
    Decidable (StoredFor path ignoreSlash rule) :=
  inferInstanceAs (Decidable (if ignoreSlash then _ else _))

/-- The rule is of the version, active, and bound to the host; it may be of every host, unless the
host takes rules of its own only. -/
structure Eligible (need : Need) (rule : Rule) : Prop where
  version : rule.version = need.version
  active : rule.activeAt need.now = true
  host : rule.host = need.host ∨ need.hostOnly = false ∧ rule.host = ""

instance (need : Need) (rule : Rule) : Decidable (Eligible need rule) :=
  decidable_of_iff (rule.version = need.version ∧ rule.activeAt need.now = true ∧
      (rule.host = need.host ∨ need.hostOnly = false ∧ rule.host = ""))
    ⟨fun ⟨version, active, host⟩ => ⟨version, active, host⟩,
      fun ⟨version, active, host⟩ => ⟨version, active, host⟩⟩

/-- The rule may answer a request for the path. -/
structure Entitled (path : String) (ignoreSlash : Bool) (need : Need) (rule : Rule) : Prop where
  stored : StoredFor path ignoreSlash rule
  eligible : Eligible need rule

instance (path : String) (ignoreSlash : Bool) (need : Need) (rule : Rule) :
    Decidable (Entitled path ignoreSlash need rule) :=
  decidable_of_iff (StoredFor path ignoreSlash rule ∧ Eligible need rule)
    ⟨fun ⟨stored, eligible⟩ => ⟨stored, eligible⟩, fun ⟨stored, eligible⟩ => ⟨stored, eligible⟩⟩

/-- The first rule answers before the second: it is bound to the host where the second is of every
host, or, neither being better bound, stored for the path itself where the second is not. -/
def Precedes (path : String) (need : Need) (first second : Rule) : Prop :=
  (first.host = need.host ∧ second.host ≠ need.host) ∨
    ((first.host = need.host ↔ second.host = need.host) ∧ first.path = path ∧ second.path ≠ path)

instance (path : String) (need : Need) (first second : Rule) :
    Decidable (Precedes path need first second) :=
  inferInstanceAs (Decidable (_ ∨ _))

/-- The rule is entitled to answer, and it answers before all others that are. -/
structure Wins (rules : List Rule) (path : String) (ignoreSlash : Bool) (need : Need)
    (rule : Rule) : Prop where
  member : rule ∈ rules
  entitled : Entitled path ignoreSlash need rule
  best : ∀ other ∈ rules, Entitled path ignoreSlash need other →
    other = rule ∨ Precedes path need rule other

instance (rules : List Rule) (path : String) (ignoreSlash : Bool) (need : Need) (rule : Rule) :
    Decidable (Wins rules path ignoreSlash need rule) :=
  decidable_of_iff (rule ∈ rules ∧ Entitled path ignoreSlash need rule ∧
      ∀ other ∈ rules, Entitled path ignoreSlash need other →
        other = rule ∨ Precedes path need rule other)
    ⟨fun ⟨member, entitled, best⟩ => ⟨member, entitled, best⟩,
      fun ⟨member, entitled, best⟩ => ⟨member, entitled, best⟩⟩

/-- The rules that are stored for the path and pass the filter. -/
def keptFor (rules : List Rule) (path : String) (ignoreSlash : Bool) (need : Need) : List Rule :=
  filterCandidates need (rules.filter (StoredFor path ignoreSlash))

variable {rules : List Rule} {path : String} {ignoreSlash : Bool} {need : Need} {rule other : Rule}

/-! ### Paths -/

theorem toggleSlash_ne (path : String) : toggleSlash path ≠ path := by
  -- The length changes by one, since a path that ends with a slash is not empty.
  intro same
  have lengths := congrArg (fun text => text.toList.length) same
  simp only [toggleSlash] at lengths
  split at lengths
  next slash =>
    have nonempty : path.toList ≠ [] := by
      intro empty
      simp [empty] at slash
    have positive := List.length_pos_of_ne_nil nonempty
    simp only [String.toList_ofList, List.length_dropLast] at lengths
    omega
  next =>
    simp only [String.toList_ofList, List.length_append, List.length_singleton] at lengths
    omega

theorem path_of_stored (stored : StoredFor path ignoreSlash rule) :
    rule.path = path ∨ rule.path = toggleSlash path := by
  unfold StoredFor at stored
  split at stored
  · exact stored.1
  · exact Or.inl stored

/-! ### The filter -/

theorem admits_iff : need.admits rule = true ↔ Eligible need rule := by
  simp only [Need.admits, Bool.and_eq_true, Bool.not_eq_true', Bool.and_eq_false_iff,
    Bool.or_eq_true, beq_iff_eq, bne_eq_false_iff_eq, beq_eq_false_iff_ne]
  constructor
  · rintro ⟨⟨⟨⟨version, policy⟩, _⟩, active⟩, bound⟩
    refine ⟨version, active, ?_⟩
    rcases bound with here | everywhere
    · exact Or.inl here
    · rcases policy with open_ | here
      · exact Or.inr ⟨open_, everywhere⟩
      · exact Or.inl here
  · rintro ⟨version, active, here | ⟨open_, everywhere⟩⟩
    · refine ⟨⟨⟨⟨version, Or.inr here⟩, ?_⟩, active⟩, Or.inl here⟩
      by_cases empty : rule.host = ""
      · exact Or.inl empty
      · exact Or.inr fun none => empty (here.trans none)
    · exact ⟨⟨⟨⟨version, Or.inl open_⟩, Or.inl everywhere⟩, active⟩, Or.inr everywhere⟩

/-- The filter keeps the eligible rules that are bound to the host, and, if there are none, those
of every host. -/
theorem mem_filterCandidates : rule ∈ filterCandidates need rules ↔
    rule ∈ rules ∧ Eligible need rule ∧
      (rule.host = need.host ∨ ∀ other ∈ rules, Eligible need other → other.host ≠ need.host) := by
  simp only [filterCandidates]
  split
  next bound =>
    simp only [List.any_eq_true, List.mem_filter, admits_iff, beq_iff_eq] at bound
    obtain ⟨own, ⟨member, eligible⟩, here⟩ := bound
    simp only [List.mem_filter, admits_iff, beq_iff_eq]
    constructor
    · rintro ⟨⟨stored, suits⟩, same⟩
      exact ⟨stored, suits, Or.inl same⟩
    · rintro ⟨stored, suits, same | unbound⟩
      · exact ⟨⟨stored, suits⟩, same⟩
      · exact absurd here (unbound own member eligible)
  next unbound =>
    simp only [List.any_eq_true, List.mem_filter, admits_iff, beq_iff_eq] at unbound
    simp only [List.mem_filter, admits_iff]
    constructor
    · rintro ⟨stored, suits⟩
      exact ⟨stored, suits, Or.inr fun other member eligible here =>
        unbound ⟨other, ⟨member, eligible⟩, here⟩⟩
    · rintro ⟨stored, suits, _⟩
      exact ⟨stored, suits⟩

theorem filterCandidates_sublist (need : Need) (rules : List Rule) :
    (filterCandidates need rules).Sublist rules := by
  simp only [filterCandidates]
  split
  · exact List.filter_sublist.trans List.filter_sublist
  · exact List.filter_sublist

theorem keptFor_sublist : (keptFor rules path ignoreSlash need).Sublist rules :=
  (filterCandidates_sublist _ _).trans List.filter_sublist

theorem mem_keptFor : rule ∈ keptFor rules path ignoreSlash need ↔
    rule ∈ rules ∧ Entitled path ignoreSlash need rule ∧
      (rule.host = need.host ∨
        ∀ other ∈ rules, Entitled path ignoreSlash need other → other.host ≠ need.host) := by
  rw [keptFor, mem_filterCandidates]
  simp only [List.mem_filter, decide_eq_true_eq]
  constructor
  · rintro ⟨⟨member, stored⟩, eligible, bound⟩
    refine ⟨member, ⟨stored, eligible⟩, bound.imp_right fun unbound other present entitled => ?_⟩
    exact unbound other ⟨present, entitled.stored⟩ entitled.eligible
  · rintro ⟨member, entitled, bound⟩
    refine ⟨⟨member, entitled.stored⟩, entitled.eligible, bound.imp_right fun unbound other => ?_⟩
    exact fun ⟨present, stored⟩ eligible => unbound other present ⟨stored, eligible⟩

theorem entitled_of_kept (kept : rule ∈ keptFor rules path ignoreSlash need) :
    Entitled path ignoreSlash need rule :=
  (mem_keptFor.mp kept).2.1

/-- The filter leaves rules of one host only. -/
theorem host_eq_of_kept (first : rule ∈ keptFor rules path ignoreSlash need)
    (second : other ∈ keptFor rules path ignoreSlash need) : rule.host = other.host := by
  obtain ⟨member, entitled, bound⟩ := mem_keptFor.mp first
  obtain ⟨member', entitled', bound'⟩ := mem_keptFor.mp second
  rcases bound with here | unbound
  · rcases bound' with there | unbound
    · exact here.trans there.symm
    · exact absurd here (unbound rule member entitled)
  · -- No rule is bound to the host, so both are of every host.
    have agnostic : ∀ r ∈ rules, Entitled path ignoreSlash need r → r.host = "" := by
      intro r present suits
      rcases suits.eligible.host with here | ⟨_, everywhere⟩
      · exact absurd here (unbound r present suits)
      · exact everywhere
    exact (agnostic rule member entitled).trans (agnostic other member' entitled').symm

/-! ### Selection -/

/-- A rule that passes the filter is the only one of its path to do so. -/
theorem eq_of_kept_path (unique : KeysUnique rules)
    (first : rule ∈ keptFor rules path ignoreSlash need)
    (second : other ∈ keptFor rules path ignoreSlash need) (same : rule.path = other.path) :
    rule = other := by
  have version : rule.version = other.version :=
    (entitled_of_kept first).eligible.version.trans (entitled_of_kept second).eligible.version.symm
  have keys : rule.key = other.key := by
    simp only [Rule.key, same, host_eq_of_kept first second, version]
  exact List.inj_on_of_nodup_map unique (keptFor_sublist.mem first) (keptFor_sublist.mem second) keys

theorem kept_paths_nodup (unique : KeysUnique rules) :
    ((keptFor rules path ignoreSlash need).map (·.path)).Nodup := by
  have kept : (keptFor rules path ignoreSlash need).Nodup :=
    (List.Nodup.of_map _ unique).sublist keptFor_sublist
  exact (List.nodup_map_iff_inj_on kept).mpr fun _ first _ second => eq_of_kept_path unique first second

/-- At most two rules pass the filter: one for the path itself and one for the path with its slash
put on or off. -/
theorem kept_length_le (unique : KeysUnique rules) :
    (keptFor rules path ignoreSlash need).length ≤ 2 := by
  have within : (keptFor rules path ignoreSlash need).map (·.path) ⊆ [path, toggleSlash path] := by
    intro text member
    obtain ⟨rule, kept, rfl⟩ := List.mem_map.mp member
    rcases path_of_stored (entitled_of_kept kept).stored with itself | toggled
    · exact itself ▸ List.mem_cons_self
    · exact toggled ▸ List.mem_cons_of_mem _ List.mem_cons_self
  have bounded := ((kept_paths_nodup unique).subperm within).length_le
  simpa using bounded

/-- Of two rules for different paths that pass the filter, one is for the path itself. -/
theorem path_of_kept_ne (first : rule ∈ keptFor rules path ignoreSlash need)
    (second : other ∈ keptFor rules path ignoreSlash need) (apart : rule.path ≠ other.path) :
    (rule.path = path ∧ other.path ≠ path) ∨ (rule.path ≠ path ∧ other.path = path) := by
  rcases path_of_stored (entitled_of_kept first).stored with here | toggled
  · exact Or.inl ⟨here, fun there => apart (here.trans there.symm)⟩
  · rcases path_of_stored (entitled_of_kept second).stored with here | both
    · exact Or.inr ⟨toggled ▸ toggleSlash_ne path, here⟩
    · exact absurd (toggled.trans both.symm) apart

/-- Of two rules that pass the filter, one is for the path itself. -/
theorem exists_path_of_two (unique : KeysUnique rules)
    (two : (keptFor rules path ignoreSlash need).length = 2) :
    ∃ rule ∈ keptFor rules path ignoreSlash need, rule.path = path := by
  obtain ⟨first, second, pair⟩ := List.length_eq_two.mp two
  have paths := @kept_paths_nodup rules path ignoreSlash need unique
  have choose := @path_of_kept_ne rules path ignoreSlash need
  rw [pair] at paths choose ⊢
  have apart : first.path ≠ second.path := by simpa using paths
  rcases choose (.head _) (.tail _ (.head _)) apart with ⟨here, _⟩ | ⟨_, here⟩
  · exact ⟨first, .head _, here⟩
  · exact ⟨second, .tail _ (.head _), here⟩

/-- The selected rule is one of those that pass the filter, and all others that do are stored for
another path, while it is stored for the path itself. -/
theorem exists_selected (unique : KeysUnique rules)
    (nonempty : keptFor rules path ignoreSlash need ≠ []) :
    ∃ rule ∈ keptFor rules path ignoreSlash need,
      selectCandidate path (keptFor rules path ignoreSlash need) = some rule ∧
      ∀ other ∈ keptFor rules path ignoreSlash need,
        other = rule ∨ (rule.path = path ∧ other.path ≠ path) := by
  have paths := @kept_paths_nodup rules path ignoreSlash need unique
  have bounded := @kept_length_le rules path ignoreSlash need unique
  have choose := @path_of_kept_ne rules path ignoreSlash need
  generalize keptFor rules path ignoreSlash need = kept at *
  -- One rule is selected outright, and of two the one for the path itself; there are no more.
  match kept, nonempty with
  | [rule], _ => exact ⟨rule, .head _, rfl, fun other member => Or.inl (List.mem_singleton.mp member)⟩
  | [first, second], _ =>
    have apart : first.path ≠ second.path := by simpa using paths
    rcases choose (.head _) (.tail _ (.head _)) apart with ⟨here, elsewhere⟩ | ⟨elsewhere, here⟩
    · refine ⟨first, .head _, by simp [selectCandidate, here], fun other member => ?_⟩
      rcases List.mem_cons.mp member with rfl | later
      · exact Or.inl rfl
      · exact Or.inr ⟨here, List.mem_singleton.mp later ▸ elsewhere⟩
    · refine ⟨second, .tail _ (.head _), by simp [selectCandidate, here, elsewhere], ?_⟩
      intro other member
      rcases List.mem_cons.mp member with rfl | later
      · exact Or.inr ⟨here, elsewhere⟩
      · exact Or.inl (List.mem_singleton.mp later)
  | _ :: _ :: _ :: _, _ =>
    simp only [List.length_cons] at bounded
    omega

/-- A rule answers before no rule that answers before it. -/
theorem Precedes.asymm (before : Precedes path need rule other) :
    ¬ Precedes path need other rule := by
  rintro (⟨here, unbound⟩ | ⟨level, itself, _⟩)
  · rcases before with ⟨bound, _⟩ | ⟨level, _, _⟩
    · exact unbound bound
    · exact unbound (level.mpr here)
  · rcases before with ⟨bound, unbound⟩ | ⟨_, _, elsewhere⟩
    · exact unbound (level.mpr bound)
    · exact elsewhere itself

theorem Wins.eq (first : Wins rules path ignoreSlash need rule)
    (second : Wins rules path ignoreSlash need other) : rule = other := by
  -- If neither were the other, each would come before the other.
  rcases first.best other second.member second.entitled with same | before
  · exact same.symm
  · rcases second.best rule first.member first.entitled with same | after
    · exact same
    · exact absurd after before.asymm

/-- Where a rule is entitled to answer, one answers before all others, and it is selected. -/
theorem exists_wins (unique : KeysUnique rules) (member : rule ∈ rules)
    (entitled : Entitled path ignoreSlash need rule) :
    ∃ winner, Wins rules path ignoreSlash need winner ∧
      selectCandidate path (keptFor rules path ignoreSlash need) = some winner := by
  have nonempty : keptFor rules path ignoreSlash need ≠ [] := by
    -- The rule itself passes the filter, unless another that is bound to the host does.
    by_cases bound : ∃ own ∈ rules, Entitled path ignoreSlash need own ∧ own.host = need.host
    · obtain ⟨own, present, suits, here⟩ := bound
      exact List.ne_nil_of_mem (mem_keptFor.mpr ⟨present, suits, Or.inl here⟩)
    · refine List.ne_nil_of_mem (mem_keptFor.mpr ⟨member, entitled, Or.inr ?_⟩)
      exact fun own present suits here => bound ⟨own, present, suits, here⟩
  obtain ⟨winner, kept, selected, first⟩ := exists_selected unique nonempty
  obtain ⟨present, suits, preferred⟩ := mem_keptFor.mp kept
  refine ⟨winner, ⟨present, suits, fun other stored able => ?_⟩, selected⟩
  by_cases passes : other ∈ keptFor rules path ignoreSlash need
  · rcases first other passes with same | ⟨here, elsewhere⟩
    · exact Or.inl same
    · have level : winner.host = need.host ↔ other.host = need.host := by
        rw [host_eq_of_kept kept passes]
      exact Or.inr (Or.inr ⟨level, here, elsewhere⟩)
  · -- Only a rule of every host is left out, and only for rules that are bound to the host.
    have foreign : other.host ≠ need.host := fun here =>
      passes (mem_keptFor.mpr ⟨stored, able, Or.inl here⟩)
    rcases preferred with here | unbound
    · exact Or.inr (Or.inl ⟨here, foreign⟩)
    · exact absurd (mem_keptFor.mpr ⟨stored, able, Or.inr unbound⟩) passes

/-- The rule that answers before all others is selected. -/
theorem selectCandidate_of_wins (unique : KeysUnique rules)
    (wins : Wins rules path ignoreSlash need rule) :
    selectCandidate path (keptFor rules path ignoreSlash need) = some rule := by
  obtain ⟨winner, first, selected⟩ := exists_wins unique wins.member wins.entitled
  rw [wins.eq first]
  exact selected

/-- A rule wins a request for its own path, host and version while it is active, if only it is not a
pattern rule. -/
theorem wins_of_own_key (unique : KeysUnique rules) (member : rule ∈ rules)
    (plain : rule.isPattern = false) (active : rule.activeAt need.now = true)
    (version : rule.version = need.version) (host : rule.host = need.host) (ignoreSlash : Bool) :
    Wins rules rule.path ignoreSlash need rule := by
  have stored : StoredFor rule.path ignoreSlash rule := by
    cases ignoreSlash with
    | false => rfl
    | true => exact ⟨Or.inl rfl, plain⟩
  refine ⟨member, ⟨stored, version, active, Or.inl host⟩, fun other present able => ?_⟩
  by_cases sameHost : other.host = need.host
  · by_cases samePath : other.path = rule.path
    · -- Path, host and version are those of the rule, and keys are unique.
      have keys : other.key = rule.key := by
        simp only [Rule.key, samePath, sameHost, host, able.eligible.version, version]
      exact Or.inl (List.inj_on_of_nodup_map unique present member keys)
    · exact Or.inr (Or.inr ⟨iff_of_true host sameHost, rfl, samePath⟩)
  · exact Or.inr (Or.inl ⟨host, sameHost⟩)

/-- Where no rule is entitled to answer, none is selected. -/
theorem keptFor_eq_nil (none : ∀ rule ∈ rules, ¬ Entitled path ignoreSlash need rule) :
    keptFor rules path ignoreSlash need = [] := by
  refine List.eq_nil_iff_forall_not_mem.mpr fun rule kept => ?_
  exact none rule (keptFor_sublist.mem kept) (entitled_of_kept kept)

/-- A selected rule is stored and entitled to answer. -/
theorem entitled_of_selected
    (selected : selectCandidate path (keptFor rules path ignoreSlash need) = some rule) :
    rule ∈ rules ∧ Entitled path ignoreSlash need rule := by
  have kept : rule ∈ keptFor rules path ignoreSlash need := by
    unfold selectCandidate at selected
    split at selected
    next only eq => exact eq ▸ Option.some.inj selected ▸ .head _
    next first second eq => exact eq ▸ List.mem_of_find?_eq_some selected
    next => cases selected
  exact ⟨keptFor_sublist.mem kept, entitled_of_kept kept⟩

end Resolve
end Signpost
