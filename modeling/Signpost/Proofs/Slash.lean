import Signpost.Proofs.Access

/-!
# The final slash of a path

A request may be resolved with the final slash of its path left out of account. Where the query
counts as a part of the path, the slash is looked for at the end of both together, and so behind the
query.

## Main result

`slash_ignored_iff`: two requests that differ in the final slash of the path alone are answered alike
by every store without pattern rules if and only if the query does not count as a part of the path,
or there is no query.

## Proof strategy

A request is answered exactly if a stored rule is entitled to answer it (`finds_iff`). Rules are
entitled for both spellings of a path alike (`storedFor_slash`). With a query behind them the two
paths have no spelling in common, so that a rule stored for the first is not found for the second.
-/
namespace Signpost

/-! ### The query of a location -/

namespace Url

variable {location : Location}

theorem exists_parts_of_ofUrl {url : List Char} (read : Location.ofUrl url = .ok location) :
    ∃ host path query, location = Location.ofParts host path query := by
  simp only [Location.ofUrl, Bind.bind, Except.bind] at read
  split at read
  · cases read
  · split at read <;> cases read
    exact ⟨_, _, _, rfl⟩

theorem exists_parts_of_ofPath {url : List Char} (read : Location.ofPath url = .ok location) :
    ∃ host path query, location = Location.ofParts host path query := by
  simp only [Location.ofPath, Bind.bind, Except.bind] at read
  split at read
  · cases read
  · -- The path may be taken as it is, tidied or resolved; the query is taken as it is.
    repeat' split at read
    all_goals
      cases read
      exact ⟨_, _, _, rfl⟩

theorem exists_parts_of_ofText {text : String} (read : Location.ofText text = .ok location) :
    ∃ host path query, location = Location.ofParts host path query := by
  simp only [Location.ofText] at read
  split at read
  · exact exists_parts_of_ofUrl read
  · split at read
    · exact exists_parts_of_ofUrl read
    · exact exists_parts_of_ofPath read

/-- A query that is not empty begins with its mark. -/
theorem query_of_ofText {text : String} (read : Location.ofText text = .ok location) :
    location.query = "" ∨ ∃ rest, location.query.toList = '?' :: rest := by
  obtain ⟨host, path, query, rfl⟩ := exists_parts_of_ofText read
  by_cases empty : query.isEmpty = true
  · exact Or.inl (if_pos empty)
  · refine Or.inr ⟨query, ?_⟩
    simp only [Location.ofParts, if_neg empty, String.toList_ofList]

end Url

namespace Resolve

variable {path query : String} {rule : Rule}

/-! ### The two spellings of a path -/

theorem toggleSlash_of_bare (bare : path.toList.getLast? ≠ some '/') :
    toggleSlash path = path ++ "/" := by
  have unslashed : (path.toList.getLast? == some '/') = false := beq_eq_false_iff_ne.mpr bare
  simp only [toggleSlash, unslashed, Bool.false_eq_true, if_false]
  exact String.toList_inj.mp (by simp)

theorem toggleSlash_append (path : String) : toggleSlash (path ++ "/") = path := by
  have slashed : (path ++ "/").toList = path.toList ++ ['/'] := by simp
  simp only [toggleSlash, slashed, List.getLast?_append, List.getLast?_singleton, Option.some_or,
    beq_self_eq_true, if_true, List.dropLast_concat, String.ofList_toList]

/-- Where the final slash does not count, a rule is stored for both spellings of a path or for
neither. -/
theorem storedFor_slash (bare : path.toList.getLast? ≠ some '/') :
    StoredFor (path ++ "/") true rule ↔ StoredFor path true rule := by
  simp only [StoredFor, if_true, toggleSlash_append, toggleSlash_of_bare bare, or_comm]

/-- A rule for a path with a query is not stored for the path with a slash before the query. -/
theorem not_storedFor_slash {rest : List Char} (mark : query.toList = '?' :: rest)
    (stored : rule.path = path ++ query) : ¬ StoredFor (path ++ "/" ++ query) true rule := by
  intro slashed
  simp only [StoredFor, if_true, stored] at slashed
  have texts : (path ++ "/" ++ query).toList = path.toList ++ '/' :: query.toList := by simp
  rcases slashed.1 with same | toggled
  · have lengths := congrArg (·.toList.length) same
    simp at lengths
  · have lists := congrArg String.toList toggled
    simp only [toggleSlash, texts, mark, String.toList_append] at lists
    split at lists
    next =>
      -- Without its last character the query would begin with the slash in place of the mark.
      have nonempty : '/' :: '?' :: rest ≠ [] := List.cons_ne_nil _ _
      rw [String.toList_ofList, List.dropLast_append_of_ne_nil nonempty,
        List.append_cancel_left_eq, List.dropLast_cons_of_ne_nil (List.cons_ne_nil _ _)] at lists
      cases lists
    next =>
      have lengths := congrArg List.length lists
      simp only [String.toList_ofList, List.length_append, List.length_cons, List.length_nil] at lengths
      omega

/-! ### Requests that are answered with a rule -/

/-- The request is answered with a rule. -/
def Finds [Platform] (base : RuleBase) (defaults : Defaults) (now : Int) (request : Request) : Prop :=
  ∃ rule access, resolve base defaults now request = .ok (some rule, access)

section

variable [Platform] {base : RuleBase} {contents : Contents}

/-- Without pattern rules, a rule is found if one is entitled to answer, and else there is none. -/
theorem findRule_of_plain (serves : base.Serves contents) (unique : KeysUnique contents.rules)
    (plain : ∀ rule ∈ contents.rules, rule.isPattern = false) (path : String) (need : Need)
    (ignoreSlash : Bool) :
    ∃ found, findRule base path need ignoreSlash = .ok found ∧
      (found.isSome = true ↔ ∃ rule ∈ contents.rules, Entitled path ignoreSlash need rule) := by
  by_cases entitled : ∃ rule ∈ contents.rules, Entitled path ignoreSlash need rule
  · obtain ⟨rule, member, able⟩ := entitled
    obtain ⟨winner, wins, _⟩ := exists_wins unique member able
    exact ⟨_, findRule_of_wins serves unique wins, iff_of_true rfl ⟨rule, member, able⟩⟩
  · have unselected :
        selectCandidate path (keptFor contents.rules path ignoreSlash need) = none := by
      rw [keptFor_eq_nil fun rule member able => entitled ⟨rule, member, able⟩]
      rfl
    have noPatterns : contents.rules.filter (·.isPattern) = [] := by
      simpa [List.filter_eq_nil_iff] using plain
    have answered : findRule base path need ignoreSlash = .ok none := by
      rw [findRule_of_unselected serves unselected, noPatterns]
      rfl
    exact ⟨none, answered, iff_of_false Bool.false_ne_true entitled⟩

/-- A request is answered with a rule exactly if a stored one is entitled to answer it. -/
theorem finds_iff (serves : base.Serves contents) (unique : KeysUnique contents.rules)
    (plain : ∀ rule ∈ contents.rules, rule.isPattern = false) {request : Request}
    {location : Url.Location} (read : Url.Location.ofText request.path = .ok location)
    (defaults : Defaults) (now : Int) :
    Finds base defaults now request ↔
      ∃ rule ∈ contents.rules, Entitled (request.pathAt location) request.ignoreSlash
        (contents.needOf defaults now request location) rule := by
  obtain ⟨found, answered, some⟩ := findRule_of_plain serves unique plain
    (request.pathAt location) (contents.needOf defaults now request location) request.ignoreSlash
  simp only [Finds, resolve_of_holds serves.held, read, answered, Except.mapError, Bind.bind,
    Except.bind, Pure.pure, Except.pure, Except.ok.injEq, Prod.mk.injEq, ← some]
  cases found <;> simp

/-! ### Two requests that differ in the final slash -/

/-- A rule for the path that is entitled to answer whatever asks for it. -/
def ruleFor (path : String) (need : Need) : Rule :=
  ⟨some "id-1", path, need.host, need.version, "/", 301, none, none, none, false, none⟩

omit [Platform] in
theorem entitled_ruleFor (path : String) (ignoreSlash : Bool) (need : Need) :
    Entitled path ignoreSlash need (ruleFor path need) := by
  refine ⟨?_, rfl, rfl, Or.inl rfl⟩
  cases ignoreSlash with
  | false => rfl
  | true => exact ⟨Or.inl rfl, rfl⟩

/-- Of two requests whose paths differ in the final slash, with that slash left out of account, every
store without pattern rules answers both or neither with a rule, if and only if the query does not
count as a part of the path or there is none. -/
theorem slash_ignored_iff {first second : Request} {location : Url.Location}
    (read : Url.Location.ofText first.path = .ok location)
    (readSlashed : Url.Location.ofText second.path =
      .ok { location with path := location.path ++ "/" })
    (bare : location.path.toList.getLast? ≠ some '/')
    (alike : second = { first with path := second.path }) (ignores : first.ignoreSlash = true)
    (defaults : Defaults) (now : Int) :
    (∀ base contents, base.Serves contents → KeysUnique contents.rules →
        (∀ rule ∈ contents.rules, rule.isPattern = false) →
        (Finds base defaults now first ↔ Finds base defaults now second)) ↔
      first.matchQuery = false ∨ location.query = "" := by
  have slashes : second.ignoreSlash = true := by rw [alike, ignores]
  have needs (contents : Contents) :
      contents.needOf defaults now second { location with path := location.path ++ "/" } =
        contents.needOf defaults now first location := by rw [alike]; rfl
  have paths : second.pathAt { location with path := location.path ++ "/" } =
      if first.matchQuery then location.path ++ "/" ++ location.query
      else location.path ++ "/" := by rw [alike]; rfl
  constructor
  · intro same
    by_contra neither
    obtain ⟨counts, queried⟩ := not_or.mp neither
    have matched : first.matchQuery = true := Bool.eq_true_of_not_eq_false counts
    -- The one rule of this store is for the first path, with the query behind it.
    let need := (⟨[], [], []⟩ : Contents).needOf defaults now first location
    let rule := ruleFor (first.pathAt location) need
    have serves : (⟨.memory ⟨[rule], [], [], .none⟩, 0, {}⟩ : RuleBase).Serves ⟨[rule], [], []⟩ :=
      ⟨rfl, .memory _⟩
    have unique : KeysUnique [rule] := List.nodup_singleton _
    have plain : ∀ stored ∈ [rule], stored.isPattern = false := List.forall_mem_singleton.mpr rfl
    have found := same _ _ serves unique plain
    rw [finds_iff serves unique plain read, finds_iff serves unique plain readSlashed, paths,
      if_pos matched, slashes] at found
    obtain ⟨other, member, able⟩ :=
      found.mp ⟨rule, List.mem_singleton.mpr rfl, entitled_ruleFor _ _ need⟩
    obtain ⟨rest, mark⟩ := (Url.query_of_ofText read).resolve_left queried
    have stored : rule.path = location.path ++ location.query := if_pos matched
    rw [List.mem_singleton.mp member] at able
    exact not_storedFor_slash mark stored able.stored
  · intro apart base contents serves unique plain
    have stored (rule : Rule) : StoredFor (first.pathAt location) true rule ↔
        StoredFor (second.pathAt { location with path := location.path ++ "/" }) true rule := by
      rw [paths]
      rcases apart with path | none
      · simp only [Request.pathAt, path, Bool.false_eq_true, if_false, storedFor_slash bare]
      · simp only [Request.pathAt, Url.Location.pathWithQuery, none, String.append_empty, ite_self,
          storedFor_slash bare]
    rw [finds_iff serves unique plain read, finds_iff serves unique plain readSlashed, needs,
      ignores, slashes]
    refine exists_congr fun rule => and_congr_right fun _ => ?_
    constructor
    · exact fun able => ⟨(stored rule).mp able.stored, able.eligible⟩
    · exact fun able => ⟨(stored rule).mpr able.stored, able.eligible⟩

end

attribute [local instance] Platform.usual

/-- A rule for "/a?x=1" is found for that path, but not for "/a/?x=1", where the slash is looked for
behind the query. -/
theorem slash_missed_before_query :
    let rule : Rule := ⟨some "id-1", "/a?x=1", "", 0, "/b", 301, none, none, none, false, none⟩
    let base : RuleBase := ⟨.memory ⟨[rule], [], [], .none⟩, 1, {}⟩
    let request : Request := { path := "/a?x=1", matchQuery := true, ignoreSlash := true }
    Url.Location.ofText "/a?x=1" = .ok ⟨"", "/a", "?x=1"⟩ ∧
      Url.Location.ofText "/a/?x=1" = .ok ⟨"", "/a/", "?x=1"⟩ ∧
      base.Serves ⟨[rule], [], []⟩ ∧ KeysUnique [rule] ∧
      Finds base {} 1750000000 request ∧
      ¬ Finds base {} 1750000000 { request with path := "/a/?x=1" } := by
  intro rule base request
  have read : Url.Location.ofText "/a?x=1" = .ok ⟨"", "/a", "?x=1"⟩ := rfl
  have readSlashed : Url.Location.ofText "/a/?x=1" = .ok ⟨"", "/a/", "?x=1"⟩ := rfl
  have serves : base.Serves ⟨[rule], [], []⟩ := ⟨rfl, .memory _⟩
  have unique : KeysUnique [rule] := by decide
  have plain : ∀ stored ∈ [rule], stored.isPattern = false := by decide
  refine ⟨read, readSlashed, serves, unique, ?_, ?_⟩
  · exact (finds_iff serves unique plain read {} 1750000000).mpr (by decide)
  · exact (finds_iff serves unique plain readSlashed {} 1750000000).not.mpr (by decide)

/-- Where the query does not count as a part of the path, "/a?x=1" and "/a/?x=1" are answered
alike. -/
theorem slash_ignored_for_path_alone :
    let request : Request := { path := "/a?x=1", ignoreSlash := true }
    Url.Location.ofText "/a?x=1" = .ok ⟨"", "/a", "?x=1"⟩ ∧
      Url.Location.ofText "/a/?x=1" = .ok ⟨"", "/a/", "?x=1"⟩ ∧
      "/a".toList.getLast? ≠ some '/' ∧
      ∀ base contents, base.Serves contents → KeysUnique contents.rules →
        (∀ rule ∈ contents.rules, rule.isPattern = false) →
        (Finds base {} 1750000000 request ↔
          Finds base {} 1750000000 { request with path := "/a/?x=1" }) := by
  have read : Url.Location.ofText "/a?x=1" = .ok ⟨"", "/a", "?x=1"⟩ := rfl
  have readSlashed : Url.Location.ofText "/a/?x=1" = .ok ⟨"", "/a/", "?x=1"⟩ := rfl
  have bare : "/a".toList.getLast? ≠ some '/' := by decide
  exact ⟨read, readSlashed, bare,
    (slash_ignored_iff read readSlashed bare rfl rfl {} 1750000000).mpr (Or.inl rfl)⟩

end Resolve
end Signpost
