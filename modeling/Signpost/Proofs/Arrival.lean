import Signpost.Proofs.History
import Signpost.Proofs.Keeping
import Signpost.Proofs.Resolution

/-!
# Imported rules are found

A rule that came into the stores from a row is found under the path that stands in the row, asked
for with its own host and version, as long as nothing but imports touches the rules.

## Main result

`resolve_imported`: whatever else is imported before or after, and whatever host policies and active
versions there are, the request for the path of an inserted row is answered with the rule that the
row is stored as.

## Proof strategy

The path of the row and the path of the request are brought into normal form by the same function.
The host of the request is that of the rule, also where the rule took it from the URL in the row. So
the rule is stored for what the request asks, bound to the host that it names, and keys are unique.
-/
namespace Signpost.Resolve

open Sheet (Row KeyedBy cell isPatternRow trimmed)

/-- The request for a text, under the host and the version of a rule, with the query counting as a
part of the path. -/
def requestFor (text : String) (rule : Rule) (hostOnly : Option Bool) (instant : Int)
    (ignoreSlash : Bool) : Request where
  path := text
  host := nonEmpty rule.host
  version := .int rule.version
  hostOnly := hostOnly
  instant := some instant
  matchQuery := true
  ignoreSlash := ignoreSlash

section

variable [Platform] {base : RuleBase} {contents : Contents} {rule : Rule} {row : Row} {version : Int}

/-- A plain rule has the path of the location that its row names, and it is of every host only if
the location names none. -/
theorem location_of_keyedBy (keyed : KeyedBy version row rule) (plain : isPatternRow row = false) :
    ∃ location, Url.Location.ofText (trimmed (cell row "path")) = .ok location ∧
      rule.path = location.pathWithQuery ∧ (rule.host = "" → location.host = "") := by
  obtain ⟨path, has, key⟩ := Sheet.rowKey_eq_ok keyed.key
  have value : cell row "path" = path := by simp [cell, has]
  rw [if_neg (by simp [plain])] at key
  obtain ⟨location, read, same, named⟩ := key
  refine ⟨location, value ▸ read, Value.text.inj same, fun everywhere => ?_⟩
  -- The host of the location wins over the one in the row, so it is empty if the rule's is.
  by_cases unnamed : location.host = ""
  · exact unnamed
  · have own : rule.host = location.host := by simpa [unnamed] using named
    exact own.symm.trans everywhere

omit [Platform] in
/-- The host of the rule, or that of the location for a rule of every host. -/
theorem requestHost_eq {location : Url.Location} (unbound : rule.host = "" → location.host = "") :
    ((nonEmpty rule.host).bind nonEmpty).getD location.host = rule.host := by
  by_cases empty : rule.host = ""
  · simp [nonEmpty, empty, unbound empty]
  · simp [nonEmpty, empty]

/-- A rule that is not a pattern rule is found under its own key, its target rewritten. -/
theorem resolve_own (serves : base.Serves contents) (unique : KeysUnique contents.rules)
    (member : rule ∈ contents.rules) (plain : rule.isPattern = false) {text : String}
    {location : Url.Location} (read : Url.Location.ofText text = .ok location)
    (path : rule.path = location.pathWithQuery) (unbound : rule.host = "" → location.host = "")
    {instant : Int} (nonzero : instant ≠ 0) (active : rule.activeAt instant = true)
    (defaults : Defaults) (now : Int) (hostOnly : Option Bool) (ignoreSlash : Bool) :
    resolve base defaults now (requestFor text rule hostOnly instant ignoreSlash) =
      .ok (some { rule with
          target := (Operations.ofOption rule.operations).apply rule.target location.query },
        accessOf defaults now rule) := by
  obtain ⟨policy, told⟩ : ∃ policy,
      resolveHostOnly base.stores hostOnly rule.host defaults.hostOnly = .ok policy :=
    ⟨_, resolveHostOnly_of_holds serves.held hostOnly rule.host defaults.hostOnly⟩
  have host := requestHost_eq unbound
  have version : resolveVersion base.stores (.int rule.version) defaults.version =
      .ok rule.version := rfl
  have moment : ((some instant).filter (· != 0)).getD now = instant := by
    simp [Option.filter, nonzero]
  have found : findRule base location.pathWithQuery ⟨rule.host, rule.version, policy, instant⟩
      ignoreSlash = .ok (some rule) := by
    rw [← path]
    exact findRule_of_wins serves unique
      (wins_of_own_key unique member plain active rfl rfl ignoreSlash)
  simp only [resolve, requestFor, read, host, version, told, moment, found, Except.mapError,
    Bind.bind, Except.bind, if_true]
  rfl

/-- From stores without rules, let nothing but imports touch the rules, while host policies, active
versions, defaults and failures may change. Then each row that is inserted and is not for a pattern
is found: the request for the path that stands in it, under the host and version of the rule that
it is stored as, is answered with this rule at any instant at which it is active, whether or not
the final slash and the host policy count. Only its target may be rewritten. -/
theorem resolve_imported {session : Session} {hosts : List HostPolicy}
    {versions : List ActiveVersion} (empty : session.base.stores.Holds ⟨[], hosts, versions⟩)
    {events : List Event} (spares : ∀ event ∈ events, event.sparesRules = true)
    (allowed : (session.run events).base.allow .search = .ok ())
    (logged : (row, rule) ∈ session.log events) (plain : isPatternRow row = false) {instant : Int}
    (nonzero : instant ≠ 0) (active : rule.activeAt instant = true) (defaults : Defaults)
    (now : Int) (hostOnly : Option Bool) (ignoreSlash : Bool) :
    ∃ location, Url.Location.ofText (trimmed (cell row "path")) = .ok location ∧
      resolve (session.run events).base defaults now
          (requestFor (trimmed (cell row "path")) rule hostOnly instant ignoreSlash) =
        .ok (some { rule with
            target := (Operations.ofOption rule.operations).apply rule.target location.query },
          accessOf defaults now rule) := by
  have appended := Session.run_appends ⟨hosts, versions, empty⟩ List.nodup_nil spares
  obtain ⟨version, keyed⟩ := appended.keyed _ logged
  obtain ⟨location, read, path, unbound⟩ := location_of_keyedBy keyed plain
  obtain ⟨hosts, versions, held⟩ := appended.held
  have serves : (session.run events).base.Serves _ := ⟨allowed, held⟩
  have member : rule ∈ [] ++ (session.log events).map (·.2) :=
    List.mem_map.mpr ⟨(row, rule), logged, rfl⟩
  have notPattern : rule.isPattern = false := keyed.isPattern.trans plain
  exact ⟨location, read, resolve_own serves appended.unique member notPattern read path unbound
    nonzero active defaults now hostOnly ignoreSlash⟩

end

attribute [local instance] Platform.usual

/-- A row that names a URL is inserted between two rows for the same path, of which one is for
another host; its rule is found under the URL. -/
theorem resolve_imported_between :
    let session : Session := { base := { stores := .memory {} }, clock := 5 }
    let row (path : String) : Row := [("path", .text path), ("redirectURL", .text "/to")]
    let rule : Rule :=
      ⟨some "id-2", "/a", "shop", 0, "/to", 301, none, none, none, false, none⟩
    let events : List Event :=
      [.step (.importRows [row "/a", row " http://shop/a"]), .step (.addHost ⟨"shop", true⟩),
        .step (.importRows [row "//other/a", row "/a/"])]
    session.base.stores.Holds ⟨[], [], []⟩ ∧ (∀ event ∈ events, event.sparesRules = true) ∧
      (session.run events).base.allow .search = .ok () ∧
      (row " http://shop/a", rule) ∈ session.log events ∧
      isPatternRow (row " http://shop/a") = false ∧ (7 : Int) ≠ 0 ∧ rule.activeAt 7 = true ∧
      ∃ location, Url.Location.ofText (trimmed (.text " http://shop/a")) = .ok location ∧
        resolve (session.run events).base {} 9
            (requestFor (trimmed (.text " http://shop/a")) rule none 7 true) =
          .ok (some { rule with
              target := (Operations.ofOption rule.operations).apply rule.target location.query },
            accessOf {} 9 rule) := by
  intro session row rule events
  have empty : session.base.stores.Holds ⟨[], [], []⟩ := .memory {}
  have spares : ∀ event ∈ events, event.sparesRules = true := by decide
  have allowed : (session.run events).base.allow .search = .ok () := by decide +kernel
  let first := Sheet.importAfterFaltering {} 0 {} session.base [({}, row "/a")]
  have reached : first.2.isOk = true := by decide +kernel
  have stored : Sheet.storedRule? { first.1 with faults := {} } {} 0 (row " http://shop/a") =
      some rule := by decide +kernel
  have logged : (row " http://shop/a", rule) ∈ session.log events :=
    List.mem_append_left _ (Sheet.mem_insertedRows reached stored)
  have plain : isPatternRow (row " http://shop/a") = false := rfl
  have nonzero : (7 : Int) ≠ 0 := by decide
  have active : rule.activeAt 7 = true := rfl
  exact ⟨empty, spares, allowed, logged, plain, nonzero, active,
    resolve_imported empty spares allowed logged plain nonzero active {} 9 none true⟩

end Signpost.Resolve
