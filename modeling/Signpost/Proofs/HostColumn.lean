import Signpost.Configuration
import Signpost.Proofs.Course
import Signpost.Proofs.Location
import Signpost.Proofs.Slash

/-!
# Hosts in a column and in a URL

A row names the host of its rule in a column, a request names its host in a URL. The column is taken as
it stands; the URL gives the host in lower case.

## Main result

`column_found_iff`: a row with a host in its column is imported into stores without rules, and the URL
of that host and the path of the row is answered with its rule exactly if the host has no capital
letters.

## Proof strategy

A plain path is read from the cell and from the URL as it is (`PlainPath.ofText_eq` and
`PlainPath.ofText_https`), so the rule is the only one that is stored for the path of the request. It is
bound to a host, and so it answers exactly if that is the host of the request (`resolve_of_single`).
-/
namespace Signpost

/-! ### Names of hosts -/

namespace Url

/-- A character of a host name. -/
def isNameChar (c : Char) : Bool :=
  Text.isAsciiLetter c || Text.isAsciiDigit c || c == '.' || c == '-'

variable {c : Char} {host : List Char}

theorem toNat_lt_of_isNameChar (name : isNameChar c = true) : c.toNat < 128 := by
  simp only [isNameChar, Text.isAsciiLetter, Text.isAsciiDigit, Bool.or_eq_true, Bool.and_eq_true,
    decide_eq_true_eq, beq_iff_eq] at name
  rcases name with ((letter | digit) | rfl) | rfl
  · omega
  · omega
  · decide
  · decide

/-- A character of a host name is read as it is; it is no blank, and it begins no zone. -/
theorem plain_of_isNameChar (name : isNameChar c = true) :
    isHostChar c = true ∧ Text.isBlank c = false ∧ c ≠ '%' := by
  have all : ∀ code < 128, isNameChar (Char.ofNat code) = true → isHostChar (Char.ofNat code) = true ∧
      Text.isBlank (Char.ofNat code) = false ∧ Char.ofNat code ≠ '%' := by decide
  have same := all c.toNat (toNat_lt_of_isNameChar name)
  rw [Char.ofNat_toNat] at same
  exact same name

theorem lowerHost_of_name (name : ∀ c ∈ host, isNameChar c = true) :
    lowerHost host = host.map Text.toAsciiLower := by
  have zoneless : '%' ∉ host := fun member => (plain_of_isNameChar (name _ member)).2.2 rfl
  rw [lowerHost, Text.cut?_of_absent zoneless]
  exact Text.lowerText_of_ascii fun c member => toNat_lt_of_isNameChar (name c member)

/-- A path that a sheet and a URL hold alike: it is in normal form, and has neither parameters nor a
query nor blanks at its end. -/
structure PlainPath (path : String) : Prop where
  rooted : IsRooted path.toList
  chars : ∀ c ∈ path.toList, isPathChar c = true ∧ c ≠ ';'
  dotless : ∀ segment ∈ Text.pieces '/' path.toList, ¬ IsDots segment
  trimmed : Text.strip path = path

variable {path : String}

theorem PlainPath.pathChars (plain : PlainPath path) : ∀ c ∈ path.toList, isPathChar c = true :=
  fun c member => (plain.chars c member).1

theorem PlainPath.resolved (plain : PlainPath path) : resolvePath path.toList = path.toList := by
  have bare : ';' ∉ Text.afterLast '/' path.toList := fun member =>
    (plain.chars _ ((Text.afterLast_suffix '/' _).subset member)).2 rfl
  have whole := splitParameters_of_bare bare
  have tidy : tidyPath path.toList = path.toList := by simp [tidyPath_eq, whole, withParameters]
  have dotless := plain.dotless
  obtain ⟨rest, begins, _⟩ := plain.rooted
  exact resolvePath_eq_self (by rw [begins]; rfl) (by rwa [whole]) tidy

theorem PlainPath.ofParts_eq (plain : PlainPath path) (host : List Char) :
    Location.ofParts host path.toList [] = ⟨String.ofList host, path, ""⟩ := by
  obtain ⟨rest, begins, _⟩ := plain.rooted
  have nonempty : path.toList.isEmpty = false := by rw [begins]; rfl
  simp [Location.ofParts, nonempty]

theorem PlainPath.ofText_eq (plain : PlainPath path) :
    Location.ofText path = .ok ⟨"", path, ""⟩ := by
  have whole : path.toList = path.toList ++ marked [] := by simp [marked]
  rw [ofText_marked whole plain.rooted plain.pathChars (by simp), plain.resolved, plain.ofParts_eq]

/-- Behind a host name the path is kept, and the name is put into lower case. -/
theorem PlainPath.ofText_https (plain : PlainPath path) {host : String}
    (name : ∀ c ∈ host.toList, isNameChar c = true) :
    Location.ofText ("https://" ++ host ++ path) =
      .ok ⟨String.ofList (host.toList.map Text.toAsciiLower), path, ""⟩ := by
  have noQuery : ∀ c ∈ ([] : List Char), isQueryChar c = true := by simp
  obtain ⟨cleaned, halves⟩ := clean_marked plain.rooted.head? plain.pathChars noQuery
  simp only [marked, List.isEmpty_nil, if_true, List.append_nil] at cleaned halves
  have slash : path.toList.head? = some '/' := by
    obtain ⟨rest, begins, _⟩ := plain.rooted
    rw [begins]
    rfl
  rw [Url.ofText_https (by simp) (fun c member => (plain_of_isNameChar (name c member)).1) slash,
    cleaned, halves, lowerHost_of_name name, plain.ofParts_eq]

end Url

/-! ### One row -/

namespace Sheet

variable [Platform] {base : RuleBase} {defaults : Defaults} {hosts : List HostPolicy}
  {versions : List ActiveVersion} {row normal : Row} {rule : Rule}

/-- A row whose rule has room in stores without rules is imported. -/
theorem importRows_single (held : base.stores.Holds ⟨[], hosts, versions⟩) (calm : base.faults = {})
    (entered : entry? defaults
      (Contents.activeVersion ⟨[], hosts, versions⟩ defaults.version) row = some (normal, rule))
    (room : rule.integers.all base.stores.hasRoom = true) :
    ∃ after stored id, importRows base defaults [row] = (after, .ok { inserted := 1 }) ∧
      stored = { rule with id := some id } ∧ after.Serves ⟨[stored], hosts, versions⟩ := by
  have allowed {next : RuleBase} (same : next.faults = base.faults) (call : Call) :
      next.allow call = .ok () := by
    rw [RuleBase.allow, same, calm]
    rfl
  have unhindered : base.obstacle? rule = none := by
    rw [RuleBase.obstacle?, allowed rfl, calm]
    rfl
  have roomForVersion : base.stores.hasRoom rule.version = true :=
    List.all_eq_true.mp room _ (.head _)
  have absent : base.search (keyCriteria normal) = .ok [] := by
    rw [lookup_eq held (allowed rfl .search) (keyed_of_entry entered), if_pos roomForVersion]
    rfl
  have fresh : ∀ other ∈ (⟨[], hosts, versions⟩ : Contents).rules,
      other.id ≠ some (base.nextId rule).2 := fun _ member =>
    absurd member List.not_mem_nil
  obtain ⟨stores, inserted, holds⟩ := Stores.insertRule_of_room held fresh room
  -- Neither a fault nor a lack of room ends the insertion, so it is the only way left.
  rcases base.insert_cases rule with ⟨_, hindered, _⟩ | ⟨_, ⟨_, failed, _⟩ | ⟨after, taken, call⟩⟩
  · rw [unhindered] at hindered
    cases hindered
  · rw [inserted] at failed
    cases failed
  · rw [inserted] at taken
    cases taken
    have first := (Settles.stored entered absent call).importRow_eq
    refine ⟨_, _, _, ?_, rfl, allowed (RuleBase.faults_of_insert call) .search, holds⟩
    have version : Resolve.resolveVersion base.stores .null defaults.version =
        .ok (Contents.activeVersion ⟨[], hosts, versions⟩ defaults.version) :=
      Resolve.resolveVersion_of_holds held .null defaults.version
    simp only [importRows, version, importAfter, first]
    rfl

/-- The row of a path with a column for the host. -/
def columnRow (path host target : String) : Row :=
  [("path", .text path), ("host", .text host), ("redirectURL", .text target)]

/-- The rule of a row with a column for the host. -/
def columnRule (path host target : String) (version status : Int) : Rule :=
  ⟨none, path, host, version, Text.strip target, status, none, none, none, false, none⟩

/-- The host of a row is taken from its column as it stands. -/
theorem entry?_columnRow {path host target : String} (plain : Url.PlainPath path)
    (name : ∀ c ∈ host.toList, Url.isNameChar c = true) (named : host ≠ "")
    (given : Text.isBlankText target = false) (defaults : Defaults) (version : Int) :
    ∃ normal, entry? defaults version (columnRow path host target) =
      some (normal, columnRule path host target version defaults.status) := by
  have solid : ∀ c ∈ host.toList, Text.isBlank c = false := fun c member =>
    (Url.plain_of_isNameChar (name c member)).2.1
  have hostGiven : Text.isBlankText host = false := by
    obtain ⟨c, rest, begins⟩ := List.exists_cons_of_ne_nil (String.toList_eq_nil_iff.not.mpr named)
    rw [Text.isBlankText, begins, List.all_cons, solid c (begins ▸ .head _), Bool.false_and]
  have pathGiven : Text.isBlankText path = false := by
    obtain ⟨rest, begins, _⟩ := plain.rooted
    rw [Text.isBlankText, begins]
    rfl
  have hostTrimmed : Text.strip host = host := by
    rw [Text.strip, Text.trim_of_no_blank solid, String.ofList_toList]
  have checked : skipReason? (columnRow path host target) = none := by
    have paths : (cell (columnRow path host target) "path").isBlank = false := pathGiven
    have targets : (cell (columnRow path host target) "redirectURL").isBlank = false := given
    rw [skipReason?, paths, targets]
    rfl
  have read : Url.Location.ofText (trimmed (.text path)) = .ok ⟨"", path, ""⟩ := by
    rw [trimmed, show Value.display (.text path) = path from rfl, plain.trimmed, plain.ofText_eq]
  have hostRead : rowHost (columnRow path host target) = host := by
    have value : cell (columnRow path host target) "host" = .text host := rfl
    rw [rowHost, value, Value.isBlank, hostGiven]
    exact hostTrimmed
  have key : rowKey (columnRow path host target) = .ok (.text path, host) := by
    have value : needed (columnRow path host target) "path" = .ok (.text path) := rfl
    have shown : checkShown [cell (columnRow path host target) "host",
      cell (columnRow path host target) "isRegex", cell (columnRow path host target) "path"] =
        .ok () := rfl
    have notPattern : isPatternRow (columnRow path host target) = false := rfl
    have unqueried : (⟨"", path, ""⟩ : Url.Location).pathWithQuery = path := String.append_empty
    simp only [rowKey, shown, value, notPattern, hostRead, read, unqueried, Except.mapError, Bind.bind,
      Except.bind]
    rfl
  have normalized : normalizeRow (columnRow path host target) version =
      .ok [("path", .text path), ("host", .text host), ("redirectURL", .text target),
        ("version", .int version)] := by
    simp only [normalizeRow, key]
    rfl
  exact ⟨_, entry?_eq_some_iff.mpr ⟨checked, normalized, rfl⟩⟩

end Sheet

/-! ### The request -/

namespace Resolve

section

variable [Platform] {base : RuleBase} {hosts : List HostPolicy} {versions : List ActiveVersion}
  {rule : Rule}

/-- The only rule, if it is bound to a host, is found for its path exactly if that host is needed. -/
theorem findRule_of_single (serves : base.Serves ⟨[rule], hosts, versions⟩) (bound : rule.host ≠ "")
    (plain : rule.isPattern = false) (need : Need) (version : rule.version = need.version)
    (active : rule.activeAt need.now = true) (ignoreSlash : Bool) :
    findRule base rule.path need ignoreSlash =
      .ok (if rule.host = need.host then some rule else none) := by
  have unique : KeysUnique [rule] := List.nodup_singleton _
  split
  next same =>
    exact findRule_of_wins serves unique
      (wins_of_own_key unique (.head _) plain active version same ignoreSlash)
  next other =>
    have none : ∀ stored ∈ [rule], ¬ Entitled rule.path ignoreSlash need stored := by
      intro stored member able
      rw [List.mem_singleton.mp member] at able
      rcases able.eligible.host with same | ⟨_, everywhere⟩
      · exact other same
      · exact bound everywhere
    have noPatterns : [rule].filter (·.isPattern) = [] := by simp [plain]
    rw [(findRule_answers_winner serves unique rule.path need ignoreSlash).1 none, noPatterns]
    rfl

/-- Without operations and times, the only rule is the answer to a URL of its path exactly if the URL
is of its host. -/
theorem resolve_of_single (serves : base.Serves ⟨[rule], hosts, versions⟩) (bound : rule.host ≠ "")
    (plain : rule.isPattern = false) (untimed : rule.start = none ∧ rule.stop = none)
    (inert : rule.operations = none) (defaults : Defaults)
    (version : rule.version = Contents.activeVersion ⟨[], hosts, versions⟩ defaults.version)
    {text host : String} (read : Url.Location.ofText text = .ok ⟨host, rule.path, ""⟩) (now : Int) :
    resolve base defaults now { path := text } =
      .ok (if rule.host = host then (some rule, accessOf defaults now rule) else (none, none)) := by
  have active (instant : Int) : rule.activeAt instant = true := by
    simp [Rule.activeAt, untimed]
  have target : (Operations.ofOption rule.operations).apply rule.target "" = rule.target := by
    rw [inert]
    rfl
  have unchanged : rule.rewritten "" = rule := by rw [Rule.rewritten, target]
  have found := findRule_of_single serves bound plain
    (Contents.needOf ⟨[rule], hosts, versions⟩ defaults now { path := text } ⟨host, rule.path, ""⟩)
    version (active _) false
  have path : Request.pathAt { path := text } ⟨host, rule.path, ""⟩ = rule.path := rfl
  have needed : (Contents.needOf ⟨[rule], hosts, versions⟩ defaults now { path := text }
    ⟨host, rule.path, ""⟩).host = host := rfl
  rw [needed] at found
  rw [resolve_of_holds serves.held, read]
  simp only [Except.mapError, Bind.bind, Except.bind, path, found]
  split
  · rw [Option.map_some, unchanged]
    rfl
  · rfl

omit [Platform] in
theorem lower_eq_iff (text : String) :
    text = String.ofList (text.toList.map Text.toAsciiLower) ↔
      text.toList.all (fun c => Text.toAsciiLower c == c) = true := by
  rw [← String.toList_inj, String.toList_ofList, eq_comm, List.all_eq_true]
  conv_lhs => rhs; rw [← List.map_id text.toList]
  simp only [List.map_inj_left, id_eq, beq_iff_eq]

/-- A row with a host in a column is imported into stores without rules, and the URL of the host and
the path is answered with its rule exactly if the host has no capital letters. -/
theorem column_found_iff (held : base.stores.Holds ⟨[], hosts, versions⟩) (calm : base.faults = {})
    (resolution : Resolution)
    (room : base.stores.hasRoom (Contents.activeVersion ⟨[], hosts, versions⟩ resolution.version) ∧
      base.stores.hasRoom resolution.status)
    {path host target : String} (plain : Url.PlainPath path)
    (name : ∀ c ∈ host.toList, Url.isNameChar c = true) (named : host ≠ "")
    (given : Text.isBlankText target = false) (now : Int) :
    ∃ after rule,
      Sheet.importRows base resolution.forSheets
          [[("path", .text path), ("host", .text host), ("redirectURL", .text target)]] =
        (after, .ok { inserted := 1 }) ∧
      after.stores.Holds ⟨[rule], hosts, versions⟩ ∧
      rule.path = path ∧ rule.host = host ∧ rule.target = Text.strip target ∧
      resolve after resolution.forRequests now { path := "https://" ++ host ++ path } =
        .ok (if host.toList.all (fun c => Text.toAsciiLower c == c) then
            (some rule, accessOf resolution.forRequests now rule)
          else (none, none)) := by
  obtain ⟨normal, entered⟩ := Sheet.entry?_columnRow plain name named given resolution.forSheets
    (Contents.activeVersion ⟨[], hosts, versions⟩ resolution.version)
  have fits : (Sheet.columnRule path host target
      (Contents.activeVersion ⟨[], hosts, versions⟩ resolution.version)
        resolution.forSheets.status).integers.all base.stores.hasRoom = true := by
    simpa [Rule.integers, Sheet.columnRule, Resolution.forSheets] using room
  obtain ⟨after, rule, id, imported, same, serves⟩ := Sheet.importRows_single held calm entered fits
  have path_eq : rule.path = path := by rw [same]; rfl
  have host_eq : rule.host = host := by rw [same]; rfl
  have answered := resolve_of_single serves (by rwa [host_eq]) (by rw [same]; rfl)
    (by rw [same]; exact ⟨rfl, rfl⟩) (by rw [same]; rfl) resolution.forRequests
    (by rw [same]; rfl) (by rw [path_eq]; exact plain.ofText_https name) now
  refine ⟨after, rule, imported, serves.held, path_eq, host_eq, by rw [same]; rfl, ?_⟩
  simp only [answered, host_eq, lower_eq_iff]

end

attribute [local instance] Platform.usual

/-- The rule of a row for "shop.example.com" is found for the URL. -/
theorem column_found_for_shop :
    let base : RuleBase := { stores := .memory {} }
    base.stores.Holds ⟨[], [], []⟩ ∧ base.faults = {} ∧
      (base.stores.hasRoom (Contents.activeVersion ⟨[], [], []⟩ 0) ∧ base.stores.hasRoom 301) ∧
      Url.PlainPath "/a" ∧ (∀ c ∈ "shop.example.com".toList, Url.isNameChar c = true) ∧
      Text.isBlankText "/b" = false ∧
      ∃ after rule,
        Sheet.importRows base {} [[("path", .text "/a"), ("host", .text "shop.example.com"),
            ("redirectURL", .text "/b")]] = (after, .ok { inserted := 1 }) ∧
        after.stores.Holds ⟨[rule], [], []⟩ ∧
        rule.path = "/a" ∧ rule.host = "shop.example.com" ∧ rule.target = "/b" ∧
        resolve after {} 1750000000 { path := "https://shop.example.com/a" } =
          .ok (some rule, accessOf {} 1750000000 rule) := by
  intro base
  have held : base.stores.Holds ⟨[], [], []⟩ := .memory {}
  have room : base.stores.hasRoom (Contents.activeVersion ⟨[], [], []⟩ 0) ∧
    base.stores.hasRoom 301 := ⟨rfl, rfl⟩
  have chars : ∀ c ∈ "/a".toList, Url.isPathChar c = true ∧ c ≠ ';' :=
    List.forall_mem_cons.mpr ⟨by decide, List.forall_mem_singleton.mpr (by decide)⟩
  have plain : Url.PlainPath "/a" := ⟨⟨_, rfl, by decide⟩, chars, by decide, rfl⟩
  have name : ∀ c ∈ "shop.example.com".toList, Url.isNameChar c = true := List.all_eq_true.mp rfl
  have given : Text.isBlankText "/b" = false := rfl
  exact ⟨held, rfl, room, plain, name, given,
    column_found_iff held rfl {} room plain name (by decide) given 1750000000⟩

/-- The rule of a row for "Shop.example.com" is not found for the URL, which names the host in lower
case. -/
theorem column_missed_with_capital :
    let base : RuleBase := { stores := .memory {} }
    let row : Sheet.Row :=
      [("path", .text "/a"), ("host", .text "Shop.example.com"), ("redirectURL", .text "/b")]
    let imported := Sheet.importRows base {} [row]
    imported.2.map (·.inserted) = .ok 1 ∧
      imported.1.search [] =
        .ok [⟨some "id-1", "/a", "Shop.example.com", 0, "/b", 301, none, none, none, false, none⟩] ∧
      ¬ Finds imported.1 {} 1750000000 { path := "https://Shop.example.com/a" } := by
  intro base row imported
  refine ⟨by decide +kernel, by decide +kernel, ?_⟩
  have answered : (resolve imported.1 {} 1750000000
      { path := "https://Shop.example.com/a" }).toOption = some (none, none) := by decide +kernel
  rintro ⟨rule, access, found⟩
  rw [found] at answered
  cases answered

end Resolve
end Signpost
