import Signpost.Proofs.History
import Signpost.Proofs.Integers
import Signpost.Proofs.Ledger

/-!
# Sessions in memory and in tables

A session goes the same way whether its stores are in memory or are the tables of a database, as
long as every integer that comes to the stores fits in a cell and every text is one of characters.

## Main results

`step_agree`: sessions that keep the same rules, versions and host policies give the same result in
a step, and keep the same after it. `outcomes_eq`: from empty stores of either kind, all results are
the same. `outcomes_part_at_surrogate`: with a text that is none of characters they are not.

## Proof strategy

Most steps make one call, which is uniform. An import makes two for each row: the row is looked up in
both rule bases with the same result (`importRow_agree`), and so on by induction along the rows and
along the steps. Only the columns with the texts of a rule can bring a text that a table does not
take (`HasUnpaired`), and comma-separated text has no such cell (`readable_of_csv`).
-/
namespace Signpost

open Sql Store

/-! ### Imports -/

namespace Sheet

variable [Platform] {a b : RuleBase} {defaults : Defaults} {version : Int} {row normal : Row}
  {rule : Rule}

omit [Platform] in
theorem hasRoom_of_fits {stores : Stores} {n : Int} (small : fits n = true) :
    stores.hasRoom n = true := by
  cases stores with
  | memory m => rfl
  | tables path file => exact small

/-- A row is looked up alike if its version fits and its texts are of characters. -/
theorem lookup_agree (alike : a.Alike b) (isNormal : IsNormal version row normal)
    (paired : ¬ HasUnpaired row) (small : (rowIntegers defaults version a row).all fits = true) :
    a.search (keyCriteria normal) = b.search (keyCriteria normal) := by
  obtain ⟨_, _, _, _, servesA, servesB, _⟩ := alike.serve
  obtain ⟨path, host, named, keyed⟩ := keyed_of_normalizeRow isNormal.normalized
  obtain ⟨text, rfl⟩ := (textual_of_rowKey named).resolve_right fun lone =>
    paired (hasUnpaired_of_rowKey named lone)
  rw [rowIntegers_of_isNormal isNormal, List.all_cons, Bool.and_eq_true] at small
  rw [lookup_eq servesA.held servesA.allowed keyed, lookup_eq servesB.held servesB.allowed keyed,
    hasRoom_of_fits small.1, hasRoom_of_fits small.1]

omit [Platform] in
theorem obstacle?_of_alike (alike : a.Alike b) (rule : Rule) : a.obstacle? rule = none := by
  obtain ⟨_, _, keeps, _⟩ := alike
  simp only [RuleBase.obstacle?, keeps.allow, keeps.clear]
  rfl

/-- A row comes to the same in both rule bases. -/
theorem importRow_agree (alike : a.Alike b) (paired : ¬ HasUnpaired row)
    (small : (rowIntegers defaults version a row).all fits = true) :
    Agree (importRow a defaults version row) (importRow b defaults version row) := by
  have lookups (normal : Row) (isNormal : IsNormal version row normal) :
      (a.search (keyCriteria normal)).map List.isEmpty =
        (b.search (keyCriteria normal)).map List.isEmpty := by
    rw [lookup_agree alike isNormal paired small]
  -- Only if its key is new, the rule of the row comes to the stores.
  have insertions (normal : Row) (rule : Rule)
      (entered : entry? defaults version row = some (normal, rule))
      (absent : a.search (keyCriteria normal) = .ok []) :
      (a.insert rule).2 = (b.insert rule).2 ∧ (a.insert rule).1.Alike (b.insert rule).1 := by
    rw [rowIntegers_of_isNormal (isNormal_of_entry entered), insertedIntegers_of_entry entered absent,
      obstacle?_of_alike alike, List.all_cons, Bool.and_eq_true] at small
    have inserted := (insert_uniform (Or.inl (id_of_entry entered)) small.2).agree alike
    exact ⟨inserted.answer, inserted.bases⟩
  obtain ⟨answer, bases⟩ := importRow_related alike defaults version row lookups insertions
    fun normal fields isNormal made _ => by
      rcases isNormal.made_error made with ⟨_, same, _⟩ | ⟨_, _, lone, _⟩
      · cases same
      · exact absurd lone paired
  exact ⟨answer, bases⟩

/-- The rows of a sheet come to the same in both rule bases. -/
theorem importAfter_agree {rows : List Row} (alike : a.Alike b)
    (paired : ∀ row ∈ rows, ¬ HasUnpaired row)
    (small : (integersAfter defaults version a rows).all fits = true) (report : Report) :
    Agree (importAfter defaults version report a rows) (importAfter defaults version report b rows) := by
  -- After each row the rule bases keep the same again, which carries the induction.
  induction rows generalizing a b report with
  | nil => exact ⟨rfl, alike⟩
  | cons row rest ih =>
    rw [List.forall_mem_cons] at paired
    rw [integersAfter, List.all_append, Bool.and_eq_true] at small
    obtain ⟨nextA, nextB, answer, callA, callB, bases⟩ :=
      (importRow_agree alike paired.1 small.1).exists_answer
    rw [importAfter, importAfter, callA, callB]
    rw [callA] at small
    cases answer with
    | error failure => exact ⟨rfl, bases⟩
    | ok outcome => exact ih bases paired.2 small.2 _

theorem importRows_agree {rows : List Row} (alike : a.Alike b) (defaults : Defaults)
    (paired : ∀ row ∈ rows, ¬ HasUnpaired row)
    (small : (integersOf a defaults rows).all fits = true) :
    Agree (importRows a defaults rows) (importRows b defaults rows) := by
  rw [importRows, importRows, ← alike.resolveVersion_eq]
  cases resolved : Resolve.resolveVersion a.stores .null defaults.version with
  | error failure => exact ⟨rfl, alike⟩
  | ok version =>
    simp only [integersOf, resolved] at small
    exact importAfter_agree alike paired small {}

theorem importRead_agree {rows : List Row} (alike : a.Alike b) (defaults : Defaults)
    (paired : ∀ row ∈ rows, ¬ HasUnpaired row)
    (small : (integersOf a defaults rows).all fits = true) :
    Agree (importRead a defaults rows) (importRead b defaults rows) := by
  obtain ⟨nextA, nextB, answer, callA, callB, bases⟩ :=
    (importRows_agree alike defaults paired small).exists_answer
  rw [importRead, importRead, callA, callB]
  cases answer <;> exact ⟨rfl, bases⟩

theorem importCsv_agree {text : String} (alike : a.Alike b) (defaults : Defaults)
    (small : (integersOf a defaults ((rowsOfCsv text).toOption.getD [])).all fits = true) :
    Agree (importCsv a defaults text) (importCsv b defaults text) := by
  rw [importCsv, importCsv]
  cases read : rowsOfCsv text with
  | error fault => exact ⟨rfl, alike⟩
  | ok rows =>
    rw [read] at small
    exact importRead_agree alike defaults (fun _ member => (readable_of_csv read member).paired) small

theorem importPayload_agree {payload : Payload} (alike : a.Alike b) (defaults : Defaults)
    (paired : ∀ row ∈ (rowsOfPayload payload).toOption.getD [], ¬ HasUnpaired row)
    (small : (integersOf a defaults ((rowsOfPayload payload).toOption.getD [])).all fits = true) :
    Agree (importPayload a defaults payload) (importPayload b defaults payload) := by
  rw [importPayload, importPayload]
  cases read : rowsOfPayload payload with
  | error fault =>
    simp only
    split <;> exact ⟨rfl, alike⟩
  | ok rows =>
    rw [read] at small paired
    exact importRead_agree alike defaults paired small

end Sheet

/-! ### Steps -/

/-- The step is one of those that services and their users take: rules come without ids and are asked
for by their ids, and a search lists all rules. -/
def Step.isPlain : Step → Bool
  | .insert rule => rule.id == none || rule.id == some ""
  | .get (.text _) | .search [] => true
  | .update _ | .deleteAll | .count | .addHost _ | .addVersion _ | .clearVersions | .advance _
  | .resolve _ | .findRule _ _ _ | .importRows _ | .importCsv _ | .importPayload _
  | .importDirect _ => true
  | _ => false

/-- The rows that come with a step as values. -/
def Step.sheet [Platform] : Step → Except Sheet.PayloadFault (List Sheet.Row)
  | .importRows rows | .importDirect rows => .ok rows
  | .importPayload payload => Sheet.rowsOfPayload payload
  | _ => .ok []

namespace Session

section

variable [Platform]

/-- The integers that come to the stores in a step. -/
def integers (session : Session) (step : Step) : List Int :=
  let written := match step with
    | .insert rule => rule.integers
    | .update rule => if rule.id.isSome then rule.integers else []
    | .addVersion version => [version.number]
    | .resolve request =>
      match Resolve.reply session.base session.resolution session.clock request with
      | .ok reply => (reply.access.map (·.millis)).toList
      | .error _ => []
    | _ => []
  written ++ Sheet.integersOf session.base session.import_ ((session.rowsOf (.step step)).map (·.2))

/-- The sessions keep the same, at the same instant and with the same defaults, and note accesses at
once. -/
structure Alike (a b : Session) : Prop where
  bases : a.base.Alike b.base
  clock : a.clock = b.clock
  resolution : a.resolution = b.resolution
  import_ : a.import_ = b.import_
  prompt : a.defers = false ∧ b.defers = false

variable {a b : Session}

omit [Platform] in
theorem after_agree (alike : a.Alike b) {callA callB : RuleBase × Except Failure α}
    (calls : Agree callA callB) (result : α → Result) :
    (a.after result callA).2 = (b.after result callB).2 ∧
      (a.after result callA).1.Alike (b.after result callB).1 :=
  ⟨by rw [after, after, calls.answer], { alike with bases := calls.bases }⟩

omit [Platform] in
theorem imported_agree (alike : a.Alike b)
    {callA callB : RuleBase × Except Sheet.Refusal Sheet.Summary} (calls : Agree callA callB) :
    (a.imported callA).2 = (b.imported callB).2 ∧ (a.imported callA).1.Alike (b.imported callB).1 :=
  ⟨by rw [imported, imported, calls.answer], { alike with bases := calls.bases }⟩

omit [Platform] in
theorem asked_agree (alike : a.Alike b) {answerA answerB : Except Failure α}
    (answers : answerA = answerB) (result : α → Result) :
    (a.asked result answerA).2 = (b.asked result answerB).2 ∧
      (a.asked result answerA).1.Alike (b.asked result answerB).1 :=
  ⟨by rw [asked, asked, answers], alike⟩

omit [Platform] in
theorem record_prompt (prompt : a.defers = false) (access : Resolve.Access) :
    a.record access = { a with base := Resolve.note a.base access } := by
  rw [record, prompt]
  rfl

theorem resolve_agree (alike : a.Alike b) {request : Resolve.Request}
    (small : (a.integers (.resolve request)).all fits = true) :
    (a.resolve request).2 = (b.resolve request).2 ∧
      (a.resolve request).1.Alike (b.resolve request).1 := by
  have same : Resolve.reply a.base a.resolution a.clock request =
      Resolve.reply b.base b.resolution b.clock request := by
    rw [alike.bases.reply_eq, alike.resolution, alike.clock]
  simp only [Session.resolve, ← same]
  cases answered : Resolve.reply a.base a.resolution a.clock request with
  | error refusal => exact ⟨rfl, alike⟩
  | ok reply =>
    simp only
    cases noted : reply.access with
    | none => exact ⟨rfl, alike⟩
    | some access =>
      simp only [integers, answered, noted, List.all_append, Bool.and_eq_true] at small
      have fitting : fits access.millis = true := by
        simpa using small.1
      have bases := ((note_uniform fitting).agree alike.bases).bases
      simp only [record_prompt alike.prompt.1, record_prompt alike.prompt.2]
      exact ⟨trivial, { alike with bases }⟩

omit [Platform] in
theorem rows_taken (session : Session) (rows : List Sheet.Row) :
    (rowsOf.taken session rows).map (·.2) = rows := by
  simp [rowsOf.taken]

/-- A step gives the same result in sessions that keep the same, and they keep the same after it. -/
theorem step_agree (alike : a.Alike b) {step : Step} (plain : step.isPlain = true)
    (paired : Sheet.ArePaired step.sheet) (small : (a.integers step).all fits = true) :
    (a.step step).2 = (b.step step).2 ∧ (a.step step).1.Alike (b.step step).1 := by
  have written := small
  simp only [integers, List.all_append, Bool.and_eq_true] at written
  obtain ⟨own, sheet⟩ := written
  -- Calls that change something are uniform, questions are answered alike, and an import goes
  -- through its rows.
  cases step with
  | insert rule =>
    have blank : rule.id = none ∨ rule.id = some "" := by
      simpa [Step.isPlain] using plain
    exact after_agree alike ((insert_uniform blank own).agree alike.bases) _
  | update rule =>
    have fitting : rule.id.isSome = true → rule.integers.all fits = true := by
      intro named
      simpa only [named, if_true] using own
    exact after_agree alike ((update_uniform fitting).agree alike.bases) _
  | get id =>
    cases id with
    | text id => exact asked_agree alike (alike.bases.get_eq id) _
    | _ => cases plain
  | deleteAll => exact after_agree alike (deleteAll_uniform.agree alike.bases) _
  | count => exact asked_agree alike alike.bases.count_eq _
  | search criteria =>
    cases criteria with
    | nil => exact asked_agree alike alike.bases.listing_eq _
    | cons => cases plain
  | addHost policy => exact after_agree alike ((addHost_uniform policy).agree alike.bases) _
  | addVersion version =>
    have fitting : fits version.number = true := by
      simpa using own
    exact after_agree alike ((addVersion_uniform fitting).agree alike.bases) _
  | clearVersions => exact after_agree alike (clearVersions_uniform.agree alike.bases) _
  | advance seconds =>
    have clock : a.clock + seconds = b.clock + seconds := by rw [alike.clock]
    exact ⟨by simp only [Session.step, advance, clock], { alike with clock }⟩
  | resolve request =>
    obtain ⟨answers, after⟩ := resolve_agree alike small
    exact ⟨by simp only [Session.step, answers], after⟩
  | findRule path need ignoreSlash =>
    exact ⟨by simp only [Session.step, alike.bases.findRule_eq], alike⟩
  | importRows rows =>
    simp only [rowsOf, rows_taken] at sheet
    have calls := Sheet.importRead_agree alike.bases a.import_ paired sheet
    simp only [Session.step, ← alike.import_]
    exact imported_agree alike calls
  | importCsv text =>
    simp only [rowsOf, rows_taken] at sheet
    have calls := Sheet.importCsv_agree alike.bases a.import_ sheet
    simp only [Session.step, ← alike.import_]
    exact imported_agree alike calls
  | importPayload payload =>
    simp only [rowsOf, rows_taken] at sheet
    have texts : ∀ row ∈ (Sheet.rowsOfPayload payload).toOption.getD [], ¬ Sheet.HasUnpaired row := by
      rw [Step.sheet] at paired
      cases read : Sheet.rowsOfPayload payload with
      | error fault => exact fun _ member => nomatch member
      | ok rows =>
        rw [read] at paired
        exact paired
    have calls := Sheet.importPayload_agree alike.bases a.import_ texts sheet
    simp only [Session.step, ← alike.import_]
    exact imported_agree alike calls
  | importDirect rows =>
    simp only [rowsOf, rows_taken] at sheet
    have calls := Sheet.importRows_agree alike.bases a.import_ paired sheet
    simp only [Session.step, ← alike.import_]
    exact after_agree alike calls _
  | _ => cases plain

/-! ### Sessions -/

/-- The results of steps taken one after the other. -/
def outcomes (session : Session) : List Step → List (Except Refusal Result)
  | [] => []
  | step :: rest => (session.step step).2 :: (session.step step).1.outcomes rest

/-- The integers that come to the stores in steps taken one after the other. -/
def integersOf (session : Session) : List Step → List Int
  | [] => []
  | step :: rest => session.integers step ++ (session.step step).1.integersOf rest

/-- Sessions that keep the same give the same results in all steps. -/
theorem outcomes_agree (alike : a.Alike b) {steps : List Step}
    (plain : ∀ step ∈ steps, step.isPlain = true) (paired : ∀ step ∈ steps, Sheet.ArePaired step.sheet)
    (small : (a.integersOf steps).all fits = true) : a.outcomes steps = b.outcomes steps := by
  induction steps generalizing a b with
  | nil => rfl
  | cons step rest ih =>
    rw [integersOf, List.all_append, Bool.and_eq_true] at small
    rw [List.forall_mem_cons] at plain paired
    obtain ⟨result, after⟩ := step_agree alike plain.1 paired.1 small.1
    rw [outcomes, outcomes, result, ih after plain.2 paired.2 small.2]

/-- A session in memory and one in the tables that the scripts make give the same results, step by
step, as long as the integers that come to the stores fit in a cell and the texts are of characters. -/
theorem outcomes_eq (path : String) (clock : Int) (resolution : Resolve.Defaults)
    (import_ : Sheet.Defaults) {steps : List Step} (plain : ∀ step ∈ steps, step.isPlain = true)
    (paired : ∀ step ∈ steps, Sheet.ArePaired step.sheet)
    (small : (integersOf { base := { stores := .memory {} }, clock, resolution, import_ } steps).all
      fits = true) :
    outcomes { base := { stores := .memory {} }, clock, resolution, import_ } steps =
      outcomes
        { base :=
            { stores := .tables path (.present (Store.migrate Store.serviceScripts {}).1) },
          clock, resolution, import_ } steps := by
  -- At first, neither session keeps anything.
  have sound : Ledger.Sound ⟨[], [], fun _ => none, 0⟩ :=
    ⟨List.nodup_nil, fun _ member => nomatch member⟩
  have bases : RuleBase.Alike { stores := .memory {} }
      { stores := .tables path (.present (Store.migrate Store.serviceScripts {}).1) } :=
    ⟨_, sound, ⟨⟨[], .memory {}, fun _ => rfl⟩, rfl, rfl⟩,
      ⟨⟨[], .tables migrate_inTables, fun _ => rfl⟩, rfl, rfl⟩⟩
  have alike : Session.Alike { base := { stores := .memory {} }, clock, resolution, import_ }
      { base :=
          { stores := .tables path (.present (Store.migrate Store.serviceScripts {}).1) },
        clock, resolution, import_ } :=
    { bases, clock := rfl, resolution := rfl, import_ := rfl, prompt := ⟨rfl, rfl⟩ }
  exact outcomes_agree alike plain paired small

end

attribute [local instance] Platform.usual

/-- A rule is added and changed, a sheet with a path that comes twice is imported, the active version
and the policy of a host are set, and a request is answered twice while time passes. -/
theorem outcomes_eq_of_changes :
    let row (path : String) : Sheet.Row := [("path", .text path), ("redirectURL", .text "/to")]
    let rule : Rule := ⟨none, "/old", "", 0, "/to", 301, none, none, none, false, none⟩
    let steps : List Step := [.insert rule, .update { rule with id := some "id-1", path := "/new" },
      .update { rule with id := some "id-7" }, .importRows [row "/a", row "/b", row "/a"],
      .resolve { path := "/a" }, .advance 60, .resolve { path := "/a" }, .get (.text "id-2"),
      .addHost ⟨"shop", true⟩, .addVersion ⟨2⟩, .resolve { path := "http://shop/a" }, .search [],
      .clearVersions, .count, .deleteAll]
    (∀ step ∈ steps, step.isPlain = true) ∧ (∀ step ∈ steps, Sheet.ArePaired step.sheet) ∧
      (integersOf { base := { stores := .memory {} }, clock := 1750000000 } steps).all fits = true ∧
      outcomes { base := { stores := .memory {} }, clock := 1750000000 } steps =
        outcomes
          { base :=
              { stores := .tables "rules.db" (.present (Store.migrate Store.serviceScripts {}).1) },
            clock := 1750000000 } steps := by
  intro row rule steps
  have plain : ∀ step ∈ steps, step.isPlain = true := by decide
  have paired : ∀ step ∈ steps, Sheet.ArePaired step.sheet := by decide +kernel
  have small : (integersOf { base := { stores := .memory {} }, clock := 1750000000 } steps).all
      fits = true := by decide +kernel
  exact ⟨plain, paired, small, outcomes_eq "rules.db" 1750000000 {} {} plain paired small⟩

/-- A text with half of a pair of surrogates, as the id of a rule that is asked for and as the pattern
of a rule in a sheet. In memory no rule has that id; a table takes neither the id nor the pattern. -/
theorem outcomes_part_at_surrogate :
    let lone : Text.Unpaired := ⟨[0x2F, 0x61, 0xD800], rfl⟩
    let sheet := "[\x7b\"path\": \"/a\\ud800\", \"redirectURL\": \"/b\", \"isRegex\": true\x7d]"
    let tables : List Sql.Table := [⟨"rules", []⟩, ⟨"hosts", []⟩, ⟨"versions", []⟩]
    let here : Session := { base := { stores := .memory {} }, clock := 0 }
    let there : Session :=
      { base := { stores := .tables "rules.db" (.present { tables }) }, clock := 0 }
    let failure (outcome : Except Refusal Result) : Option Failure :=
      match outcome with
      | .error (.store failure) | .error (.sheet (.store failure)) => some failure
      | _ => none
    here.outcomes [.get (.unpaired lone)] = [.ok (.rule none)] ∧
      (there.outcomes [.get (.unpaired lone)]).map failure = [some (.unencodable lone)] ∧
      (there.outcomes [.importPayload (.text sheet)]).map failure = [some (.unencodable lone)] ∧
      here.outcomes [.importPayload (.text sheet)] ≠ there.outcomes [.importPayload (.text sheet)] := by
  intro lone sheet tables here there failure
  have refused : (there.outcomes [.importPayload (.text sheet)]).map failure =
      [some (.unencodable lone)] := by decide +kernel
  refine ⟨rfl, by decide +kernel, refused, fun same => ?_⟩
  have other : (here.outcomes [.importPayload (.text sheet)]).map failure ≠
      [some (.unencodable lone)] := by decide +kernel
  rw [same] at other
  exact other refused

end Session
end Signpost
