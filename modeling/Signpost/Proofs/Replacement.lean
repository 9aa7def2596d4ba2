import Signpost.Command.Run
import Signpost.Http.Service
import Signpost.Proofs.Body
import Signpost.Proofs.Keeping

/-!
# Replacing the active versions

To make a version the active one takes two calls on the stores: all versions are removed, and the
new one is added. A request and a command do so, the command on a database in a file.

## Main result

`replacement_of_versions`: which versions are active after a request or a command, whether it
succeeds or fails.

## Proof strategy

Over a table, both calls come to one equation (`setVersion_tables`): the versions are removed in any
case, and the new one fits or not. What a command leaves in the file of a database is what the next
one finds there (`databaseFile_keep`), because a file that is put where one can be does not stand in
the way to itself.
-/
namespace Signpost

open Sql Store

/-! ### The file of a database -/

namespace Store.Folder

variable {folder : Folder} {place start : List String} {content : Content}

theorem hasFolder_put (there : folder.hasFolder start = true) :
    (folder.put place content).hasFolder start = true := by
  simp only [hasFolder, put, Bool.or_eq_true, List.any_eq_true, List.mem_append, List.mem_filter,
    List.mem_singleton] at there ⊢
  rcases there with above | ⟨file, member, inside⟩
  · exact Or.inl above
  · refine Or.inr ?_
    -- The file that made a folder of it is still there, maybe with the new content.
    by_cases same : file.1 = place
    · exact ⟨(place, content), Or.inr rfl, same ▸ inside⟩
    · exact ⟨file, Or.inl ⟨member, bne_iff_ne.mpr same⟩, inside⟩

theorem hasFolder_put_self :
    (folder.put place content).hasFolder place = folder.hasFolder place := by
  -- A file is no folder on the way to itself.
  have self : (place.isPrefixOf place && place != place) = false := by simp
  simp only [hasFolder, put, List.any_append, List.any_cons, List.any_nil, self, Bool.or_false,
    List.any_filter]
  congr 2
  funext file
  by_cases same : file.1 = place <;> simp [same]

theorem walk_put {parts : List String} {found : List String}
    (walked : folder.walk start parts = .ok found) :
    (folder.put place content).walk start parts = .ok found := by
  -- All on the way was a folder and still is one, so each part leads on as before.
  induction parts generalizing start with
  | nil => exact walked
  | cons part rest ih =>
    cases there : folder.hasFolder start with
    | false => simp [walk, there] at walked
    | true =>
      simp only [walk, there, hasFolder_put there, Bool.not_true, Bool.false_eq_true,
        if_false] at walked ⊢
      split_ifs at walked ⊢ <;> exact ih walked

theorem content?_put : (folder.put place content).content? place = some content := by
  have others : List.lookup place (folder.files.filter (·.1 != place)) = none := by
    rw [List.lookup_eq_none_iff]
    intro file member
    have apart : file.1 ≠ place := bne_iff_ne.mp (List.mem_filter.mp member).2
    simpa using apart.symm
  simp [content?, put, List.lookup_append, others]

/-- The database that was put into its file is found there. -/
theorem databaseFile_keep {path : String} {database : Database}
    (found : folder.databaseFile path = .present database) (changed : Database) :
    (folder.keep path (.present changed)).databaseFile path = .present changed := by
  simp only [databaseFile] at found ⊢
  split at found
  · cases found
  · rename_i lasting
    rw [if_neg lasting]
    cases located : folder.locate path with
    | error blocked => simp [located] at found
    | ok place =>
      cases above : folder.hasFolder place with
      | true => simp [located, above] at found
      | false =>
        -- The path leads to the same place, and there is still no folder there.
        have again : (folder.put place (.database changed)).locate path = .ok place :=
          walk_put located
        simp [keep, located, again, hasFolder_put_self, above, content?_put]

end Store.Folder

/-! ### Two calls on the store -/

/-- The rows of versions, where the stores keep them from one call to the next. -/
def Stores.versionRows : Stores → Option (List Row)
  | .memory m => some (m.versions.map ActiveVersion.row)
  | .tables _ (.present database) => (database.rows "versions").toOption
  | .tables _ _ => none

theorem Stores.present_of_versionRows {path : String} {file : DatabaseFile} {rows : List Row}
    (kept : versionRows (.tables path file) = some rows) :
    ∃ database, file = .present database ∧ database.rows "versions" = .ok rows := by
  cases file with
  | unopenable | foreign | transient => cases kept
  | present database => exact ⟨database, rfl, eq_ok_of_toOption kept⟩

/-- The stores hold versions, but cannot hold this one. -/
def Stores.Loses (stores : Stores) (version : ActiveVersion) : Prop :=
  stores.hasRoom version.number = false ∧ ∃ row rows, stores.versionRows = some (row :: rows)

/-- What becomes of stores where one version was to replace all others. -/
structure Replacement (before after : Stores) (version : ActiveVersion) (succeeded : Prop) :
    Prop where
  possible : succeeded ↔ before.versionRows.isSome ∧ before.hasRoom version.number
  replaced : succeeded → after.searchVersions [] = .ok [version]
  unchanged : ¬succeeded →
    (after.searchVersions [] = before.searchVersions [] ↔ ¬before.Loses version)

theorem Replacement.congr {before after : Stores} {version : ActiveVersion} {p q : Prop}
    (replacement : Replacement before after version p) (same : q ↔ p) :
    Replacement before after version q where
  possible := same.trans replacement.possible
  replaced done := replacement.replaced (same.mp done)
  unchanged missed := replacement.unchanged fun done => missed (same.mpr done)

theorem Replacement.of_unchanged {before : Stores} {version : ActiveVersion}
    (absent : before.versionRows = none) : Replacement before before version False where
  possible := by simp [absent]
  replaced := False.elim
  unchanged _ := by simp [Stores.Loses, absent]

section Tables

variable {database : Database} {rows : List Row}

theorem Stores.searchVersions_all (held : database.rows "versions" = .ok rows) (path : String) :
    searchVersions (.tables path (.present database)) [] = readRows versionOfRow rows := by
  have all : rows.filter (fun row => allHold row [] [] == some true) = rows := by
    simp [allHold]
  have small : database.limits.check [] = .ok () := Limits.check_of_small (Nat.zero_le _)
  simp only [searchVersions, queried, Clause.ofCriteria, Clause.ofListed, opened,
    Tables.searchVersions, Database.select, small, held, bindAll, all, Bind.bind, Except.bind,
    Except.mapError, Pure.pure, Except.pure]

theorem Store.Tables.insertVersion_eq (held : database.rows "versions" = .ok rows)
    (version : ActiveVersion) : insertVersion database version =
      if fits version.number then .ok (database.setRows "versions" (rows ++ [version.row]))
      else .error .integerTooLarge := by
  have bound : bindAll 1 (version.attributes.map (·.2)) =
      if fits version.number then .ok [.integer version.number] else .error .integerTooLarge := by
    rw [bindAll_eq (by simp [ActiveVersion.attributes, Value.isPlain])]
    simp [ActiveVersion.attributes, Value.fits, cellOf]
  simp only [insertVersion, Database.insert, held, bound, Bind.bind, Except.bind]
  cases fits version.number <;> rfl

theorem readRows_eq_nil {α : Type} {ofRow : Row → Schema.Checked α} {rows : List Row} :
    readRows ofRow rows = .ok [] ↔ rows = [] := by
  cases rows with
  | nil => exact iff_of_true rfl rfl
  | cons row rest =>
    refine iff_of_false (fun empty => ?_) (List.cons_ne_nil _ _)
    rw [readRows] at empty
    cases read : ofRow row with
    | error problems => simp [read] at empty
    | ok record => cases others : readRows ofRow rest <;> simp [read, others, Except.map] at empty

end Tables

namespace RuleBase

/-- Over a table of versions, all of them go first, and the new one comes if it fits. -/
theorem setVersion_tables {database : Database} {rows : List Row}
    (held : database.rows "versions" = .ok rows) (path : String) (issued : Nat) (faults : Faults)
    (version : ActiveVersion) :
    let emptied := database.setRows "versions" []
    setVersion ⟨.tables path (.present database), issued, faults⟩ version =
      if fits version.number then
        (⟨.tables path (.present (emptied.setRows "versions" [version.row])), issued, faults⟩,
          .ok version)
      else (⟨.tables path (.present emptied), issued, faults⟩, .error .integerTooLarge) := by
  have cleared : clearVersions ⟨.tables path (.present database), issued, faults⟩ =
      (⟨.tables path (.present (database.setRows "versions" [])), issued, faults⟩,
        .ok rows.length) := by
    simp only [clearVersions, Stores.deleteVersions, Stores.opened, Database.deleteAll, held,
      Bind.bind, Except.bind, Pure.pure, Except.pure, afterRemoval, Stores.kept]
  -- The second call starts from the emptied table, whatever it comes to.
  have added := Tables.insertVersion_eq (Database.rows_setRows_self held []) version
  simp only [setVersion, cleared, addVersion, Stores.insertVersion, Stores.changed, Stores.opened,
    added, Bind.bind, Except.bind]
  cases fits version.number <;> rfl

theorem setVersion_of_absent {stores : Stores} (absent : stores.versionRows = none) (issued : Nat)
    (faults : Faults) (version : ActiveVersion) :
    ∃ failure, setVersion ⟨stores, issued, faults⟩ version =
      (⟨stores, issued, faults⟩, .error failure) := by
  cases stores with
  | memory m => cases absent
  | tables path file =>
    cases file with
    | unopenable | foreign | transient => exact ⟨_, rfl⟩
    | present database =>
      cases held : database.rows "versions" with
      | error failure =>
        refine ⟨failure, ?_⟩
        simp only [setVersion, clearVersions, Stores.deleteVersions, Stores.opened,
          Database.deleteAll, held, Bind.bind, Except.bind, afterRemoval]
      | ok rows => simp [Stores.versionRows, held, Except.toOption] at absent

/-- The version that a replacement gives is the new one. -/
theorem eq_of_setVersion {base : RuleBase} {version replaced : ActiveVersion}
    (done : (setVersion base version).2 = .ok replaced) : replaced = version := by
  unfold setVersion at done
  split at done
  · cases done
  next cleared _ _ =>
    unfold addVersion RuleBase.after at done
    split at done
    · cases done
      rfl
    · cases done

/-- One version takes the place of all others where the stores can hold it. Where they cannot, the
others are gone nonetheless. -/
theorem replacement_setVersion (base : RuleBase) (version : ActiveVersion) :
    Replacement base.stores (base.setVersion version).1.stores version
      (base.setVersion version).2.isOk := by
  obtain ⟨stores, issued, faults⟩ := base
  cases before : stores.versionRows with
  | none =>
    obtain ⟨failure, stays⟩ := setVersion_of_absent before issued faults version
    rw [stays]
    exact (Replacement.of_unchanged before).congr (iff_of_false Bool.false_ne_true id)
  | some rows =>
    cases stores with
    | memory m =>
      refine Replacement.congr (p := True) ⟨?_, fun _ => rfl, by simp⟩ (iff_true_intro rfl)
      simp [before, Stores.hasRoom]
    | tables path file =>
      obtain ⟨database, rfl, held⟩ := Stores.present_of_versionRows before
      have emptied := Database.rows_setRows_self held []
      rw [setVersion_tables held]
      cases room : fits version.number with
      | true =>
        have shown := Stores.searchVersions_all
          (Database.rows_setRows_self emptied [version.row]) path
        refine Replacement.congr (p := True) ⟨?_, fun _ => shown, by simp⟩ (iff_true_intro rfl)
        simp [before, Stores.hasRoom, room]
      | false =>
        refine Replacement.congr (p := False) ⟨?_, False.elim, ?_⟩ (iff_of_false Bool.false_ne_true id)
        · simp [Stores.hasRoom, room]
        · -- The versions are gone, so it depends on whether there were any.
          have gone := Stores.searchVersions_all emptied path
          simp only [Bool.false_eq_true, if_false, not_false_eq_true, true_implies, gone,
            Stores.searchVersions_all held, Stores.Loses, Stores.hasRoom, room, before, true_and,
            Option.some.injEq]
          rw [eq_comm, readRows, readRows_eq_nil]
          cases rows <;> simp

end RuleBase

/-! ### Requests and commands -/

namespace Http

section

variable [Platform]

theorem respond_version {session : Session} {request : Request}
    (posted : String.ofList (request.method.toList.map Char.toUpper) = "POST")
    (asked : Route.of "POST" request.path.toList = .found .version) :
    respond session request = setVersion session request := by
  simp only [respond, posted, asked]
  rfl

/-- A response that is given in place of a record tells of no success. -/
def Unread.Refuses (unread : Unread) : Prop :=
  ∀ response, unread = .answered response → response.status ≠ 201

omit [Platform] in
theorem refuses_answered {response : Response} (other : response.status ≠ 201) :
    (Unread.answered response).Refuses := by
  rintro _ ⟨⟩
  exact other

theorem readDocument_refuses {request : Request} {response : Response}
    (refused : readDocument request = .error response) : response.status ≠ 201 := by
  simp only [readDocument] at refused
  split_ifs at refused
  split at refused
  · cases refused
    exact Nat.ne_of_beq_eq_false rfl
  · split at refused <;> cases refused <;> exact Nat.ne_of_beq_eq_false rfl

omit [Platform] in
theorem problemResponse_refuses (fields : List (String × Value)) (problems : List Schema.Problem) :
    (problemResponse fields problems).status ≠ 201 := by
  rw [problemResponse]
  split_ifs <;> exact Nat.ne_of_beq_eq_false rfl

omit [Platform] in
theorem readRecord_refuses {reader : List (String × Value) → Schema.Checked α}
    {document : Document} {unread : Unread} (refused : readRecord reader document = .error unread) :
    unread.Refuses := by
  unfold readRecord at refused
  split at refused
  · cases refused
    exact refuses_answered (by decide)
  · cases refused
    exact refuses_answered (by decide)
  · rename_i fields
    cases read : reader fields with
    | error problems =>
      rw [read] at refused
      cases refused
      unfold Unread.ofProblems
      split_ifs
      · exact nofun
      · exact refuses_answered (problemResponse_refuses fields _)
    | ok record => simp [read, Except.mapError] at refused
  · cases refused
    refine refuses_answered ?_
    split_ifs <;> exact Nat.ne_of_beq_eq_false rfl
  · split at refused <;> cases refused <;> exact refuses_answered (by decide)

/-- A body that is not read as a record is refused by a response of its own, if one is told. -/
theorem readBody_refuses {request : Request} {reader : Value → Schema.Checked α}
    {unread : Unread} (refused : readBody request reader = .error unread) : unread.Refuses := by
  rw [readBody] at refused
  cases read : readDocument request with
  | error other =>
    rw [read] at refused
    cases refused
    exact refuses_answered (readDocument_refuses read)
  | ok document =>
    rw [read] at refused
    exact readRecord_refuses refused

/-- A version that is read from a body is short enough to be sent back. -/
theorem isShort_of_readBody {request : Request} {version : ActiveVersion}
    (read : readBody request ActiveVersion.ofValue = .ok version) :
    Schema.IsShort version.number := by
  obtain ⟨fields, made, shown⟩ := exists_fields_of_readBody read
  simp only [ActiveVersion.ofValue, Schema.object, Bind.bind, Except.bind] at made
  cases asked : Schema.required ⟨"activeVersion", "active_version"⟩ Schema.integer fields with
  | error problems =>
    rw [asked] at made
    cases made
  | ok number =>
    rw [asked] at made
    cases made
    obtain ⟨entry, present, number⟩ := Schema.exists_of_required asked
    exact Schema.isShort_of_integer (shown entry present) number

theorem replacement_of_body {session : Session} {request : Request} {version : ActiveVersion}
    (read : readBody request ActiveVersion.ofValue = .ok version) :
    Replacement session.base.stores (setVersion session request).1.base.stores version
      ((setVersion session request).2.status = 201) := by
  have replacement := session.base.replacement_setVersion version
  simp only [setVersion, read, answer]
  refine replacement.congr ?_
  cases done : (session.base.setVersion version).2 with
  | ok replaced =>
    have short : replaced.number.natAbs < Number.powerOfTen Number.digitLimit :=
      RuleBase.eq_of_setVersion done ▸ isShort_of_readBody read
    have sent : Json.isSendable (.object replaced.publicFields) = true := by
      simp [ActiveVersion.publicFields, Json.isSendable, Json.fieldsAreSendable, short]
    simp [Response.ofCall, Response.json, sent, Except.isOk, Except.toBool]
  | error failure =>
    refine iff_of_false ?_ Bool.false_ne_true
    simp only [Response.ofCall, Response.ofFailure]
    split_ifs <;> exact Nat.ne_of_beq_eq_false rfl

theorem setVersion_refuses {session : Session} {request : Request} {unread : Unread}
    (refused : readBody request ActiveVersion.ofValue = .error unread) :
    (setVersion session request).1 = session ∧ (setVersion session request).2.status ≠ 201 := by
  rw [setVersion, refused]
  cases unread with
  | answered response => exact ⟨rfl, readBody_refuses refused response rfl⟩
  | unpaired => exact ⟨rfl, Nat.ne_of_beq_eq_false rfl⟩

end

end Http

namespace Command

namespace Workspace

theorem base_keep {workspace : Workspace} {path : String} {base : RuleBase} {file : DatabaseFile}
    (left : base.stores = .tables path file)
    (kind : file = workspace.folder.databaseFile path ∨ ∃ found changed,
      workspace.folder.databaseFile path = .present found ∧ file = .present changed) :
    ((workspace.keep path base).base path).stores = base.stores := by
  simp only [keep, left, Workspace.base]
  cases file with
  | present changed =>
    -- A database is put back only where one could be opened.
    have found : ∃ found, workspace.folder.databaseFile path = .present found := by
      rcases kind with same | ⟨found, _, present, _⟩
      · exact ⟨changed, same.symm⟩
      · exact ⟨found, present⟩
    obtain ⟨found, present⟩ := found
    rw [Folder.databaseFile_keep present]
  | unopenable | foreign | transient =>
    rcases kind with same | ⟨_, _, _, other⟩
    · rw [Folder.keep, ← same]
      exact nofun
    · cases other

theorem setVersion_kept (workspace : Workspace) (path : String) (version : ActiveVersion) :
    (((workspace.keep path ((workspace.base path).setVersion version).1)).base path).stores =
      ((workspace.base path).setVersion version).1.stores := by
  cases before : (workspace.base path).stores.versionRows with
  | none =>
    obtain ⟨failure, stays⟩ :=
      RuleBase.setVersion_of_absent before workspace.issued {} version
    change RuleBase.setVersion (workspace.base path) version = (workspace.base path, _) at stays
    rw [stays]
    exact base_keep rfl (Or.inl rfl)
  | some rows =>
    obtain ⟨database, present, held⟩ := Stores.present_of_versionRows before
    have done := RuleBase.setVersion_tables held path workspace.issued {} version
    rw [← present] at done
    change RuleBase.setVersion (workspace.base path) version = _ at done
    rw [done]
    cases fits version.number <;> exact base_keep rfl (Or.inr ⟨database, _, present, rfl⟩)

theorem replacement_call (workspace : Workspace) (path : String) (version : ActiveVersion)
    (lines : ActiveVersion → List String) :
    let done := workspace.call path lines fun base => base.setVersion version
    Replacement (workspace.base path).stores (done.1.base path).stores version
      (∃ output, done.2 = .ok ⟨output, 0⟩) := by
  have replacement := (workspace.base path).replacement_setVersion version
  simp only [call]
  rw [setVersion_kept]
  refine replacement.congr ?_
  cases ((workspace.base path).setVersion version).2 with
  | ok replaced => exact iff_of_true ⟨_, rfl⟩ rfl
  | error failure =>
    refine iff_of_false ?_ nofun
    rintro ⟨output, ended⟩
    simp only [storeEnding, failed] at ended
    split_ifs at ended
    cases ended

end Workspace
end Command

/-! ### The main result -/

/-- A request with a version, and a command with one, make it the only active version where the
stores can hold it. A failure changes nothing, unless the stores hold versions and have no room for
the new one. Of a body nothing is said here whose response is not told. -/
theorem replacement_of_versions [Platform] (session : Session) (request : Http.Request)
    (workspace : Command.Workspace) (now : Int) (arguments : List String) :
    (String.ofList (request.method.toList.map Char.toUpper) = "POST" →
      Http.Route.of "POST" request.path.toList = .found .version →
      let (after, response) := Http.respond session request
      (∀ version, Http.readBody request ActiveVersion.ofValue = .ok version →
        Replacement session.base.stores after.base.stores version (response.status = 201)) ∧
      (∀ refusal, Http.readBody request ActiveVersion.ofValue = .error refusal →
        refusal ≠ .answered .unspoken → after = session ∧ response.status ≠ 201)) ∧
    (∀ invocation number, Command.Invocation.ofArguments arguments = .ok invocation →
      invocation.task = .setVersion number →
      let (after, ending) := Command.run workspace now arguments
      let succeeded := ∃ output, ending = .ok ⟨output, 0⟩
      let loaded := Configuration.loadOrDefault workspace.folder invocation.configuration
      (∀ configuration, loaded = .ok configuration →
        let path := Command.Workspace.databasePath configuration invocation
        Replacement (workspace.base path).stores (after.base path).stores ⟨number⟩ succeeded) ∧
      (∀ fault, loaded = .error fault → after = workspace ∧ ¬succeeded)) := by
  constructor
  · -- A body that cannot be read is refused before the first call.
    intro posted asked
    dsimp only
    rw [Http.respond_version posted asked]
    exact ⟨fun version read => Http.replacement_of_body read,
      fun refusal refused _ => Http.setVersion_refuses refused⟩
  · -- Without a configuration, there is no database to work on.
    intro invocation number parsed task
    dsimp only
    simp only [Command.run, parsed, Command.Workspace.invoke]
    constructor
    · intro configuration loaded
      simp only [loaded, task, Command.Workspace.perform]
      exact Command.Workspace.replacement_call _ _ _ _
    · intro fault missed
      simp only [missed, true_and]
      rintro ⟨output, ended⟩
      simp only [Command.failed] at ended
      split_ifs at ended
      cases ended

attribute [local instance] Platform.usual

/-- A request makes the second version active, and a command the third. -/
theorem replacement_of_versions_twice :
    let active (n : Int) : Database := { tables := [⟨"versions", [[("active_version", .integer n)]]⟩] }
    let session : Session := ⟨⟨.tables "db" (.present (active 1)), 0, {}⟩, 0, {}, {}, false, []⟩
    let request : Http.Request :=
      ⟨"POST", "/version", [], [], Text.encodeUtf8 "\x7b\"activeVersion\": 2\x7d".toList⟩
    let workspace : Command.Workspace := ⟨⟨[(["db"], .database (active 2))], []⟩, 0⟩
    let arguments := ["--db", "db", "set-version", "3"]
    (Http.respond session request).1.base.stores.searchVersions [] = .ok [⟨2⟩] ∧
      ((Command.run workspace 0 arguments).1.base "db").stores.searchVersions [] = .ok [⟨3⟩] := by
  intro active session request workspace arguments
  have body : Http.readBody request ActiveVersion.ofValue = .ok ⟨2⟩ :=
    eq_ok_of_toOption (by decide +kernel)
  have parsed : Command.Invocation.ofArguments arguments =
      .ok ⟨"config.yaml", some "db", .setVersion 3⟩ := eq_ok_of_toOption (by decide +kernel)
  have loaded : Configuration.loadOrDefault workspace.folder "config.yaml" = .ok {} :=
    if_neg (by decide +kernel)
  have both := replacement_of_versions session request workspace 0 arguments
  have asked := both.1 (by decide +kernel) (by decide +kernel)
  have stored := (both.2 _ 3 parsed rfl).1 {} loaded
  exact ⟨(asked.1 ⟨2⟩ body).replaced (by decide +kernel),
    stored.replaced (stored.possible.mpr (by decide +kernel))⟩

/-- A request with a version that the table cannot hold fails, and leaves no version at all. -/
theorem version_lost_by_request :
    let active : Database := { tables := [⟨"versions", [[("active_version", .integer 1)]]⟩] }
    let session : Session := ⟨⟨.tables "db" (.present active), 0, {}⟩, 0, {}, {}, false, []⟩
    let request : Http.Request := ⟨"POST", "/version", [], [],
      Text.encodeUtf8 "\x7b\"activeVersion\": 9223372036854775808\x7d".toList⟩
    (Http.respond session request).2.status = 500 ∧
      session.base.stores.searchVersions [] = .ok [⟨1⟩] ∧
      (Http.respond session request).1.base.stores.searchVersions [] = .ok [] := by
  exact ⟨by decide +kernel, eq_ok_of_toOption (by decide +kernel),
    eq_ok_of_toOption (by decide +kernel)⟩

end Signpost
