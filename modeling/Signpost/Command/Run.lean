import Signpost.Command.Help
import Signpost.Command.Invocation
import Signpost.Configuration
import Signpost.Json.Writer
import Signpost.Sheet.Import

/-!
# Commands carried out

A command works on the folder that it is called in. `run` gives the workspace after it, with what it
prints and the code that it ends with, or with the fault that it did not foresee. What is wrong with
a configuration, a sheet or a store is foreseen and ends a command with code 1.
-/
namespace Signpost.Command

open Store (DatabaseFile Failure FileFault Folder)

/-- What commands work on: a folder and the number of ids given out. -/
structure Workspace where
  folder : Folder := {}
  issued : Nat := 0
  deriving Repr, Inhabited

/-- The end of a command: what it prints and its code. -/
structure Ending where
  output : String
  code : Nat
  deriving DecidableEq, Repr, Inhabited

/-- A fault that a command does not foresee. -/
inductive Fault
  | configuration (fault : Configuration.Fault)
  | file (fault : FileFault)
  | store (failure : Failure)
  | sheet (refusal : Sheet.Refusal)
  | resolve (refusal : Resolve.Refusal)
  deriving Repr

/-- What a command does: the workspace after it, and its end. -/
abbrev Done := Workspace × Except Fault Ending

/-- The end of a command that did its work. -/
def printed (lines : List String) : Except Fault Ending :=
  .ok ⟨String.join (lines.map (· ++ "\n")), 0⟩

/-- The end of a command that could not do its work. -/
def failed : Except Fault Ending := .ok ⟨"", 1⟩

/-- The end of a command on whose stores a call failed. -/
def storeEnding (failure : Failure) : Except Fault Ending :=
  if failure.isOwn then failed else .error (.store failure)

namespace Workspace

/-- The rules and the rest of what a database holds. -/
def base (workspace : Workspace) (path : String) : RuleBase where
  stores := .tables path (workspace.folder.databaseFile path)
  issued := workspace.issued

/-- The workspace after work on what a database holds. -/
def keep (workspace : Workspace) (path : String) (base : RuleBase) : Workspace :=
  match base.stores with
  | .tables _ file => ⟨workspace.folder.keep path file, base.issued⟩
  | .memory _ => { workspace with issued := base.issued }

/-- A call on what a database holds, with the lines to print after it. -/
def call (workspace : Workspace) (path : String) (lines : α → List String)
    (work : RuleBase → RuleBase × Except Failure α) : Done :=
  let (base, result) := work (workspace.base path)
  let ending := match result with
    | .ok x => printed (lines x)
    | .error failure => storeEnding failure
  (workspace.keep path base, ending)

/-- The tables of a database made. -/
def migrate (workspace : Workspace) (path : String) : Done :=
  let (folder, names) := workspace.folder.migrate path
  let ending := match names with
    | .error fault => .error (.file fault)
    | .ok [] => printed ["Database is up to date."]
    | .ok names =>
      printed ["Applied " ++ Number.decimal names.length ++ " migration(s): "
        ++ ", ".intercalate names]
  ({ workspace with folder }, ending)

end Workspace

/-- The last part of a path from its last dot on; a dot at either end of it does not count. -/
def extension (path : String) : String :=
  let name := Text.afterLast '/' (Store.tidyPath path).toList
  let ending := Text.afterLast '.' name
  if ending.isEmpty || ending.length + 1 ≥ name.length then ""
  else String.ofList ('.' :: ending.map Text.toAsciiLower)

/-- The path of a row that was skipped. -/
def skippedPath (skip : Sheet.Skip) : Value :=
  (skip.item.lookup "path").getD (.text "")

/-- The lines that tell of an import. -/
def summaryLines (report : Sheet.Report) : List String :=
  report.message :: report.skipped.map fun skip =>
    "  skipped (" ++ skip.reason ++ "): " ++ (skippedPath skip).display

variable [Platform]

/-- Why a row that was skipped cannot be told of, if it cannot. -/
def unprinted? (skip : Sheet.Skip) : Option Failure :=
  if (skippedPath skip).isUnpaired then some .unspoken
  else (Sheet.unshown? (skippedPath skip)).map .unshown

/-- The end of an import. -/
def importEnding : Except Sheet.Refusal Sheet.Summary → Except Fault Ending
  | .ok summary =>
    if !summary.errors.isEmpty then failed
    else
      match summary.report.skipped.findSome? unprinted? with
      | some failure => .error (.store failure)
      | none => printed (summaryLines summary.report)
  | .error (.store failure) => storeEnding failure
  | .error refusal => .error (.sheet refusal)

namespace Workspace

/-- A sheet imported. -/
def load (workspace : Workspace) (database : String) (defaults : Sheet.Defaults)
    (path : String) : Done :=
  if !workspace.folder.holds path then (workspace, failed)
  else
    match workspace.folder.readText path with
    | .error fault => (workspace, .error (.file fault))
    | .ok text =>
      let (base, result) :=
        if extension path == ".csv" then
          Sheet.importCsv (workspace.base database) defaults text
        else Sheet.importPayload (workspace.base database) defaults (.text text)
      let kept := match result with
        | .ok _ | .error (.store _) => workspace.keep database base
        | .error _ => workspace
      (kept, importEnding result)

/-- A sheet written as JSON. -/
def convert (workspace : Workspace) (source target : String) : Done :=
  if !workspace.folder.holds source then (workspace, failed)
  else
    match workspace.folder.readText source with
    | .error fault => (workspace, .error (.file fault))
    | .ok text =>
      match Sheet.rowsOfCsv text with
      | .error _ => (workspace, failed)
      | .ok rows =>
        match workspace.folder.writeText target (Json.writeIndented (Sheet.documentOf rows)) with
        | .error fault => (workspace, .error (.file fault))
        | .ok folder =>
          ({ workspace with folder },
            printed ["Wrote " ++ Number.decimal rows.length ++ " rows to " ++ target])

/-- A path asked about; an access is noted at once. -/
def check (workspace : Workspace) (database : String) (defaults : Resolve.Defaults) (now : Int)
    (question : Question) : Done :=
  let request : Resolve.Request :=
    { path := question.path, host := question.host, version := .ofOption .int question.version,
      hostOnly := if question.hostOnly then some true else none, instant := question.instant,
      matchQuery := question.matchQuery, ignoreSlash := question.ignoreSlash }
  let base := workspace.base database
  match Resolve.reply base defaults now request with
  | .error (.store failure) => (workspace.keep database base, storeEnding failure)
  | .error refusal => (workspace.keep database base, .error (.resolve refusal))
  | .ok reply =>
    let base := match reply.access with
      | some access => Resolve.note base access
      | none => base
    match reply.rule with
    | some rule => (workspace.keep database base, printed [Json.writeIndented rule.toPublic])
    | none =>
      (if reply.success then workspace.keep database base else workspace,
        .ok ⟨"Not found\n", 2⟩)

/-- A task carried out with a configuration. -/
def perform (workspace : Workspace) (configuration : Configuration) (database : String) (now : Int) :
    Task → Done
  | .migrate => workspace.migrate database
  | .load path => workspace.load database configuration.resolution.forSheets path
  | .clear =>
    workspace.call database
      (fun (n : Nat) => ["Deleted " ++ Number.decimal n ++ " rules."]) RuleBase.deleteAll
  | .convert source target => workspace.convert source target
  | .setVersion number =>
    workspace.call database
      (fun version => ["Active version set to " ++ Number.decimal version.number ++ "."])
      fun base => base.setVersion ⟨number⟩
  | .addHost host hostOnly =>
    workspace.call database
      (fun policy => ["Host " ++ policy.host ++ " saved (hostOnly="
        ++ (Value.bool policy.hostOnly).display ++ ")."])
      fun base => base.addHost ⟨host, hostOnly⟩
  | .check question =>
    workspace.check database configuration.resolution.forRequests now question

/-- The path of the database of an invocation. -/
def databasePath (configuration : Configuration) (invocation : Invocation) : String :=
  (invocation.database.bind Resolve.nonEmpty).getD configuration.storage.path

/-- An invocation carried out at an instant. -/
def invoke (workspace : Workspace) (now : Int) (invocation : Invocation) : Done :=
  match Configuration.loadOrDefault workspace.folder invocation.configuration with
  | .error fault =>
    (workspace, if fault.isForeseen then failed else .error (.configuration fault))
  | .ok configuration =>
    workspace.perform configuration (databasePath configuration invocation) now invocation.task

end Workspace

/-- Arguments carried out at an instant. -/
def run (workspace : Workspace) (now : Int) (arguments : List String) : Done :=
  match Invocation.ofArguments arguments with
  | .error .usage => (workspace, .ok ⟨"", 2⟩)
  | .error (.help command) => (workspace, .ok ⟨page command, 0⟩)
  | .ok invocation => workspace.invoke now invocation

end Signpost.Command
