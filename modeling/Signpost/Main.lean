import Std.Time.DateTime.Timestamp
import Signpost.Command.Run
import Signpost.Store.Image

/-!
# The command line

The files that an invocation names are read into a workspace, the command is carried out on it, and
the files that have changed are written back.
-/
open Signpost Signpost.Command Signpost.Store

namespace Signpost.Main

/-- The text of a file, if it can be read. -/
def readText? (path : String) : IO (Option String) := do
  try return some (← IO.FS.readFile path) catch _ => return none

/-- The paths that a task reads, beside the database. -/
def readPaths : Task → List String
  | .load path => [path]
  | .convert source _ => [source]
  | _ => []

/-- The paths that a task writes, beside the database. -/
def writtenPaths : Task → List String
  | .convert _ target => [target]
  | _ => []

/-- The folder with the file at a path, if there is one, and the folders on the way to it. -/
def gather (folder : Folder) (path : String) : IO Folder := do
  match ← readText? path with
  | none => return folder
  | some text =>
    match folder.makeFolders (pathFronts (parentPath path)) with
    | .error _ => return folder
    | .ok folder =>
      match folder.locate path with
      | .ok place => return folder.put place (Image.content text)
      | .error _ => return folder

/-- The folder with the folders on the way to a path taken to be there; where they are not, the file
cannot be written in the end. -/
def presume (folder : Folder) (path : String) : Folder :=
  match folder.makeFolders (pathFronts (parentPath path)) with
  | .ok folder => folder
  | .error _ => folder

/-- What has changed is written back. -/
def restore (before after : Folder) : IO Unit := do
  for place in after.made do
    unless before.hasFolder place do
      IO.FS.createDirAll ("/".intercalate place)
  for (place, content) in after.files do
    let text := Image.textOf content
    if (before.content? place).map Image.textOf != some text then
      IO.FS.writeFile ("/".intercalate place) text

/-- The workspace that an invocation works on. -/
def workspaceOf (invocation : Invocation) : IO Workspace := do
  let folder ← gather {} invocation.configuration
  match Configuration.loadOrDefault folder invocation.configuration with
  | .error _ => return { folder }
  | .ok configuration =>
    let path := Workspace.databasePath configuration invocation
    let folder ← (path :: readPaths invocation.task).foldlM gather folder
    let folder := (writtenPaths invocation.task).foldl presume folder
    let issued :=
      match folder.databaseFile path with
      | .present database => Image.issued database
      | _ => 0
    return { folder, issued }

/-- What is said of a fault that a command does not foresee. -/
def faultMessage : Command.Fault → String
  | .configuration fault => fault.message
  | .file fault => fault.message
  | .store failure => failure.message
  | .sheet (.csv fault) => fault.message
  | .sheet (.payload fault) => fault.message
  | .sheet (.store failure) => failure.message
  | .resolve (.url malformed) => malformed.message
  | .resolve (.store failure) => failure.message
  | .resolve (.pattern fault) => fault.message

attribute [local instance] Platform.usual

/-- An invocation carried out now. -/
def carryOut (invocation : Invocation) : IO UInt32 := do
  let workspace ← workspaceOf invocation
  let now := (← Std.Time.Timestamp.now).toSecondsSinceUnixEpoch.toInt
  let (after, ending) := workspace.invoke now invocation
  restore workspace.folder after.folder
  match ending with
  | .ok ending =>
    IO.print ending.output
    return ending.code.toUInt32
  | .error fault =>
    IO.eprintln (faultMessage fault)
    return 1

end Signpost.Main

/-- The command line. -/
def main (arguments : List String) : IO UInt32 := do
  match Invocation.ofArguments arguments with
  | .ok invocation => Main.carryOut invocation
  | .error (.help command) =>
    IO.print (page command)
    return 0
  | .error .usage =>
    IO.eprint (page none)
    return 2
