import Signpost.Store.Migration
import Signpost.Store.Tables
import Signpost.Text.Line

/-!
# The working folder

The service keeps its database, its configuration and its rule sheets in files below one folder.
A file holds text or a database. A path is walked part by part: empty parts and single dots lead
nowhere new, two dots lead back, and all that a path leads through has to be a folder.
-/
namespace Signpost.Store

open Sql (Database)

/-- What a file holds. -/
inductive Content
  | text (s : String)
  | database (database : Database)
  deriving Repr

/-- The files below a folder and the folders that were made there, each by the names on the way to
it. The way to what lies elsewhere begins with a slash or with two dots. -/
structure Folder where
  files : List (List String × Content) := []
  made : List (List String) := []
  deriving Repr, Inhabited

/-- Why a file cannot be used. -/
inductive FileFault
  | missing (path : String)
  | isFolder (path : String)
  | alreadyThere (path : String)
  | throughFile (path : String)
  | notText (path : String)
  | cannotOpen
  | notADatabase
  | migration (fault : MigrationFault)
  deriving DecidableEq, Repr

/-- What is said of a file that cannot be used. -/
def FileFault.message : FileFault → String
  | missing path => "[Errno 2] No such file or directory: " ++ Text.quoted path
  | isFolder path => "[Errno 21] Is a directory: " ++ Text.quoted path
  | alreadyThere path => "[Errno 17] File exists: " ++ Text.quoted path
  | throughFile path => "[Errno 20] Not a directory: " ++ Text.quoted path
  | notText path => path ++ " holds no text"
  | cannotOpen => "unable to open database file"
  | notADatabase => "file is not a database"
  | migration fault => fault.message

/-- The texts between the slashes of a path. -/
def pathPieces (path : String) : List String :=
  (Text.pieces '/' path.toList).map String.ofList

/-- The parts of a path; the first of a path from the root is a slash. -/
def pathParts (path : String) : List String :=
  match path.toList with
  | '/' :: _ => "/" :: pathPieces path
  | _ => pathPieces path

/-- A part that leads nowhere new. -/
def isIdle (part : String) : Bool :=
  part == "" || part == "."

/-- The path without parts that lead nowhere new. -/
def tidyPath (path : String) : String :=
  match (pathParts path).filter (!isIdle ·) with
  | [] => "."
  | "/" :: parts => "/" ++ "/".intercalate parts
  | parts => "/".intercalate parts

/-- The path up to its last slash. -/
def parentPath (path : String) : String :=
  let cs := path.toList
  String.ofList (Text.dropEndWhile (· == '/')
    (cs.take (cs.length - (Text.afterLast '/' cs).length)))

/-- The paths on the way to a path, itself included, the shortest first. -/
def pathFronts (path : String) : List String :=
  (pathPieces path).zipIdx.filterMap fun (part, i) =>
    if part == "" then none else some ("/".intercalate ((pathPieces path).take (i + 1)))

namespace Folder

/-- The content of the file at a place. -/
def content? (folder : Folder) (place : List String) : Option Content :=
  folder.files.lookup place

/-- The folder itself, or one that it lies in. -/
def isAround (place : List String) : Bool :=
  place == ["/"] || place.all (· == "..")

/-- There is a folder at the place. -/
def hasFolder (folder : Folder) (place : List String) : Bool :=
  isAround place || folder.made.any (place.isPrefixOf ·)
    || folder.files.any fun file => place.isPrefixOf file.1 && place != file.1

/-- Why a path leads to no place: something on the way is missing, or is a file. -/
inductive Blocked
  | missing
  | throughFile
  deriving DecidableEq, Repr

/-- The fault of a path that is blocked. -/
def Blocked.fault (path : String) : Blocked → FileFault
  | missing => .missing path
  | throughFile => .throughFile path

/-- The place that parts lead to from another. All on the way has to be a folder; at the place
itself there need not be anything. -/
def walk (folder : Folder) (place : List String) : List String → Except Blocked (List String)
  | [] => .ok place
  | part :: rest =>
    if !folder.hasFolder place then
      .error (if (folder.content? place).isSome then .throughFile else .missing)
    else if isIdle part then folder.walk place rest
    else if part == "/" then folder.walk [part] rest
    else if part == ".." && place != ["/"] then
      folder.walk (if isAround place then place ++ [part] else place.dropLast) rest
    else if part == ".." then folder.walk place rest
    else folder.walk (place ++ [part]) rest

/-- The place that a path leads to. -/
def locate (folder : Folder) (path : String) : Except Blocked (List String) :=
  folder.walk [] (pathParts path)

/-- There is a file or a folder at the path. -/
def holds (folder : Folder) (path : String) : Bool :=
  match folder.locate (tidyPath path) with
  | .ok place => folder.hasFolder place || (folder.content? place).isSome
  | .error _ => false

/-- The folder with a file put at a place. -/
def put (folder : Folder) (place : List String) (content : Content) : Folder :=
  { folder with files := folder.files.filter (·.1 != place) ++ [(place, content)] }

/-- The folder with texts put into it, and the folders that they need. -/
def ofTexts (texts : List (String × String)) : Folder :=
  texts.foldl (fun folder (path, text) =>
    folder.put ((pathParts path).filter (!isIdle ·)) (.text text)) {}

/-- The text of the file at a path. All ends of lines are read as line feeds. -/
def readText (folder : Folder) (path : String) : Except FileFault String := do
  let path := tidyPath path
  let place ← (folder.locate path).mapError (·.fault path)
  match folder.content? place with
  | some (.text s) => return String.ofList (Text.unifyBreaks s.toList)
  | some (.database database) =>
    if database.tables.isEmpty then return "" else .error (.notText path)
  | none => .error (if folder.hasFolder place then .isFolder path else .missing path)

/-- A text written to the file at a path. -/
def writeText (folder : Folder) (path : String) (s : String) : Except FileFault Folder := do
  let path := tidyPath path
  let place ← (folder.locate path).mapError (·.fault path)
  if folder.hasFolder place then .error (.isFolder path)
  else return folder.put place (.text s)

/-- A folder made at each of the paths where there is none. A file is in the way only at the last,
or where a path leads through it. -/
def makeFolders (folder : Folder) : List String → Except FileFault Folder
  | [] => .ok folder
  | path :: rest =>
    match folder.locate path with
    | .error blocked => .error (blocked.fault path)
    | .ok place =>
      if folder.hasFolder place then folder.makeFolders rest
      else if (folder.content? place).isNone then
        { folder with made := folder.made ++ [place] }.makeFolders rest
      else if rest.isEmpty then .error (.alreadyThere path)
      else folder.makeFolders rest

end Folder

/-- The file of a database as it is found: it cannot be opened, it is no database, it is kept
nowhere and starts empty each time, or it holds a database. -/
inductive DatabaseFile
  | unopenable
  | foreign
  | transient
  | present (database : Database)
  deriving Repr, Inhabited

namespace Folder

/-- The database at a path; a file that is not there or empty is an empty database. -/
def databaseFile (folder : Folder) (path : String) : DatabaseFile :=
  if path == "" || path == ":memory:" then .transient
  else
    match folder.locate path with
    | .error _ => .unopenable
    | .ok place =>
      if folder.hasFolder place then .unopenable
      else
        match folder.content? place with
        | none => .present {}
        | some (.text s) => if s == "" then .present {} else .foreign
        | some (.database database) => .present database

/-- The folder after the database at the path was opened. -/
def keep (folder : Folder) (path : String) (file : DatabaseFile) : Folder :=
  match file, folder.locate path with
  | .present database, .ok place => folder.put place (.database database)
  | _, _ => folder

/-- Scripts carried out on the database at a path, after the folders above it are made; the names
of those done. -/
def migrateWith (files : List Migration) (folder : Folder) (path : String) :
    Folder × Except FileFault (List String) :=
  match folder.makeFolders (pathFronts (parentPath path)) with
  | .error fault => (folder, .error fault)
  | .ok folder =>
    match folder.databaseFile path with
    | .unopenable => (folder, .error .cannotOpen)
    | .foreign => (folder, .error .notADatabase)
    | .transient => (folder, (Store.migrate files {}).2.mapError FileFault.migration)
    | .present database =>
      let (database, names) := Store.migrate files database
      (folder.keep path (.present database), names.mapError FileFault.migration)

/-- The tables of the service made in the database at a path; the names of the scripts done. -/
def migrate (folder : Folder) (path : String) : Folder × Except FileFault (List String) :=
  migrateWith serviceScripts folder path

/-- The place is in the folder and not around it. -/
def isInside (place : List String) : Bool :=
  place.head? != some "/" && place.head? != some ".."

/-- The paths of all files in the folder, in order. -/
def paths (folder : Folder) : List String :=
  let names := (folder.files.filter (isInside ·.1)).map fun file => "/".intercalate file.1
  names.foldl (fun sorted name => insertName name sorted) []
where
  /-- A name put before the first that comes after it. -/
  insertName (name : String) : List String → List String
    | [] => [name]
    | other :: rest => if name < other then name :: other :: rest else other :: insertName name rest

end Folder
end Signpost.Store
