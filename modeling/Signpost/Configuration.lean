import Signpost.Resolve.Request
import Signpost.Sheet.Entry
import Signpost.Yaml.Document

/-!
# Configuration

A configuration says where the stores are kept, what holds where requests and sheets say nothing,
and how much is logged. It is read from a file; what the file leaves out has a default.
-/
namespace Signpost

open Store (FileFault Folder)

/-- Where the stores are kept. -/
inductive Backend
  | database
  | memory
  deriving DecidableEq, Repr, Inhabited

/-- The name of a backend. -/
def Backend.name : Backend → String
  | database => "sqlite"
  | memory => "memory"

/-- A backend read by its name. -/
def Backend.read : Schema.Reader Backend := fun value => do
  let name ← Schema.choice [database.name, memory.name] value
  return if name == memory.name then memory else database

/-- Where the stores are kept, and the path of their database. -/
structure Storage where
  backend : Backend := .database
  path : String := "./data/redirector.db"
  deriving DecidableEq, Repr, Inhabited

/-- What holds where requests and sheets say nothing; the interval between two accesses that are
noted is in seconds. -/
structure Resolution where
  version : Int := 0
  hostOnly : Bool := false
  status : Int := 301
  interval : Int := 30
  deriving DecidableEq, Repr, Inhabited

/-- A configuration. -/
structure Configuration where
  storage : Storage := {}
  resolution : Resolution := {}
  level : String := "INFO"
  deriving DecidableEq, Repr, Inhabited

/-- The defaults of requests. -/
def Resolution.forRequests (resolution : Resolution) : Resolve.Defaults :=
  ⟨resolution.version, resolution.hostOnly, resolution.interval⟩

/-- The defaults of sheets. -/
def Resolution.forSheets (resolution : Resolution) : Sheet.Defaults :=
  ⟨resolution.version, resolution.status⟩

/-- The levels of logging, the most talkative first. -/
def levels : List String := ["DEBUG", "INFO", "WARNING", "ERROR", "CRITICAL"]

/-- Where the stores are kept, read from an object. -/
def Storage.ofValue (value : Value) : Schema.Checked Storage := do
  let fields ← Schema.object value
  Schema.Checked.make Storage.mk
    |>.ap (Schema.optional (.only "backend") .database Backend.read fields)
    |>.ap (Schema.optional (.only "db_path") ({} : Storage).path Schema.text fields)

/-- The defaults, read from an object. The status is that of a redirection. -/
def Resolution.ofValue (value : Value) : Schema.Checked Resolution := do
  let fields ← Schema.object value
  Schema.Checked.make Resolution.mk
    |>.ap (Schema.optional (.only "default_version") 0 Schema.integer fields)
    |>.ap (Schema.optional (.only "default_host_only") false Schema.truth fields)
    |>.ap (Schema.optional (.only "default_status_code") 301
      (Schema.bounded (some 300) (some 399)) fields)
    |>.ap (Schema.optional (.only "last_accessed_interval_seconds") 30
      (Schema.bounded (some 0) none) fields)

/-- The level of logging, read from an object. -/
def levelOfValue (value : Value) : Schema.Checked String := do
  Schema.optional (.only "level") "INFO" (Schema.choice levels) (← Schema.object value)

namespace Configuration

/-- A configuration read from an object. -/
def ofValue (value : Value) : Schema.Checked Configuration := do
  let fields ← Schema.object value
  Schema.Checked.make Configuration.mk
    |>.ap (Schema.section_ "store" {} Storage.ofValue fields)
    |>.ap (Schema.section_ "resolution" {} Resolution.ofValue fields)
    |>.ap (Schema.section_ "logging" "INFO" levelOfValue fields)

/-- The configuration as an object. -/
def toValue (configuration : Configuration) : Value :=
  let storage := configuration.storage
  let resolution := configuration.resolution
  .object [
    ("store", .object [("backend", .text storage.backend.name), ("db_path", .text storage.path)]),
    ("resolution", .object [("default_version", .int resolution.version),
      ("default_host_only", .bool resolution.hostOnly),
      ("default_status_code", .int resolution.status),
      ("last_accessed_interval_seconds", .int resolution.interval)]),
    ("logging", .object [("level", .text configuration.level)])]

/-- Why there is no configuration. -/
inductive Fault
  | missing (path : String)
  | file (fault : FileFault)
  | text (fault : Yaml.Fault)
  | invalid (problems : List Schema.Problem)
  deriving DecidableEq, Repr

/-- What is said where there is no configuration. -/
def Fault.message : Fault → String
  | missing path => "Config file not found at: " ++ path
  | file fault => fault.message
  | text .malformed => "Invalid YAML syntax in config file"
  | text (.unreadable message) => message
  | text (.unknownWord word) => word
  | text .unpaired => "a text is none of characters"
  | invalid _ => "Config validation failed"

/-- The fault is one of the configuration: of its text, its values, or its being text at all. -/
def Fault.isForeseen : Fault → Bool
  | text (.unknownWord _) | missing _ => false
  | file (.notText _) => true
  | file _ => false
  | _ => true

/-- A configuration read from a text; an empty one leaves out everything. -/
def ofText (text : String) : Except Fault Configuration := do
  let value ← (Yaml.read text).mapError Fault.text
  let value := match value with
    | .null => .object []
    | value => value
  (ofValue value).mapError Fault.invalid

/-- The configuration in a file. -/
def load (folder : Folder) (path : String) : Except Fault Configuration := do
  if !folder.holds path then .error (.missing (Store.tidyPath path))
  else ofText (← (folder.readText path).mapError Fault.file)

/-- The configuration in a file, or the defaults if there is no such file. -/
def loadOrDefault (folder : Folder) (path : String) : Except Fault Configuration :=
  if folder.holds path then load folder path else .ok {}

end Configuration
end Signpost
