import Signpost.Configuration

/-!
# Settings

A service starts with the settings that its configuration and its environment give. To start is to
make the tables of its database, where it has one.
-/
namespace Signpost

open Store (FileFault Folder)

/-- The variables of an environment. -/
abbrev Environment := List (String × String)

/-- What a service starts with. -/
structure Settings where
  configuration : Configuration
  path : String
  level : String
  deriving DecidableEq, Repr, Inhabited

namespace Settings

/-- The settings that a folder and an environment give. The environment names the file of the
configuration, the folder of the database and the level of logging. -/
def load (folder : Folder) (environment : Environment) : Except Configuration.Fault Settings := do
  let configuration ← Configuration.loadOrDefault folder
    ((environment.lookup "REDIRECTOR_CONFIG").getD "config.yaml")
  let path := match environment.lookup "REDIRECTOR_DATA_DIR" with
    | none | some "" => configuration.storage.path
    | some parent => parent ++ "/redirector.db"
  let level := (environment.lookup "REDIRECTOR_LOG_LEVEL").getD configuration.level
  return { configuration, path, level }

/-- A fault that ends the start of a service in order: one of folders or of scripts. A database
that cannot be used at all is not foreseen. -/
def isForeseen : FileFault → Bool
  | .cannotOpen | .notADatabase => false
  | _ => true

/-- The folder after the start of a service. -/
def start (settings : Settings) (folder : Folder) : Folder × Except FileFault Unit :=
  match settings.configuration.storage.backend with
  | .memory => (folder, .ok ())
  | .database =>
    let (folder, names) := folder.migrate settings.path
    (folder, names.map fun _ => ())

/-- The stores of a service that has started. -/
def stores (settings : Settings) (folder : Folder) : Stores :=
  match settings.configuration.storage.backend with
  | .memory => .memory {}
  | .database => .tables settings.path (folder.databaseFile settings.path)

end Settings
end Signpost
