import Signpost.Command.Argument

/-!
# Invocations

The commands of the service and how they are written: options for the configuration and the
database, then the name of a command with its own arguments.
-/
namespace Signpost.Command

/-- A question about a path. -/
structure Question where
  path : String
  host : Option String := none
  version : Option Int := none
  hostOnly : Bool := false
  instant : Option Int := none
  ignoreSlash : Bool := false
  matchQuery : Bool := false
  deriving DecidableEq, Repr, Inhabited

/-- A command: make the tables, import a sheet, remove all rules, write a sheet as JSON, replace the
active versions, add a host policy, or ask about a path. -/
inductive Task
  | migrate
  | load (path : String)
  | clear
  | convert (source target : String)
  | setVersion (number : Int)
  | addHost (host : String) (hostOnly : Bool)
  | check (question : Question)
  deriving DecidableEq, Repr, Inhabited

/-- A task with the paths of the configuration and, if given, of the database. -/
structure Invocation where
  configuration : String
  database : Option String
  task : Task
  deriving DecidableEq, Repr, Inhabited

/-- The arguments in front of the name of a command. -/
def mainForm : Form where
  options := [("--config", .text), ("--db", .text)]
  leavesRest := true

/-- The arguments of each command. -/
def forms : List (String × Form) :=
  [("migrate", {}),
    ("load", { places := [("file", .text)] }),
    ("clear", {}),
    ("csv2json", { places := [("source", .text), ("target", .text)] }),
    ("set-version", { places := [("version", .integer)] }),
    ("add-host", { places := [("host", .text)], flags := ["--host-only"] }),
    ("check", {
      places := [("path", .text)]
      flags := ["--host-only", "--ignore-slash", "--match-query"]
      options := [("--host", .text), ("--version", .integer), ("--time", .integer)] })]

/-- The question that arguments ask about a path. -/
def questionOf (path : String) (arguments : Arguments) : Question where
  path := path
  host := arguments.text? "--host"
  version := arguments.number? "--version"
  hostOnly := arguments.has "--host-only"
  instant := arguments.number? "--time"
  ignoreSlash := arguments.has "--ignore-slash"
  matchQuery := arguments.has "--match-query"

/-- The task of a command with its arguments. -/
def Task.of (name : String) (arguments : Arguments) : Option Task :=
  match name, arguments.words with
  | "migrate", [] => some .migrate
  | "load", [.text path] => some (.load path)
  | "clear", [] => some .clear
  | "csv2json", [.text source, .text target] => some (.convert source target)
  | "set-version", [.int number] => some (.setVersion number)
  | "add-host", [.text host] => some (.addHost host (arguments.has "--host-only"))
  | "check", [.text path] => some (.check (questionOf path arguments))
  | _, _ => none

/-- Why arguments are no invocation: they do not fit, or they ask for help with a command or with
all of them. -/
inductive Refusal
  | usage
  | help (command : Option String)
  deriving DecidableEq, Repr, Inhabited

/-- The refusal behind a stop. -/
def Stop.refusal (command : Option String) : Stop → Refusal
  | usage => .usage
  | help => .help command

/-- The invocation that arguments make. -/
def Invocation.ofArguments (texts : List String) : Except Refusal Invocation := do
  let front ← (Arguments.read mainForm texts).mapError (Stop.refusal none)
  match front.rest with
  | [] => .error .usage
  | name :: rest =>
    match forms.lookup name with
    | none => .error .usage
    | some form =>
      let arguments ← (Arguments.read form rest).mapError (Stop.refusal (some name))
      match Task.of name arguments with
      | some task =>
        if front.hasMore || arguments.hasMore then .error .usage
        else
          return {
            configuration := (front.text? "--config").getD "config.yaml"
            database := front.text? "--db"
            task }
      | none => .error .usage

end Signpost.Command
