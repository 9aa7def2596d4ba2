/-!
# Help

The pages that are shown where help is asked for.
-/
namespace Signpost.Command

/-- The lines that end each list of options. -/
def helpOption : List String :=
  ["  -h, --help  show this help message and exit"]

/-- The page of all commands. -/
def mainPage : List String :=
  ["usage: signpost [-h] [--config CONFIG] [--db DB]",
    "                \x7bmigrate,load,clear,csv2json,set-version,add-host,check\x7d ...", "",
    "Redirector CLI", "", "positional arguments:",
    "  \x7bmigrate,load,clear,csv2json,set-version,add-host,check\x7d",
    "    migrate             Apply database migrations",
    "    load                Import redirects from a CSV or JSON file",
    "    clear               Delete all redirect rules",
    "    csv2json            Convert a CSV file to import JSON",
    "    set-version         Set the active rule-set version",
    "    add-host            Create or replace a host policy",
    "    check               Resolve a path against the stored rules", "", "options:",
    "  -h, --help            show this help message and exit",
    "  --config CONFIG       Path to config.yaml",
    "  --db DB               SQLite database path (overrides config)"]

/-- The page of each command. -/
def pages : List (String × List String) :=
  [("migrate", ["usage: signpost migrate [-h]", "", "options:"] ++ helpOption),
    ("load", ["usage: signpost load [-h] file", "", "positional arguments:",
      "  file        Path to a .csv or .json file", "", "options:"] ++ helpOption),
    ("clear", ["usage: signpost clear [-h]", "", "options:"] ++ helpOption),
    ("csv2json", ["usage: signpost csv2json [-h] source target", "", "positional arguments:",
      "  source      CSV file to read", "  target      JSON file to write", "", "options:"]
      ++ helpOption),
    ("set-version", ["usage: signpost set-version [-h] version", "", "positional arguments:",
      "  version", "", "options:"] ++ helpOption),
    ("add-host", ["usage: signpost add-host [-h] [--host-only] host", "",
      "positional arguments:", "  host", "", "options:",
      "  -h, --help   show this help message and exit",
      "  --host-only  Only match host-bound rules"]),
    ("check", ["usage: signpost check [-h] [--host HOST] [--version VERSION] [--host-only]",
      "                      [--time TIME] [--ignore-slash] [--match-query]",
      "                      path", "", "positional arguments:", "  path", "", "options:",
      "  -h, --help         show this help message and exit", "  --host HOST",
      "  --version VERSION", "  --host-only", "  --time TIME        Evaluation time (epoch seconds)",
      "  --ignore-slash", "  --match-query"])]

/-- The page of a command, or of all commands. -/
def page (command : Option String) : String :=
  let lines := (command.bind fun name => pages.lookup name).getD mainPage
  "\n".intercalate lines ++ "\n"

end Signpost.Command
