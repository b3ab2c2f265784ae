import StatesLanguage.CommandLine.Invocation

/-!
# Help

What is answered to questions about the program and its commands.
-/

namespace StatesLanguage

namespace CommandLine

def programName : String := "statelang"

def programVersion : String := "0.1.0"

/-- The name under which a topic has a version. -/
def Topic.title : Topic → String
  | .program => programName
  | .command name => programName ++ "-" ++ name

def versionText (topic : Topic) : String :=
  topic.title ++ " " ++ programVersion ++ "\n"

/-- A row of a table: what is described, and its description. -/
abbrev HelpRow := String × String

/-- The width of the widest first cell. -/
def widest (rows : List HelpRow) : Nat :=
  rows.foldl (fun width row => max width row.1.length) 0

/-- A table under a heading, with the second cells aligned. -/
def helpTable (heading : String) (rows : List HelpRow) : String :=
  let width := widest rows
  heading ++ ":\n" ++ String.join (rows.map fun (subject, description) =>
    "  " ++ subject ++ String.ofList (List.replicate (width - subject.length) ' ') ++
      "  " ++ description ++ "\n")

/-- The rows of the options that every command takes. -/
def commonRows : List HelpRow :=
  [("    --json", "Output machine-readable JSON instead of styled text"),
    ("-q, --quiet", "Suppress status output; only command results and errors are printed"),
    ("-v, --verbose...", "Detailed output (-v for verbose, -vv for debug/trace)"),
    ("    --otel",
      "Export spans as OpenTelemetry JSON on stdout. Not combinable with \x60--json\x60, which also writes to stdout"),
    ("-h, --help", "Print help"), ("-V, --version", "Print version")]

def commandRows : List HelpRow :=
  [("validate", "Parse and validate a definition file (JSON or YAML)"),
    ("run", "Run a definition and print its output"),
    ("path", "Evaluate a path expression against an input document"),
    ("eval", "Evaluate an intrinsic call against an input document"),
    ("help", "Print this message or the help of the given subcommand(s)")]

/-- The row of an inline input with an empty object as default. -/
def inlineInputRow : HelpRow :=
  ("    --input <INPUT>", "Input document as inline JSON [default: \x7b\x7d]")

/-- The argument of a command, with its description. -/
def argumentRow (command : String) : HelpRow :=
  if command = "path" then ("<EXPR>", "Path expression, e.g. \x60$.items[0:2]\x60")
  else if command = "eval" then
    ("<CALL>", "Intrinsic call, e.g. \x60States.Format('\x7b\x7d', $.name)\x60")
  else if command = "help" then ("[COMMAND]...", "Print help for the subcommand(s)")
  else ("<FILE>", "Path to the definition")

/-- The rows of the options that only one command takes. -/
def ownRows (command : String) : List HelpRow :=
  if command = "run" then
    [("    --input <INPUT>", "Execution input as inline JSON"),
      ("    --input-file <INPUT_FILE>", "Read the execution input from a JSON file"),
      ("    --execution-id <EXECUTION_ID>", "Execution id (defaults to a fresh UUIDv7)"),
      ("    --config <CONFIG>", "Engine configuration (TOML) [env: STATELANG_CONFIG=]"),
      ("    --stub <STUBS>", "Static task result, as RESOURCE=JSON. Repeatable")]
  else if command = "path" ∨ command = "eval" then [inlineInputRow]
  else []

/-- Rows of two lists in turn, then those that are left of the longer one. -/
def inTurn : List HelpRow → List HelpRow → List HelpRow
  | [], second => second
  | first, [] => first
  | own :: first, common :: second => own :: common :: inTurn first second

def helpText : Topic → String
  | .program =>
      "Command-line runner for statelang state machines\n\nUsage: statelang [OPTIONS] <COMMAND>\n\n" ++
        helpTable "Commands" commandRows ++ "\n" ++ helpTable "Options" commonRows
  | .command name =>
      let argument := argumentRow name
      let description := (commandRows.lookup name).getD ""
      let usage := description ++ "\n\nUsage: statelang " ++ name ++ " "
      let table := helpTable "Arguments" [argument]
      if name = "help" then usage ++ argument.1 ++ "\n\n" ++ table
      else
        usage ++ "[OPTIONS] " ++ argument.1 ++ "\n\n" ++ table ++ "\n" ++
          helpTable "Options" (inTurn (ownRows name) commonRows)

end CommandLine

end StatesLanguage
