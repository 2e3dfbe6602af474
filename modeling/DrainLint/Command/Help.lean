import DrainLint.Command.Arguments
import DrainLint.Config

/-! # Help

What the program and its commands take, and the pages that tell about it.

- `Page`: the usage and the help of a command;
- `program`, `check`, `dumpHir`, `listCheckers`: the interfaces, each with its page.
-/

namespace DrainLint.Command

/-- What is told about a command. -/
structure Page where
  program : String
  usage : List String
  details : List String

namespace Page

def lines (texts : List String) : String := String.join (texts.map fun text => text ++ "\n")

def help (page : Page) : String := lines (page.usage ++ [""] ++ page.details)

def complaint (page : Page) (fault : Fault) : String :=
  lines (page.usage ++ [s!"{page.program}: error: {fault.message}"])

end Page

/-! ## Versions and options -/

def programName : String := "poplint"

def version : String := "0.1.0"

def braced (choices : List String) : String := "\x7b" ++ ",".intercalate choices ++ "\x7d"

def levelNames : List String := LogLevel.all.map LogLevel.name

def formatNames : List String := OutputFormat.all.map OutputFormat.name

def colourNames : List String := ColourMode.all.map ColourMode.name

def helpFlag : Flag := { names := ["-h", "--help"], endsReading := true }

def versionFlag : Flag := { names := ["--version"], endsReading := true }

/-! ## The program -/

def commandNames : List String := ["check", "dump-hir", "list-checkers"]

def program : Interface where
  flags := [helpFlag, versionFlag, { names := ["-v", "--verbose"] },
    { names := ["--log-level"], takesValue := true, choices := levelNames }]
  operands := .command "<command>" commandNames

def programPage : Page where
  program := programName
  usage := ["usage: poplint [-h] [--version] [-v]",
    "               [--log-level " ++ braced levelNames ++ "]",
    "               <command> ..."]
  details := ["poplint — find `while !v.is_empty() \x7b v.pop().unwrap() \x7d` loops",
    "",
    "options:",
    "  -h, --help            show this help message and exit",
    "  --version             show program's version number and exit",
    "  -v, --verbose         Increase log verbosity (-v info, -vv debug)",
    "  --log-level " ++ braced levelNames,
    "                        Set the log level explicitly (overrides -v and",
    "                        $POPLINT_LOG_LEVEL)",
    "",
    "commands:",
    "  available commands",
    "",
    "  <command>",
    "    check               Lint Rust source files",
    "    dump-hir            Parse a file and print its HIR",
    "    list-checkers       List available checkers",
    "",
    "examples:",
    "  poplint check src/",
    "  poplint check main.rs --format json",
    "  poplint check . --suppress whilePopUnwrap --sarif out.sarif",
    "  poplint dump-hir main.rs",
    "  poplint list-checkers"]

/-! ## The commands -/

def check : Interface where
  flags := [helpFlag, { names := ["--format"], takesValue := true, choices := formatNames },
    { names := ["--color"], takesValue := true, choices := colourNames },
    { names := ["--no-color"] }, { names := ["--suppress"], takesValue := true },
    { names := ["--checkers"], takesValue := true }, { names := ["--sarif"], takesValue := true },
    { names := ["--no-fail"] }, { names := ["--no-suggestions"] }]
  operands := .many "paths"

def checkPage : Page where
  program := "poplint check"
  usage := ["usage: poplint check [-h] [--format " ++ braced formatNames ++ "]",
    "                     [--color " ++ braced colourNames ++ "] [--no-color]",
    "                     [--suppress ID[,ID...]] [--checkers NAME[,NAME...]]",
    "                     [--sarif PATH] [--no-fail] [--no-suggestions]",
    "                     paths [paths ...]"]
  details := ["Lint Rust source files. Directories are searched recursively for *.rs files;",
    "'-' reads one file from stdin.",
    "",
    "positional arguments:",
    "  paths                 Files or directories to lint",
    "",
    "options:",
    "  -h, --help            show this help message and exit",
    "  --format " ++ braced formatNames,
    "                        Output format (default: $POPLINT_FORMAT or text)",
    "  --color " ++ braced colourNames,
    "                        Colourise text output (default: auto)",
    "  --no-color            Same as --color never",
    "  --suppress ID[,ID...]",
    "                        Error ids to suppress everywhere (repeatable)",
    "  --checkers NAME[,NAME...]",
    "                        Checker names to run (repeatable; default: all)",
    "  --sarif PATH          Also write a SARIF 2.1.0 report to PATH",
    "  --no-fail             Exit with status 0 even when lints fire",
    "  --no-suggestions      Do not attach fix suggestions"]

def dumpHir : Interface where
  flags := [helpFlag]
  operands := .one "input"

def dumpHirPage : Page where
  program := "poplint dump-hir"
  usage := ["usage: poplint dump-hir [-h] input"]
  details := ["positional arguments:",
    "  input       Rust source file (use '-' for stdin)",
    "",
    "options:",
    "  -h, --help  show this help message and exit"]

def listCheckers : Interface where
  flags := [helpFlag]
  operands := .none

def listCheckersPage : Page where
  program := "poplint list-checkers"
  usage := ["usage: poplint list-checkers [-h]"]
  details := ["options:",
    "  -h, --help  show this help message and exit"]

end DrainLint.Command
