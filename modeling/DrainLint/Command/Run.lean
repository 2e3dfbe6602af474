import DrainLint.Checker.Runner
import DrainLint.Command.Request
import DrainLint.Files.Tree
import DrainLint.Hir.Dump
import DrainLint.Report.Reporter
import DrainLint.Source.Reading

/-! # Runs of the program

What the program does with its arguments, the environment, the files and the standard input.

- `World`: what a run finds, and `Outcome`: what it leaves;
- `checkFiles`, `dumpFile`, `listAll`: the actions;
- `run`: a run with some arguments.
-/

namespace DrainLint.Command

open Hir

/-- What a run finds: the files, the environment, the standard input, whether the standard output is
a terminal, and the time of day for the log. -/
structure World where
  system : FileSystem
  env : Keyed String := []
  stdin : List Char := []
  terminal : Bool := false
  time : String := ""

/-- What a run leaves: the exit code, what it wrote, and a file with its text, if it writes one. -/
structure Outcome where
  code : Nat
  stdout : String := ""
  stderr : String := ""
  written? : Option (FileName × String) := none

/-- Why a run ends without an outcome. -/
inductive Crash where
  | dump (fault : DumpFault)
  | setting (invalid : InvalidSetting)
  | file (fault : FileFault) (name : FileName)
  | nulInName

def Crash.message : Crash → String
  | dump fault => fault.message
  | setting invalid => invalid.message
  | file fault name => fault.message name
  | nulInName => "embedded null byte"

/-! ## Exit codes -/

def successCode : Nat := 0

def findingsCode : Nat := 1

def failureCode : Nat := 2

/-- The exit code of a check: a file that cannot be read is a failure, and a syntax error counts as
a finding even where findings do not count. -/
def exitCode (config : Config) (results : Results) : Nat :=
  let findings := if config.failOnFindings then results.findingCount else 0
  if !(results.withErrorId "fileReadError").isEmpty then failureCode
  else if findings != 0 || !(results.withErrorId "syntaxError").isEmpty then findingsCode
  else successCode

/-! ## Messages -/

def complaint (message : String) : String := s!"{programName}: error: {message}\n"

def failure (messages : List String) : Outcome where
  code := failureCode
  stderr := String.join (messages.map complaint)

def logText (time : String) (level : LogLevel) (records : List LogRecord) : String :=
  Page.lines ((LogRecord.visible level records).map fun record => record.line time)

/-! ## Reading files -/

def stdinName : String := "<stdin>"

/-- What a node of a tree reads as under a name: its text, or why there is none. -/
def readingOf (name : FileName) (node : FileTree) : FileReading :=
  ⟨name.text, do
    let bytes ← node.bytes.mapError fun fault => fault.message name
    let source ← (SourceFile.ofBytes name.text bytes).mapError Text.Utf8.Fault.message
    return source.text⟩

/-- The files that a path stands for: a file, or the source files of a directory. -/
def readingsAt (system : FileSystem) (path : String) : List FileReading :=
  let name := FileName.ofText path
  match system.find? name with
  | none => [⟨name.text, .error (FileFault.notFound.message name)⟩]
  | some (.directory entries) =>
    (FileTree.directory entries).sourceFiles.map fun (parts, node) =>
      readingOf (name.extend parts) node
  | some node => [readingOf name node]

/-- The texts that are read where paths ask for the standard input; it can be read once. -/
def stdinTexts (stdin : List Char) (paths : List String) : List (List Char) :=
  match paths.filter (· == "-") with
  | [] => []
  | _ :: rest => stdin :: rest.map fun _ => []

/-! ## Checks -/

def unknownCheckers (registry : Registry) (config : Config) : List String :=
  (config.checkers?.getD []).filter fun name => (registry.get? name).isNone

/-- Whether a path leads nowhere; a name that is too long cannot be asked for. -/
def isMissing (system : FileSystem) (path : String) : Except Crash Bool :=
  let name := FileName.ofText path
  if path = "-" then .ok false
  else if name.hasNul then .ok true
  else match system.place name with
    | .ok _ => .ok false
    | .error .nameTooLong => .error (.file .nameTooLong name)
    | .error _ => .ok true

def missingPaths (system : FileSystem) (paths : List String) : Except Crash (List String) :=
  paths.filterM (isMissing system)

def runnerOf (config : Config) : Runner :=
  { options := config.checkOptions, selection? := config.checkers? }

def checkPaths (world : World) (config : Config) (paths : List String) : RunOutcome :=
  let runner := runnerOf config
  let start : RunOutcome := ⟨{}, config.suppress.foldl Suppressions.addEverywhere {}, []⟩
  -- The standard input comes before all files, wherever it stands among the paths.
  let afterStdin := (stdinTexts world.stdin paths).foldl
    (fun outcome text => outcome.andThen fun rules => runner.run rules ⟨stdinName, text⟩) start
  let named := paths.filter (· != "-")
  runner.runAll afterStdin (named.flatMap (readingsAt world.system))

def reporterOf (world : World) (config : Config) : Reporter where
  format := config.format
  coloured := config.colour.colours world.terminal
  sarif? := if (config.sarifPath?.getD "").isEmpty then none else some {}

/-- The SARIF report as a file, if one is asked for, or what is said where it cannot be written. -/
def sarifFile (world : World) (config : Config) (reporter : Reporter) :
    Except Crash (Option (FileName × String) × String) :=
  match reporter.sarif?, config.sarifPath? with
  | some log, some path =>
    let name := FileName.ofText path
    if name.hasNul then .error .nulInName
    else match world.system.target name with
      | .ok _ => .ok (some (name, (log.toJson programName version).indented), "")
      | .error fault => .ok (none, s!"{programName}: failed to write SARIF: {fault.message name}\n")
  | _, _ => .ok (none, "")

def checkPresent (world : World) (config : Config) (paths : List String) :
    Except Crash Outcome := do
  let outcome := checkPaths world config paths
  let results := outcome.results
  let log := outcome.log ++ [⟨.info, .main, results.summary⟩]
  let reporter := (reporterOf world config).reportAll results
  let (written?, complaint) ← sarifFile world config reporter
  return { code := exitCode config results
           stdout := reporter.output
           stderr := logText world.time config.logLevel log ++ reporter.summary ++ complaint
           written? }

def checkFiles (world : World) (config : Config) (paths : List String) : Except Crash Outcome := do
  let registry := Registry.builtin
  match unknownCheckers registry config with
  | [] =>
    match ← missingPaths world.system paths with
    | [] => checkPresent world config paths
    | missing => return failure (missing.map fun path => s!"no such file or directory: {path}")
  | unknown =>
    let listed := ", ".intercalate unknown
    let available := ", ".intercalate registry.names
    return failure [s!"unknown checker(s): {listed} (available: {available})"]

/-! ## Dumps and lists -/

/-- The source of a dump, or why there is none. -/
def dumpSource (world : World) (input : String) : Except Crash (Except String SourceFile) :=
  let name := FileName.ofText input
  if input = "-" then .ok (.ok ⟨stdinName, world.stdin⟩)
  else if name.hasNul then .error .nulInName
  else .ok do
    let bytes ← (world.system.read name).mapError fun fault => fault.message name
    (SourceFile.ofBytes input bytes).mapError Text.Utf8.Fault.message

def parseComplaint (error : ParseError) : List String :=
  if error.rule.isEmpty then [error.line]
  else [error.line, s!"  (while matching grammar rule '{error.rule}')"]

/-- The outcome of dumping a file; a tree with a number that is too long for its text has no
dump. -/
def dumpFile (world : World) (config : Config) (input : String) : Except Crash Outcome := do
  match ← dumpSource world input with
  | .error message => return failure [message]
  | .ok source => match source.parse with
    | .error error =>
      return { code := findingsCode, stderr := Page.lines (parseComplaint error) }
    | .ok crate =>
      let dump ← crate.dump.mapError .dump
      return { code := successCode
               stdout := Page.lines dump
               stderr := logText world.time config.logLevel [Runner.parsedRecord source crate] }

def leftAligned (width : Nat) (text : String) : String :=
  text ++ String.ofList (List.replicate (width - text.length) ' ')

def checkerLines (checker : Checker) : List String :=
  let ids := ", ".intercalate (Text.sortedDistinct checker.errorIds)
  let lint := if checker.lint.isEmpty then "-" else checker.lint
  [s!"  {leftAligned 25 checker.name} {checker.description}",
    s!"  {blankName} IDs: {ids}",
    s!"  {blankName} lint: {lint}   severity: {checker.severity.label}",
    ""]
where
  blankName : String := leftAligned 25 ""

/-- The outcome of listing all checkers, in the order of their names. -/
def listAll (registry : Registry) : Outcome where
  code := successCode
  stdout := Page.lines ((registry.names.filterMap registry.get?).flatMap checkerLines)

/-! ## Runs -/

def settings (world : World) (given : Overrides) : Except InvalidSetting Config := do
  (← Config.ofEnv world.env).override given

def perform (world : World) (given : Overrides) (action : Action) : Except Crash Outcome :=
  match settings world given with
  | .error .namelessLevel => .error (.setting .namelessLevel)
  | .error invalid => .ok (failure [invalid.message])
  | .ok config => match action with
    | .check paths => checkFiles world config paths
    | .dumpHir input => dumpFile world config input
    | .listCheckers => .ok (listAll .builtin)

def inputNames : Request → List FileName
  | .display _ | .act _ .listCheckers => []
  | .act _ (.dumpHir input) => [FileName.ofText input]
  | .act _ (.check paths) => paths.map FileName.ofText

def run (world : World) (args : List String) : Except Crash Outcome :=
  match Request.ofArgs args with
  | .error refusal => .ok { code := failureCode, stderr := refusal.text }
  | .ok (.display text) => .ok { code := successCode, stdout := text }
  | .ok (.act given action) => perform world given action

end DrainLint.Command
