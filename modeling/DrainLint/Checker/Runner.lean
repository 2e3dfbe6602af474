import DrainLint.Checker.Registry
import DrainLint.Checker.Results
import DrainLint.Parse

/-! # Running checkers

A file is parsed, its suppressions are added to those that are known, and each selected checker
looks at it.  A file that does not parse gives one diagnostic, and so does a checker that fails.

- `Runner.run`: the run over one file;
- `Runner.runAll`: the run over files that may be unreadable, one after the other.
-/

namespace DrainLint

open Hir Typing Text

/-- Which checkers are run, and with which options.  Without a selection those that are switched on
are run, and a selection may name any. -/
structure Runner where
  registry : Registry := .builtin
  options : CheckOptions := {}
  selection? : Option (List String) := none

/-- What came of a run: its results, the suppressions that are known after it, and its log. -/
structure RunOutcome where
  results : Results
  suppressions : Suppressions
  log : List LogRecord

/-- What came of a run and of another one after it, which knows the suppressions of the first. -/
def RunOutcome.andThen (outcome : RunOutcome) (next : Suppressions → RunOutcome) : RunOutcome :=
  let more := next outcome.suppressions
  ⟨outcome.results.merge more.results, more.suppressions, outcome.log ++ more.log⟩

/-- A file that was to be read: its text, or why it cannot be read. -/
structure FileReading where
  name : String
  content : Except String (List Char)

namespace Runner

/-! ## Selection -/

/-- The checker of a name, or the record that there is none. -/
def selected (runner : Runner) (name : String) : Except LogRecord Checker :=
  match runner.registry.get? name with
  | some checker => .ok checker
  | none => .error ⟨.warning, .checkers, s!"unknown checker {quoted name} ignored"⟩

/-- The checkers that are run, in order. -/
def checkers (runner : Runner) : List Checker :=
  match runner.selection? with
  | none => runner.registry.enabled
  | some names => names.filterMap fun name => (runner.selected name).toOption

def selectionLog (runner : Runner) : List LogRecord :=
  match runner.selection? with
  | none => []
  | some names => names.filterMap fun name => match runner.selected name with
    | .ok _ => none
    | .error record => some record

/-! ## One checker -/

def internalError (checker : Checker) (source : SourceFile) (failure : String) : Diagnostic where
  errorId := "checkerInternalError"
  message := s!"Checker '{checker.name}' failed: {failure}"
  severity := .information
  location := { file := source.name }
  checkerName := checker.name

/-- The diagnostics that a checker contributes: what it put forward and is not suppressed, or, if it
failed, the one that says so. -/
def contribution (suppressions : Suppressions) (source : SourceFile) (checker : Checker)
    (checking : Checking) : List Diagnostic :=
  match checking.failure? with
  | none => suppressions.kept checking.emitted
  | some failure => [internalError checker source failure]

def checkingLog (source : SourceFile) (checker : Checker) (checking : Checking) : List LogRecord :=
  checking.log ++ match checking.failure? with
    | none => []
    | some failure =>
      [⟨.warning, .checkers, s!"checker {quoted checker.name} failed on {source.name}: {failure}"⟩]

def addChecking (suppressions : Suppressions) (source : SourceFile) (results : Results)
    (checker : Checker) (checking : Checking) : Results :=
  let diagnostics := contribution suppressions source checker checking
  { results with
    diagnostics := results.diagnostics ++ diagnostics
    byChecker := Results.addOf checker.name diagnostics results.byChecker
    stats :=
      checking.stats.foldl (fun stats (name, count) => Keyed.set name count stats) results.stats
    checkerNames := results.checkerNames ++ [checker.name] }

/-! ## One file -/

/-- The log of the inference; only one without a fault tells how much it found out. -/
def typingLog (inference : Inference) : List LogRecord :=
  inference.notes.map (fun note => ⟨.debug, .typing, note.text⟩) ++
    match inference.result with
    | .error _ => []
    | .ok tables =>
      [⟨.debug, .typing, s!"typeck: {tables.callees.length} call identities, " ++
        s!"{tables.types.length} typed expressions"⟩]

def listText (texts : List String) : String :=
  "[" ++ ", ".intercalate ((sortedDistinct texts).map quoted) ++ "]"

def parsedRecord (source : SourceFile) (crate : Crate) : LogRecord :=
  ⟨.debug, .parser, s!"parsed {source.name}: {crate.items.length} top-level items"⟩

def parseLog (source : SourceFile) (crate : Crate) : List LogRecord :=
  parsedRecord source crate ::
    (Suppressions.commentsOf source).map fun ((file, line), ids) =>
      ⟨.debug, .checkers, s!"{file}:{line}: inline suppression of {listText ids}"⟩

def syntaxError (error : ParseError) : Diagnostic where
  errorId := "syntaxError"
  message := error.message
  severity := .error
  location := error.location

def run (runner : Runner) (suppressions : Suppressions) (source : SourceFile) : RunOutcome :=
  let sources := [(source.name, source)]
  match source.parse with
  | .error error =>
    ⟨{ diagnostics := [syntaxError error], sources }, suppressions,
      [⟨.warning, .checkers, error.line⟩]⟩
  | .ok crate =>
    -- The comments and attributes of the file count for its own diagnostics already.
    let suppressions := suppressions.ofFile source crate
    let context : Context := ⟨source, crate, inferCrate crate, runner.options⟩
    let checkings := runner.checkers.map fun checker => (checker, checker.examine context)
    let results := checkings.foldl
      (fun results (checker, checking) => addChecking suppressions source results checker checking)
      { sources }
    let typing := if runner.checkers.any Checker.readsTypes then typingLog context.inference else []
    let checking := checkings.flatMap fun (checker, checking) => checkingLog source checker checking
    ⟨results, suppressions, parseLog source crate ++ runner.selectionLog ++ typing ++ checking⟩

/-! ## Many files -/

def readError (name reason : String) : Diagnostic where
  errorId := "fileReadError"
  message := s!"cannot read file: {reason}"
  severity := .error
  location := { file := name }

def runReading (runner : Runner) (suppressions : Suppressions) (file : FileReading) : RunOutcome :=
  match file.content with
  | .error reason =>
    ⟨{ diagnostics := [readError file.name reason] }, suppressions,
      [⟨.warning, .checkers, s!"cannot read {file.name}: {reason}"⟩]⟩
  | .ok text =>
    let outcome := runner.run suppressions ⟨file.name, text⟩
    { outcome with log := ⟨.debug, .checkers, s!"checking {file.name}"⟩ :: outcome.log }

/-- The run over some files, one after the other, after what came before. -/
def runAll (runner : Runner) (outcome : RunOutcome) (files : List FileReading) : RunOutcome :=
  files.foldl (fun outcome file => outcome.andThen fun rules => runner.runReading rules file)
    outcome

end Runner
end DrainLint
