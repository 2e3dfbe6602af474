import DrainLint.Diagnostic.Basic
import DrainLint.Keyed

/-! # Results

What a run found: all diagnostics, those of each checker, and what was counted.

- `Results.merge`: two results as one;
- `Results.summary`: the lines that sum a run up.
-/

namespace DrainLint

/-- The results of a run.  Diagnostics that no checker put forward belong to no checker; the sources
are the files that were read. -/
structure Results where
  diagnostics : List Diagnostic := []
  byChecker : Keyed (List Diagnostic) := []
  stats : Keyed Nat := []
  checkerNames : List String := []
  sources : Keyed SourceFile := []

namespace Results

def addOf (name : String) (diagnostics : List Diagnostic) (byChecker : Keyed (List Diagnostic)) :
    Keyed (List Diagnostic) :=
  Keyed.modify name (fun old? => old?.getD [] ++ diagnostics) byChecker

/-- The statistics with one more number, which is added to an old one. -/
def addStat (name : String) (count : Nat) (stats : Keyed Nat) : Keyed Nat :=
  Keyed.modify name (fun old? => old?.getD 0 + count) stats

def addNames (known more : List String) : List String :=
  more.foldl (fun names name => if names.contains name then names else names ++ [name]) known

/-- Two results as one; the names of checkers are listed once. -/
def merge (first second : Results) : Results where
  diagnostics := first.diagnostics ++ second.diagnostics
  byChecker :=
    second.byChecker.foldl (fun kept (name, more) => addOf name more kept) first.byChecker
  stats := second.stats.foldl (fun kept (name, count) => addStat name count kept) first.stats
  checkerNames := addNames first.checkerNames second.checkerNames
  sources :=
    second.sources.foldl (fun kept (name, source) => Keyed.set name source kept) first.sources

def withSeverity (results : Results) (severity : Severity) : List Diagnostic :=
  results.diagnostics.filter fun diagnostic => diagnostic.severity == severity

def inFile (results : Results) (file : String) : List Diagnostic :=
  results.diagnostics.filter fun diagnostic => diagnostic.location.file == file

def withErrorId (results : Results) (id : String) : List Diagnostic :=
  results.diagnostics.filter fun diagnostic => diagnostic.errorId == id

def errorCount (results : Results) : Nat := (results.withSeverity .error).length

def warningCount (results : Results) : Nat := (results.withSeverity .warning).length

def findingCount (results : Results) : Nat :=
  (results.diagnostics.filter fun diagnostic => diagnostic.lint != "").length

def totalCount (results : Results) : Nat := results.diagnostics.length

/-- All diagnostics, a line of JSON for each. -/
def jsonLines (results : Results) : String :=
  "\n".intercalate (results.diagnostics.map Diagnostic.jsonLine)

/-- All diagnostics, a line as compilers write it for each. -/
def gccLines (results : Results) : String :=
  "\n".intercalate (results.diagnostics.map Diagnostic.gccLine)

/-- How long a checker took; time is not measured. -/
def elapsedText : String := "0.0ms"

def checkerLine (results : Results) (name : String) : String :=
  let count := ((Keyed.get? name results.byChecker).getD []).length
  s!"  {name}: {count} findings ({elapsedText})"

def summary (results : Results) : String :=
  let head := s!"Checker run complete: {results.totalCount} diagnostics " ++
    s!"({results.errorCount} errors, {results.warningCount} warnings) " ++
    s!"in {results.sources.length} files"
  "\n".intercalate (head :: results.checkerNames.map results.checkerLine)

end Results
end DrainLint
