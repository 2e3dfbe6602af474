import DrainLint.Checker.Results
import DrainLint.Report.Format
import DrainLint.Report.Sarif
import DrainLint.Report.Terminal

/-! # Reporters

Diagnostics written in a format, counted, and gathered for a SARIF report.

- `Diagnostic.render`: a diagnostic in a format;
- `Reporter`: what was reported so far;
- `Reporter.report`, `Reporter.reportAll`: one more diagnostic, or those of a run;
- `Reporter.summary`: what is said at the end.
-/

namespace DrainLint

/-- A diagnostic in a format, with the newline after it. -/
def Diagnostic.render (diagnostic : Diagnostic) (format : OutputFormat) (coloured : Bool)
    (source? : Option SourceFile) : String :=
  match format with
  | .text => diagnostic.terminalText coloured source?
  | .gcc => diagnostic.gccLine ++ "\n"
  | .json => diagnostic.jsonLine ++ "\n"

/-- What was reported so far, in a format; the sources are those whose text can be shown.  The log
is there where a SARIF report is asked for. -/
structure Reporter where
  format : OutputFormat := .text
  coloured : Bool := false
  sources : Keyed SourceFile := []
  output : String := ""
  tally : Tally := {}
  sarif? : Option SarifLog := none

namespace Reporter

def report (reporter : Reporter) (diagnostic : Diagnostic) : Reporter :=
  let source? := Keyed.get? diagnostic.location.file reporter.sources
  { reporter with
    output := reporter.output ++ diagnostic.render reporter.format reporter.coloured source?
    tally := reporter.tally.record diagnostic.severity
    sarif? := reporter.sarif?.map fun log => log.add diagnostic source? }

def addSources (reporter : Reporter) (sources : Keyed SourceFile) : Reporter :=
  { reporter with
    sources := sources.foldl (fun known (name, source) => Keyed.set name source known)
      reporter.sources }

def reportAll (reporter : Reporter) (results : Results) : Reporter :=
  results.diagnostics.foldl report (reporter.addSources results.sources)

/-- The colour of a summary: red with errors, yellow with anything else, green with nothing. -/
def summaryColour (tally : Tally) : Colour :=
  if tally.counts .error ≠ 0 then .red
  else if tally.total ≠ 0 then .yellow
  else .green

/-- What is said at the end; only the format that people read has it. -/
def summary (reporter : Reporter) : String :=
  match reporter.format with
  | .text =>
    let style : Style := ⟨some (summaryColour reporter.tally), true⟩
    paint reporter.coloured style s!"  ╰─ {reporter.tally.summary}" ++ "\n"
  | _ => ""

end Reporter
end DrainLint
