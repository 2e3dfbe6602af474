import DrainLint.Diagnostic.Basic
import DrainLint.Report.View

/-! # Diagnostics on a terminal

A diagnostic as several lines: what it is, where it is, the source text with marks, and how to mend
or to silence it.
-/

namespace DrainLint.Diagnostic

/-- The underlines of a diagnostic: its span and its other spans. -/
def underlines (diagnostic : Diagnostic) (source : SourceFile) (span : Span) : List Underline :=
  source.underline span ::
    diagnostic.secondary.map fun (other, label) => source.underline other label "-"

/-- The view of the source text of a diagnostic, if both are known. -/
def view (diagnostic : Diagnostic) (coloured : Bool) (source? : Option SourceFile) : List String :=
  match source?, diagnostic.span? with
  | some source, some span =>
    source.view coloured diagnostic.severity (diagnostic.underlines source span)
  | _, _ => []

def remark (coloured : Bool) (colour : Colour) (word text : String) : String :=
  s!"  = {paint coloured ⟨some colour, true⟩ word}: {text}"

def suggestionLines (diagnostic : Diagnostic) (coloured : Bool) (source? : Option SourceFile) :
    List String :=
  match diagnostic.suggestion? with
  | none => []
  | some suggestion =>
    remark coloured .green "help" suggestion.message :: match source? with
      | none => []
      | some source => changedView coloured (suggestion.preview source)

def lintLines (diagnostic : Diagnostic) (coloured : Bool) : List String :=
  if diagnostic.lint.isEmpty then []
  else
    [remark coloured .cyan "note"
      s!"`#[allow(clippy::{diagnostic.lint})]` silences this lint"]

/-- The lines of a diagnostic, the last one blank. -/
def terminalLines (diagnostic : Diagnostic) (coloured : Bool) (source? : Option SourceFile) :
    List String :=
  let severity := diagnostic.severity
  let kind := paint coloured ⟨some severity.colour, true⟩ s!"{severity.label}[{diagnostic.errorId}]"
  let message := paint coloured ⟨none, true⟩ diagnostic.message
  let arrow := paint coloured boldBlue "-->"
  [s!"{kind}: {message}", s!"  {arrow} {diagnostic.location.text}"]
    ++ diagnostic.view coloured source? ++ diagnostic.suggestionLines coloured source?
    ++ diagnostic.lintLines coloured ++ [""]

def terminalText (diagnostic : Diagnostic) (coloured : Bool) (source? : Option SourceFile) :
    String :=
  "\n".intercalate (diagnostic.terminalLines coloured source?) ++ "\n"

end DrainLint.Diagnostic
