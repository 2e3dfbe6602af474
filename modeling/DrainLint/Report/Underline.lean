import DrainLint.Source.File

/-! # Underlines

Where the marks under a line of source text stand.
-/

namespace DrainLint

/-- A span in lines and columns, with a label and the mark that underlines it.  Columns are counted
from one and the end column is the one after the last mark; a span over several lines is marked to
the end of its first line. -/
structure Underline where
  startLine : Nat
  startCol : Nat
  endLine : Nat
  endCol : Nat
  label : String := ""
  mark : String := "^"

def SourceFile.underline (source : SourceFile) (span : Span) (label : String := "")
    (mark : String := "^") : Underline :=
  let (startLine, startCol) := source.lineCol span.lo
  let (endLine, endCol) := source.lineCol span.hi
  let endCol := if endLine = startLine then endCol else (source.lineText startLine).length + 1
  ⟨startLine, startCol, endLine, endCol, label, mark⟩

end DrainLint
