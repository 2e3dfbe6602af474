import DrainLint.Report.Underline
import DrainLint.Report.Paint

/-! # Source views

Lines of source text with a row of marks for each underline.

- `Row`: a line of source text, or the marks of an underline;
- `SourceFile.viewRows`: each line that an underline starts on, once, with its rows of marks;
- `Row.text`: a row with its line number, or the space of one, before a bar.
-/

namespace DrainLint

/-- A row of a source view. -/
inductive Row where
  | code (line : Nat) (text : List Char)
  | marks (underline : Underline)

/-! ## Rows -/

/-- Underlines in the order of the places where they start; at one place they keep their order. -/
def Underline.sortedByPlace (underlines : List Underline) : List Underline :=
  underlines.mergeSort fun left right =>
    left.startLine < right.startLine
      || (left.startLine == right.startLine && left.startCol ≤ right.startCol)

def SourceFile.lineRows (source : SourceFile) : List Underline → List Row
  | [] => []
  | first :: rest =>
    .code first.startLine (source.lineText first.startLine) :: (first :: rest).map .marks

/-- The rows of a view: each line that an underline starts on, in order, and after it the marks from
left to right. -/
def SourceFile.viewRows (source : SourceFile) (underlines : List Underline) : List Row :=
  let groups := (Underline.sortedByPlace underlines).splitBy fun left right =>
    left.startLine == right.startLine
  groups.flatMap source.lineRows

/-! ## Texts -/

/-- The place that line numbers take: that of the longest and a space. -/
def lineNumberWidth (lines : List Nat) : Nat :=
  (lines.map fun line => (toString line).length).foldl max 0 + 1

def rightAligned (width : Nat) (text : String) : String :=
  String.ofList (List.replicate (width - text.length) ' ') ++ text

def blankGutter (width : Nat) : String := rightAligned width ""

def boldBlue : Style := ⟨some .blue, true⟩

def bar (coloured : Bool) : String := paint coloured boldBlue "|"

def lineNumber (coloured : Bool) (width line : Nat) : String :=
  paint coloured boldBlue (rightAligned width (toString line))

/-- The number of marks of an underline; there is always one. -/
def Underline.markCount (underline : Underline) : Nat :=
  max (underline.endCol - underline.startCol) 1

def Underline.markText (underline : Underline) : String :=
  let mark := if underline.mark.isEmpty then "^" else underline.mark
  let label := if underline.label.isEmpty then "" else " " ++ underline.label
  String.join (List.replicate underline.markCount mark) ++ label

/-- The colour of marks: that of the severity for what the message is about, and blue for the
rest. -/
def Underline.colour (underline : Underline) (severity : Severity) : Colour :=
  if underline.mark = "^" then severity.colour else .blue

def Row.text (coloured : Bool) (severity : Severity) (width : Nat) : Row → String
  | code line text => s!" {lineNumber coloured width line} {bar coloured} {String.ofList text}"
  | marks underline =>
    let before := String.ofList (List.replicate (underline.startCol - 1) ' ')
    let painted := paint coloured ⟨some (underline.colour severity), true⟩ underline.markText
    s!" {blankGutter width} {bar coloured} {before}{painted}"

def SourceFile.view (source : SourceFile) (coloured : Bool) (severity : Severity)
    (underlines : List Underline) : List String :=
  let width := lineNumberWidth (underlines.map Underline.startLine)
  (source.viewRows underlines).map (Row.text coloured severity width)

def changedView (coloured : Bool) (lines : List (Nat × List Char)) : List String :=
  if lines.isEmpty then []
  else
    let width := lineNumberWidth (lines.map Prod.fst)
    let change := paint coloured ⟨some .green, true⟩ "~"
    s!" {blankGutter width} {bar coloured}" :: lines.map fun (line, text) =>
      let painted := paint coloured ⟨some .green, false⟩ (String.ofList text)
      s!" {lineNumber coloured width line} {change} {painted}"

end DrainLint
