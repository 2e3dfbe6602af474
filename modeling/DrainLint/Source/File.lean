import DrainLint.Source.Span
import DrainLint.Text.Blank

/-! # Source files

The text of one file, its lines, and the correspondence of offsets with lines and columns.

- `lineCol`: the line and column of an offset, both counted from one;
- `lineBounds`, `lineText`: the lines of the text without their newlines;
- `snippet`: the text of a span.
-/

namespace DrainLint

/-- A place in a file: line and column are counted from one, and zero means that it is unknown.
What others report may have any integers. -/
structure Location where
  file : String := ""
  line : Int := 0
  column : Int := 0
  deriving DecidableEq

def Location.text (location : Location) : String :=
  if location.column = 0 then s!"{location.file}:{location.line}"
  else s!"{location.file}:{location.line}:{location.column}"

/-- The text of one source file under its display name. -/
structure SourceFile where
  name : String
  text : List Char

namespace SourceFile

/-- Why a line has no span. -/
inductive LineFault where
  | outOfRange
  | noIndex
  | invalidSpan (bounds : Span.Invalid)
  deriving DecidableEq

def LineFault.message : LineFault → String
  | outOfRange => "list index out of range"
  | noIndex => "cannot fit 'int' into an index-sized integer"
  | invalidSpan bounds => bounds.message

def lineStartsAfter (offset : Nat) : List Char → List Nat
  | [] => []
  | c :: cs =>
    if c = '\n' then (offset + 1) :: lineStartsAfter (offset + 1) cs
    else lineStartsAfter (offset + 1) cs

def lineStarts (source : SourceFile) : List Nat :=
  0 :: lineStartsAfter 0 source.text

def lineCount (source : SourceFile) : Nat := source.lineStarts.length

/-- Line and column of an offset, counted from one; an offset out of range counts as the nearest
end of the text. -/
def lineCol (source : SourceFile) (offset : Int) : Nat × Nat :=
  let place := min offset.toNat source.text.length
  let reached := source.lineStarts.takeWhile (· ≤ place)
  (reached.length, place - reached.getLastD 0 + 1)

def location (source : SourceFile) (span : Span) : Location :=
  let (line, column) := source.lineCol span.lo
  ⟨source.name, line, column⟩

/-- The span of a line counted from one, without its newline. -/
def lineBounds (source : SourceFile) (line : Nat) : Span :=
  let starts := source.lineStarts
  Span.between (starts.getD (line - 1) source.text.length)
    (if line < starts.length then starts.getD line 0 - 1 else source.text.length)

/-- Whether a number is an index, which has 64 bits with a sign. -/
def isIndex (index : Int) : Bool :=
  -(Span.maxLength : Int) - 1 ≤ index && index ≤ (Span.maxLength : Int)

/-- The element at an index; a negative index counts from the end.  An index that leads to no element
may also be no number of 64 bits. -/
def nthFromEitherEnd (xs : List Nat) (index : Int) : Except LineFault Nat :=
  let place := if index < 0 then xs.length + index else index
  match if place < 0 then none else xs[place.toNat]? with
  | some x => .ok x
  | none => .error (if isIndex index then .outOfRange else .noIndex)

/-- The span of a line by number; zero and the negative numbers count line starts from the end, and
past the last line there is no span. -/
def lineSpan (source : SourceFile) (line : Int) : Except LineFault Span := do
  let starts := source.lineStarts
  let lo ← nthFromEitherEnd starts (line - 1)
  if line < starts.length then
    let next ← nthFromEitherEnd starts line
    (Span.ofInts lo ((next : Int) - 1)).mapError .invalidSpan
  else (Span.ofInts lo source.text.length).mapError .invalidSpan

def slice (source : SourceFile) (span : Span) : List Char :=
  (source.text.take span.hi).drop span.lo

/-- The text of a line without its newline and the carriage returns before it; empty for a line
that is not there. -/
def lineText (source : SourceFile) (line : Int) : List Char :=
  if line < 1 ∨ source.lineCount < line then []
  else ((source.slice (source.lineBounds line.toNat)).reverse.dropWhile (· = '\r')).reverse

/-- The lines that a span touches, as one span. -/
def wholeLines (source : SourceFile) (span : Span) : Span :=
  let first := (source.lineCol span.lo).1
  let last := (source.lineCol (max (span.lo : Int) (span.hi - 1))).1
  (source.lineBounds first).join (source.lineBounds last)

/-- The text of a span; the default where there is no span, where it reaches past the end, or where
it is the empty span at the start. -/
def snippet (source : SourceFile) (span? : Option Span) (default : String := "..") : String :=
  match span? with
  | none => default
  | some span =>
    if source.text.length < span.hi ∨ span = Span.origin then default
    else String.ofList (source.slice span)

end SourceFile
end DrainLint
