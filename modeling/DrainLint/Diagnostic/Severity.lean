import DrainLint.Text.Blank

/-! # Severities

How much a diagnostic matters, and how that is shown.

- `Severity.ofText`: the severity that a text names;
- `Tally`: diagnostics counted by severity, and the line that sums them up.
-/

namespace DrainLint

inductive Severity where
  | error
  | warning
  | style
  | performance
  | portability
  | information
  deriving DecidableEq

/-- The colours of shown text. -/
inductive Colour where
  | red
  | green
  | yellow
  | blue
  | magenta
  | cyan
  | white
  deriving DecidableEq

namespace Colour

def name : Colour → String
  | red => "red"
  | green => "green"
  | yellow => "yellow"
  | blue => "blue"
  | magenta => "magenta"
  | cyan => "cyan"
  | white => "white"

def code : Colour → Nat
  | red => 31
  | green => 32
  | yellow => 33
  | blue => 34
  | magenta => 35
  | cyan => 36
  | white => 97

end Colour

namespace Severity

def all : List Severity := [error, warning, style, performance, portability, information]

def label : Severity → String
  | error => "error"
  | warning => "warning"
  | style => "style"
  | performance => "performance"
  | portability => "portability"
  | information => "information"

def colour : Severity → Colour
  | error => .red
  | warning => .yellow
  | style => .cyan
  | performance => .magenta
  | portability => .blue
  | information => .white

def sarifLevel : Severity → String
  | error => "error"
  | warning | performance | portability => "warning"
  | style | information => "note"

def ofLabel? (text : String) : Option Severity := all.find? fun severity => severity.label == text

/-- The severity that a text names in letters of either case, with or without spaces around it; a
text that names none is a warning. -/
def ofText (text : String) : Severity :=
  (ofLabel? (Text.trimString text).toLower).getD .warning

end Severity

/-- Numbers of diagnostics by severity. -/
structure Tally where
  counts : Severity → Nat := fun _ => 0

namespace Tally

def record (tally : Tally) (severity : Severity) : Tally :=
  ⟨fun other => if other = severity then tally.counts other + 1 else tally.counts other⟩

def total (tally : Tally) : Nat := (Severity.all.map tally.counts).foldl Nat.add 0

/-- A number of diagnostics of a severity in words; only errors and warnings have a plural. -/
def countText (severity : Severity) (count : Nat) : String :=
  let noun := match severity with
    | .error => if count = 1 then "error" else "errors"
    | .warning => if count = 1 then "warning" else "warnings"
    | .information => "info"
    | severity => severity.label
  s!"{count} {noun}"

def summary (tally : Tally) : String :=
  let parts := Severity.all.filterMap fun severity =>
    let count := tally.counts severity
    if count = 0 then none else some (countText severity count)
  if parts.isEmpty then "no diagnostics emitted"
  else "; ".intercalate parts ++ s!" ({tally.total} total)"

end Tally
end DrainLint
