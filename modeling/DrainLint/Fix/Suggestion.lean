import DrainLint.Fix.Edit
import DrainLint.Source.File
import DrainLint.Text.Blank

/-! # Suggestions

Edits that mend a finding, and what the text looks like after them.

- `Suggestion`: edits that can be applied together, with a message;
- `Suggestion.preview`: the touched lines as they read after the edits.
-/

namespace DrainLint

/-- How sure it is that a suggestion is right. -/
inductive Applicability where
  | machineApplicable
  | maybeIncorrect
  | hasPlaceholders
  | unspecified
  deriving DecidableEq

namespace Applicability

def name : Applicability → String
  | machineApplicable => "MachineApplicable"
  | maybeIncorrect => "MaybeIncorrect"
  | hasPlaceholders => "HasPlaceholders"
  | unspecified => "Unspecified"

def ofName? (name : String) : Option Applicability :=
  [machineApplicable, maybeIncorrect, hasPlaceholders, unspecified].find? (·.name == name)

end Applicability

/-- Edits that are applied together; no two of them collide. -/
structure Suggestion where
  message : String
  edits : List Edit
  applicability : Applicability := .machineApplicable
  compatible : Edit.firstOverlap? edits = none

namespace Suggestion

/-- The suggestion of some edits, unless two of them collide. -/
def ofEdits (message : String) (edits : List Edit)
    (applicability : Applicability := .machineApplicable) : Except Overlap Suggestion :=
  match overlaps : Edit.firstOverlap? edits with
  | none => .ok ⟨message, edits, applicability, overlaps⟩
  | some overlap => .error overlap

def apply (suggestion : Suggestion) (text : List Char) : List Char :=
  Edit.applyAll text suggestion.edits

def cover (first : Edit) (rest : List Edit) : Span :=
  (rest.map Edit.span).foldl Span.join first.span

def shifted (offset : Nat) (edit : Edit) : Edit :=
  ⟨Span.between (edit.span.lo - offset) (edit.span.hi - offset), edit.replacement⟩

/-- The lines that a suggestion touches as they read once it is applied, numbered from the first
touched line. -/
def preview (suggestion : Suggestion) (source : SourceFile) : List (Nat × List Char) :=
  match suggestion.edits with
  | [] => []
  | first :: rest =>
    let region := source.wholeLines (cover first rest)
    -- Only the touched lines are patched, so the edits are moved to the start of the first one.
    let patched := Edit.applyAll (source.slice region) (suggestion.edits.map (shifted region.lo))
    let firstLine := (source.lineCol region.lo).1
    (Text.splitOn '\n' patched).zipIdx.map fun (text, index) => (firstLine + index, text)

end Suggestion
end DrainLint
