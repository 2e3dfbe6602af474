import DrainLint.Fix.Suggestion
import DrainLint.Lint.Loop

/-! # The fix of a loop

The header becomes `while let Some(PAT) = R.pop()`, and the element that was popped by hand goes
away or becomes a variable.
-/

namespace DrainLint.Lint

/-- The name of the lint, as attributes write it. -/
def lintName : String := "while_pop_unwrap"

def message : String := "you seem to be trying to pop elements from a `Vec` in a loop"

def headerLabel : String := "the loop condition checks for emptiness here"

def placeholder : String := "element"

def fixMessage : String := "consider using a `while..let` loop"

namespace Finding

def patternText (finding : Finding) (source : SourceFile) : String :=
  match finding.form with
  | .letStmt pat => source.snippet (some pat.origin.span)
  | .argument => placeholder

def popReplacement (finding : Finding) : String :=
  match finding.form with
  | .letStmt _ => ""
  | .argument => placeholder

def headerText (finding : Finding) (source : SourceFile) : String :=
  let receiver := source.snippet (some finding.receiverSpan)
  s!"while let Some({finding.patternText source}) = {receiver}.pop()"

/-- The two edits that turn a loop into a `while let` loop. -/
def fix (finding : Finding) (source : SourceFile) : Except Overlap Suggestion :=
  Suggestion.ofEdits fixMessage
    [⟨finding.loopSpan, finding.headerText source⟩, ⟨finding.popSpan, finding.popReplacement⟩]

end Finding
end DrainLint.Lint
