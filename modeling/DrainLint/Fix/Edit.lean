import DrainLint.Error
import DrainLint.Source.Span

/-! # Edits

Replacements of spans of a text that are applied together.

- `Edit`: a span and what replaces it;
- `firstOverlap?`: two neighbours in the order of their spans that touch the same text;
- `applyChecked`: the text with the edits applied, unless two of them collide.
-/

namespace DrainLint

/-- The replacement of a span; an empty span is an insertion. -/
structure Edit where
  span : Span
  replacement : String
  deriving DecidableEq

/-- Two edits that touch the same text. -/
structure Overlap where
  first : Span
  second : Span
  deriving DecidableEq

namespace Overlap

def code : ErrorCode := .overlappingEdits

def message (overlap : Overlap) : String :=
  s!"edits [{overlap.first.lo}, {overlap.first.hi}) and " ++
    s!"[{overlap.second.lo}, {overlap.second.hi}) overlap"

def line (overlap : Overlap) : String := code.line none overlap.message

end Overlap

namespace Edit

/-- Two edits cannot be applied together where their spans share a character or are the same; the
order of two insertions at one place is not known. -/
def collides (left right : Edit) : Bool :=
  left.span.overlaps right.span || decide (left.span = right.span)

def sortedBySpan (edits : List Edit) : List Edit :=
  edits.mergeSort fun left right => !right.span.before left.span

/-- Edits in the order in which their spans start; the others keep their order. -/
def sortedByStart (edits : List Edit) : List Edit :=
  edits.mergeSort fun left right => left.span.lo ≤ right.span.lo

def firstCollision? : List Edit → Option Overlap
  | left :: right :: rest =>
    if left.collides right then some ⟨left.span, right.span⟩ else firstCollision? (right :: rest)
  | _ => none

/-- The first two edits, in the order of their spans, that collide. -/
def firstOverlap? (edits : List Edit) : Option Overlap := firstCollision? (sortedBySpan edits)

/-- The text from a place on with edits applied, one after the other. -/
def splice (text : List Char) (place : Nat) : List Edit → List Char
  | [] => text.drop place
  | edit :: edits =>
    (text.take edit.span.lo).drop place ++ edit.replacement.toList ++
      splice text edit.span.hi edits

/-- The text with all edits applied; the spans are those of the text before. -/
def applyAll (text : List Char) (edits : List Edit) : List Char :=
  splice text 0 (sortedByStart edits)

/-- The text with all edits applied, unless two of them collide. -/
def applyChecked (text : List Char) (edits : List Edit) : Except Overlap (List Char) :=
  match firstOverlap? edits with
  | some overlap => .error overlap
  | none => .ok (applyAll text edits)

end Edit
end DrainLint
