/-! # Spans

Half-open ranges of character offsets, the currency of positions and edits.

- `Span`: two offsets in order; the order is part of the type;
- `Span.ofInts`: the checked construction from arbitrary integers;
- `contains`, `overlaps`, `join`: how two spans lie to each other.
-/

namespace DrainLint

/-- A half-open range of character offsets. -/
structure Span where
  lo : Nat
  hi : Nat
  lo_le_hi : lo ≤ hi := by omega
  deriving DecidableEq

namespace Span

/-- The bounds of a range that no span has. -/
structure Invalid where
  lo : Int
  hi : Int
  deriving DecidableEq

def Invalid.message (bounds : Invalid) : String :=
  s!"invalid span [{bounds.lo}, {bounds.hi})"

/-- The span between two integers, if they are bounds of one. -/
def ofInts (lo hi : Int) : Except Invalid Span :=
  if bounds : 0 ≤ lo ∧ lo ≤ hi then .ok ⟨lo.toNat, hi.toNat, by omega⟩
  else .error ⟨lo, hi⟩

/-- The span from one offset to another; it is empty where they are not in order. -/
def between (start stop : Nat) : Span := ⟨start, max start stop, Nat.le_max_left ..⟩

def origin : Span := ⟨0, 0, Nat.le_refl 0⟩

def length (span : Span) : Nat := span.hi - span.lo

/-- Why the length of a span is not told: it is no count of things in memory. -/
inductive LengthFault where
  | tooLong
  deriving DecidableEq

def LengthFault.message : LengthFault → String
  | tooLong => "cannot fit 'int' into an index-sized integer"

/-- The greatest length that is told, the greatest integer of 64 bits with a sign. -/
def maxLength : Nat := 0x7FFFFFFFFFFFFFFF

/-- The length of a span, if it is not too great. -/
def checkedLength (span : Span) : Except LengthFault Nat :=
  if span.length ≤ maxLength then .ok span.length else .error .tooLong

def contains (outer inner : Span) : Bool := outer.lo ≤ inner.lo && inner.hi ≤ outer.hi

def overlaps (left right : Span) : Bool := left.lo < right.hi && right.lo < left.hi

def join (left right : Span) : Span where
  lo := min left.lo right.lo
  hi := max left.hi right.hi
  lo_le_hi := by have := left.lo_le_hi; have := right.lo_le_hi; omega

/-- Spans are ordered by their start, then by their end. -/
def before (left right : Span) : Bool :=
  left.lo < right.lo || (left.lo == right.lo && left.hi < right.hi)

def text (span : Span) : String := s!"Span(lo={span.lo}, hi={span.hi})"

theorem between_lo (start stop : Nat) : (between start stop).lo = start := rfl

theorem between_hi {start stop : Nat} (ordered : start ≤ stop) :
    (between start stop).hi = stop := Nat.max_eq_right ordered

theorem eq_of_bounds {left right : Span} (starts : left.lo = right.lo)
    (stops : left.hi = right.hi) : left = right := by
  cases left
  cases right
  congr

theorem contains_iff {outer inner : Span} :
    outer.contains inner = true ↔ outer.lo ≤ inner.lo ∧ inner.hi ≤ outer.hi := by
  simp [contains]

theorem overlaps_iff {left right : Span} :
    left.overlaps right = true ↔ left.lo < right.hi ∧ right.lo < left.hi := by
  simp [overlaps]

end Span
end DrainLint
