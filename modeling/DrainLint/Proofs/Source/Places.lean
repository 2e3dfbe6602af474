import DrainLint.Source.File
import Mathlib.Data.Prod.Lex
import Mathlib.Order.Interval.Set.Defs
import Mathlib.Order.Monotone.Basic

/-! # Offsets and places

A reader who counts lines and columns while going through a text comes at every offset to the line and
column that the table of line starts gives, and at no place twice; so a place tells its offset.

- `nextPlace`, `placeAfter`: the place after one more character, and after a text;
- `placeOf_eq`: the line and column of an offset are the place where the text before it ends;
- `placeOf_strictMonoOn`: places come in the order of their offsets;
- `offsetOf?`, `offsetOf?_placeOf`: the offset of a place, found by going through the text.
-/

namespace DrainLint

/-! ## Counting lines and columns -/

/-- A line and a column, both counted from one, in the order of reading. -/
abbrev LineCol := Nat ×ₗ Nat

namespace LineCol

def start : LineCol := toLex (1, 1)

def line (place : LineCol) : Nat := (ofLex place).1

def column (place : LineCol) : Nat := (ofLex place).2

end LineCol

/-- The place after one more character: a newline leads to the start of the next line. -/
def nextPlace (place : LineCol) (c : Char) : LineCol :=
  if c = '\n' then toLex (place.line + 1, 1) else toLex (place.line, place.column + 1)

/-- The place after a text that begins at a place. -/
def placeAfter (place : LineCol) (text : List Char) : LineCol := text.foldl nextPlace place

theorem lt_nextPlace (place : LineCol) (c : Char) : place < nextPlace place c := by
  rw [Prod.Lex.lt_iff, nextPlace]
  split
  · exact .inl (Nat.lt_succ_self _)
  · exact .inr ⟨rfl, Nat.lt_succ_self _⟩

theorem placeAfter_append (place : LineCol) (before text : List Char) :
    placeAfter place (before ++ text) = placeAfter (placeAfter place before) text :=
  List.foldl_append

/-- A reader never comes back to a place. -/
theorem lt_placeAfter (place : LineCol) (c : Char) (text : List Char) :
    place < placeAfter place (c :: text) := by
  induction text generalizing place c with
  | nil => exact lt_nextPlace place c
  | cons d text inductionHypothesis =>
    exact (lt_nextPlace place c).trans (inductionHypothesis (nextPlace place c) d)

namespace SourceFile

/-! ## The table of line starts -/

theorem lt_of_mem_lineStartsAfter {text : List Char} {offset start : Nat}
    (member : start ∈ lineStartsAfter offset text) : offset < start := by
  induction text generalizing offset with
  | nil => cases member
  | cons c text inductionHypothesis =>
    rw [lineStartsAfter] at member
    split at member
    · cases member with
      | head => exact Nat.lt_succ_self offset
      | tail _ member => exact Nat.lt_of_succ_lt (inductionHypothesis member)
    · exact Nat.lt_of_succ_lt (inductionHypothesis member)

theorem no_start_reached (offset : Nat) (text : List Char) :
    (lineStartsAfter offset text).takeWhile (· ≤ offset) = [] := by
  cases starts : lineStartsAfter offset text with
  | nil => rfl
  | cons start rest =>
    have later : offset < start := lt_of_mem_lineStartsAfter (starts ▸ List.mem_cons_self)
    exact List.takeWhile_cons_of_neg (by simpa using later)

/-- The line starts that are reached tell the place: their number is the number of lines, and the
last of them is where the columns begin. -/
theorem placeAfter_take {text : List Char} {line start offset length : Nat} (began : start ≤ offset)
    (inside : length ≤ text.length) :
    placeAfter (toLex (line, offset - start + 1)) (text.take length) =
      toLex (line + ((lineStartsAfter offset text).takeWhile (· ≤ offset + length)).length,
        offset + length -
          ((lineStartsAfter offset text).takeWhile (· ≤ offset + length)).getLastD start + 1) := by
  induction text generalizing line start offset length with
  | nil =>
    obtain rfl : length = 0 := Nat.le_zero.mp inside
    rfl
  | cons c text inductionHypothesis =>
    cases length with
    | zero =>
      have noneReached := no_start_reached offset (c :: text)
      simp only [Nat.add_zero, noneReached]
      rfl
    | succ length =>
      have inside : length ≤ text.length := Nat.le_of_succ_le_succ inside
      have moved : offset + (length + 1) = offset + 1 + length := by omega
      rw [List.take_succ_cons, placeAfter, List.foldl_cons, nextPlace, lineStartsAfter, moved]
      split
      · next isNewline =>
        -- The columns begin anew, so the start of the next line stands for the old one.
        have reached : decide (offset + 1 ≤ offset + 1 + length) = true :=
          decide_eq_true (Nat.le_add_right ..)
        have rest := @inductionHypothesis (line + 1) _ _ _ (Nat.le_refl (offset + 1)) inside
        rw [Nat.sub_self] at rest
        simp only [List.takeWhile_cons, reached, if_true, List.length_cons, List.getLastD_cons]
        rw [Nat.add_comm (List.length _) 1, ← Nat.add_assoc line]
        exact rest
      · next other =>
        have column : offset - start + 1 = offset + 1 - start := by omega
        rw [column]
        exact inductionHypothesis (Nat.le_succ_of_le began) inside

/-- The line and column of an offset. -/
def placeOf (source : SourceFile) (offset : Nat) : LineCol := toLex (source.lineCol offset)

/-- The line and column of an offset are the place where the text before it ends. -/
theorem placeOf_eq (source : SourceFile) {offset : Nat} (inside : offset ≤ source.text.length) :
    source.placeOf offset = placeAfter .start (source.text.take offset) := by
  have counted := @placeAfter_take source.text 1 _ _ _ (Nat.le_refl 0) inside
  simp only [Nat.sub_self, Nat.zero_add] at counted
  rw [placeOf, LineCol.start, counted, lineCol, lineStarts, Int.toNat_natCast, Nat.min_eq_left inside,
    List.takeWhile_cons_of_pos (by simp), List.length_cons, List.getLastD_cons, Nat.add_comm 1]

theorem placeOf_length (source : SourceFile) {before after : List Char}
    (split : source.text = before ++ after) :
    source.placeOf before.length = placeAfter .start before := by
  rw [placeOf_eq source (by simp [split]), split, List.take_left]

/-- Places come in the order of their offsets. -/
theorem placeOf_strictMonoOn (source : SourceFile) :
    StrictMonoOn source.placeOf (Set.Iic source.text.length) := by
  intro left leftInside right rightInside earlier
  rw [placeOf_eq source leftInside, placeOf_eq source rightInside]
  obtain ⟨length, rfl⟩ := Nat.exists_eq_add_of_lt earlier
  rw [Nat.add_assoc, List.take_add, placeAfter_append]
  cases after : source.text.drop left with
  | nil =>
    have atEnd := List.drop_eq_nil_iff.mp after
    exact absurd (earlier.trans_le rightInside) (Nat.not_lt.mpr atEnd)
  | cons c text => exact lt_placeAfter _ c _

/-! ## The offset of a place -/

/-- How many characters a reader goes on from a place before standing at another one. -/
def stepsTo? (target place : LineCol) : List Char → Option Nat
  | [] => if place = target then some 0 else none
  | c :: text =>
    if place = target then some 0 else (stepsTo? target (nextPlace place c) text).map (· + 1)

/-- The offset of a place, if the reader of the text comes to it. -/
def offsetOf? (source : SourceFile) (place : LineCol) : Option Nat :=
  stepsTo? place .start source.text

theorem stepsTo?_placeAfter (place : LineCol) (before text : List Char) :
    stepsTo? (placeAfter place before) place (before ++ text) = some before.length := by
  induction before generalizing place with
  | nil => cases text <;> simp [stepsTo?, placeAfter]
  | cons c before inductionHypothesis =>
    rw [List.cons_append, stepsTo?, if_neg (lt_placeAfter place c before).ne]
    exact congrArg (Option.map (· + 1)) (inductionHypothesis (nextPlace place c))

/-- The place of an offset tells the offset. -/
theorem offsetOf?_placeOf (source : SourceFile) {offset : Nat}
    (inside : offset ≤ source.text.length) :
    source.offsetOf? (source.placeOf offset) = some offset := by
  have found := stepsTo?_placeAfter .start (source.text.take offset) (source.text.drop offset)
  rw [List.take_append_drop, List.length_take_of_le inside] at found
  rw [placeOf_eq source inside]
  exact found

end SourceFile
end DrainLint
