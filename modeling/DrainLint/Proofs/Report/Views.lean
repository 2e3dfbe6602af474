import DrainLint.Proofs.Report.Runs
import DrainLint.Proofs.Source.Grid
import DrainLint.Report.View
import Mathlib.Data.List.DropRight

/-! # Annotated views

A view shows the lines that spans start on, each of them once and in order, and below a line the marks
of the spans that start there.  The marks stand under what they underline.

- `Marking`: a span of a text with how it is to be underlined;
- `markCount_within`, `markCount_across`: how many marks there are for a span on one line and for one
  over several;
- `lineText_split`: where the characters of a span stand in the line as it is shown;
- `Underlines`, `SourceFile.Shows`: what the row of a marking and a view have to show;
- `view_shows`: whatever markings are given, the view shows them.
-/

namespace DrainLint

/-! ## Rows -/

/-- A row of a view, by what stands before the bar and after it. -/
def barred (gutter content : List Char) : String :=
  String.ofList (' ' :: gutter ++ [' ', '|', ' '] ++ content)

/-- A line number, to the right of the given width. -/
def numberGutter (width line : Nat) : List Char :=
  List.replicate (width - (toString line).length) ' ' ++ (toString line).toList

theorem text_code (severity : Severity) (width line : Nat) (text : List Char) :
    (Row.code line text).text false severity width = barred (numberGutter width line) text := by
  have plain : (Row.code line text).text false severity width =
      " " ++ rightAligned width (toString line) ++ " " ++ "|" ++ " " ++ String.ofList text := rfl
  apply String.toList_injective
  simp [plain, barred, numberGutter, rightAligned]

theorem text_marks (severity : Severity) (width : Nat) (underline : Underline) :
    (Row.marks underline).text false severity width = barred (List.replicate width ' ')
      (List.replicate (underline.startCol - 1) ' ' ++ underline.markText.toList) := by
  have plain : (Row.marks underline).text false severity width =
      " " ++ rightAligned width "" ++ " " ++ "|" ++ " " ++
        String.ofList (List.replicate (underline.startCol - 1) ' ') ++ underline.markText := rfl
  apply String.toList_injective
  simp [plain, barred, rightAligned]

theorem length_numberGutter {lines : List Nat} {line : Nat} (listed : line ∈ lines) :
    (numberGutter (lineNumberWidth lines) line).length = lineNumberWidth lines := by
  have fits : (toString line).length < lineNumberWidth lines := by
    have known := List.mem_map_of_mem (f := fun line => (toString line).length) listed
    have most := List.le_max_of_mem known
    rw [lineNumberWidth, List.foldl_max_eq_max (List.ne_nil_of_mem known)]
    omega
  rw [numberGutter, List.length_append, List.length_replicate, String.length_toList]
  omega

/-! ## Columns -/

/-- An offset lies on its line, as many characters behind the start as its column tells. -/
theorem SourceFile.lineCol_eq (source : SourceFile) {place : Nat} (inside : place ≤ source.text.length) :
    (source.lineBounds (source.lineCol place).1).lo ≤ place ∧
      (source.lineCol place).2 = place - (source.lineBounds (source.lineCol place).1).lo + 1 := by
  obtain ⟨began, before, -⟩ := source.lineBounds_lineCol inside
  obtain ⟨line, number⟩ : ∃ line, (source.lineCol place).1 = line + 1 :=
    ⟨_, source.lineCol_line inside⟩
  have known : line < source.lineCount := by
    have counted := source.line_eq_length_reached inside
    have most : (source.reached place).length ≤ source.lineCount :=
      (List.takeWhile_prefix _).length_le
    omega
  rw [number] at began before ⊢
  exact ⟨began, congrArg Prod.snd (source.lineCol_of_bounds known began before).2⟩

/-! ## Markings -/

/-- A span of a text that is to be underlined, with a label and what a mark looks like, which is one
character as a rule. -/
structure Marking (source : SourceFile) where
  span : Span
  inside : span.hi ≤ source.text.length
  label : String
  mark : String

namespace Marking

variable {source : SourceFile} (marking : Marking source)

def underline : Underline :=
  source.underline marking.span marking.label marking.mark

/-- The line on which the span starts. -/
def line : Nat := (source.lineCol marking.span.lo).1

def column : Nat := (source.lineCol marking.span.lo).2

/-- The number of characters before the span in the line on which it starts. -/
def indent : Nat := marking.span.lo - (source.lineBounds marking.line).lo

/-- A mark; where none is given it is a caret. -/
def symbol : List Char := if marking.mark = "" then ['^'] else marking.mark.toList

/-- What stands after the marks. -/
def caption : List Char := if marking.label = "" then [] else ' ' :: marking.label.toList

theorem toList_markText : marking.underline.markText.toList =
    (List.replicate marking.underline.markCount marking.symbol).flatten ++
      marking.caption := by
  have label : marking.underline.label = marking.label := rfl
  have mark : marking.underline.mark = marking.mark := rfl
  have caption : (if marking.label.isEmpty then "" else " " ++ marking.label).toList =
      marking.caption := by
    rw [Marking.caption]
    split <;> simp_all
  have symbol : (if marking.mark.isEmpty then "^" else marking.mark).toList =
      marking.symbol := by
    rw [Marking.symbol]
    split <;> simp_all
  simp only [Underline.markText, label, mark, String.toList_append, caption, String.toList_join,
    List.flatMap_def, List.map_replicate, symbol]

theorem lo_le_length : marking.span.lo ≤ source.text.length :=
  marking.span.lo_le_hi.trans marking.inside

theorem start_le : (source.lineBounds marking.line).lo ≤ marking.span.lo :=
  (source.lineCol_eq marking.lo_le_length).1

theorem column_eq : marking.column = marking.indent + 1 :=
  (source.lineCol_eq marking.lo_le_length).2

/-- A span ends on the line on which it starts if there is no newline in it. -/
theorem endLine_eq_iff : (source.lineCol marking.span.hi).1 = marking.line ↔
    '\n' ∉ source.slice marking.span := by
  have split : source.text.take marking.span.hi =
      source.text.take marking.span.lo ++ source.slice marking.span := by
    have shorter : min marking.span.lo marking.span.hi = marking.span.lo :=
      Nat.min_eq_left marking.span.lo_le_hi
    conv_lhs => rw [← List.take_append_drop marking.span.lo (source.text.take marking.span.hi)]
    rw [List.take_take, shorter, SourceFile.slice]
  rw [line, source.lineCol_line marking.inside, source.lineCol_line marking.lo_le_length, split,
    List.count_append, ← List.count_eq_zero]
  omega

theorem markCount_eq : marking.underline.markCount =
    max ((if (source.lineCol marking.span.hi).1 = marking.line
      then (source.lineCol marking.span.hi).2
      else (source.lineText marking.line).length + 1) - marking.column) 1 := rfl

/-- On one line there are as many marks as the span has characters, and one if it has none. -/
theorem markCount_within (within : '\n' ∉ source.slice marking.span) :
    marking.underline.markCount = max marking.span.length 1 := by
  have sameLine := marking.endLine_eq_iff.mpr within
  obtain ⟨-, column⟩ := source.lineCol_eq marking.inside
  rw [sameLine] at column
  have began := marking.start_le
  have ordered := marking.span.lo_le_hi
  rw [marking.markCount_eq, if_pos sameLine, column, marking.column_eq, indent, Span.length]
  omega

/-- Over several lines there are marks up to where the first line ends as it is shown, and there is
one if the span starts after that. -/
theorem markCount_across (across : '\n' ∈ source.slice marking.span) :
    marking.underline.markCount =
      max 1 ((source.lineText marking.line).drop marking.indent).length := by
  have otherLine : (source.lineCol marking.span.hi).1 ≠ marking.line :=
    fun sameLine => marking.endLine_eq_iff.mp sameLine across
  rw [marking.markCount_eq, if_neg otherLine, marking.column_eq, List.length_drop]
  omega

/-! ## Characters -/

/-- A line as it is shown starts like the line. -/
theorem lineText_prefix : source.lineText marking.line <+:
    source.text.drop (source.lineBounds marking.line).lo := by
  rw [SourceFile.lineText]
  split
  · exact List.nil_prefix
  · rw [Int.toNat_natCast]
    refine (List.rdropWhile_prefix (· = '\r') (source.slice (source.lineBounds marking.line))).trans ?_
    rw [SourceFile.slice, List.drop_take]
    exact List.take_prefix _ _

/-- The characters of a span stand in the line as it is shown, behind those before it. -/
theorem lineText_split (shown : marking.span.hi ≤
    (source.lineBounds marking.line).lo + (source.lineText marking.line).length) :
    ∃ before after, source.lineText marking.line =
        before ++ source.slice marking.span ++ after ∧ before.length = marking.indent := by
  obtain ⟨rest, whole⟩ := marking.lineText_prefix
  have began := marking.start_le
  have ordered := marking.span.lo_le_hi
  generalize isStart : (source.lineBounds marking.line).lo = start at *
  generalize source.lineText marking.line = text at *
  -- The line and the span are cut out of the same text, so the end of the span may be cut first.
  have kept : (text ++ rest).take (marking.span.hi - start) =
      text.take (marking.span.hi - start) := List.take_append_of_le_length (by omega)
  have upTo : text.take (marking.span.hi - start) =
      (source.text.take marking.span.hi).drop start := by
    rw [← kept, whole, List.take_drop, Nat.add_sub_cancel' (began.trans ordered)]
  have own : (text.take (marking.span.hi - start)).drop marking.indent =
      source.slice marking.span := by
    rw [upTo, List.drop_drop, indent, isStart, Nat.add_sub_cancel' began, SourceFile.slice]
  refine ⟨(text.take (marking.span.hi - start)).take marking.indent,
    text.drop (marking.span.hi - start), ?_, ?_⟩
  · rw [← own, List.take_append_drop, List.take_append_drop]
  · rw [List.length_take, List.length_take, indent, isStart]
    omega

end Marking

/-! ## What a view shows -/

/-- The characters after the bar: marks that begin under the first character of the span, as many as
given and each as wide as one character if it is one, and the label. -/
structure Marking.Draws {source : SourceFile} (marking : Marking source)
    (content : List Char) (count : Nat) : Prop where
  drawn : content = List.replicate marking.indent ' ' ++
    ((List.replicate count marking.symbol).flatten ++ marking.caption)
  aligned : marking.mark.length ≤ 1 →
    (List.replicate count marking.symbol).flatten.length = count

/-- The row of a marking: within a line the marks stand under the characters of the span, and
over several lines under the rest of the first one. -/
structure Marking.Underlines {source : SourceFile} (marking : Marking source)
    (content : List Char) : Prop where
  within : '\n' ∉ source.slice marking.span → marking.span.lo < marking.span.hi →
    marking.span.hi ≤
        (source.lineBounds marking.line).lo + (source.lineText marking.line).length →
      ∃ before after, source.lineText marking.line =
          before ++ source.slice marking.span ++ after ∧
        before.length = marking.indent ∧
          marking.Draws content (source.slice marking.span).length
  across : '\n' ∈ source.slice marking.span →
    marking.Draws content
      (max 1 ((source.lineText marking.line).drop marking.indent).length)

/-- A view that shows markings: each line on which one starts with its text, in order and once, and
after it the rows of those that start there, from left to right.  What stands before the bar is equally
wide in all rows. -/
structure SourceFile.Shows (source : SourceFile) (markings : List (Marking source))
    (view : List String) (width : Nat) (shown : List (Nat × List (Marking source)))
    (content : Marking source → List Char) : Prop where
  rows : view = shown.flatMap fun (line, starting) =>
    barred (numberGutter width line) (source.lineText line) ::
      starting.map fun marking => barred (List.replicate width ' ') (content marking)
  inOneColumn : ∀ entry ∈ shown, (numberGutter width entry.1).length = width
  ascending : (shown.map Prod.fst).Pairwise (· < ·)
  lines : ∀ line, line ∈ shown.map Prod.fst ↔ ∃ marking ∈ markings, marking.line = line
  complete : ∀ entry ∈ shown, entry.2.Perm (markings.filter (·.line = entry.1))
  leftToRight : ∀ entry ∈ shown, entry.2.Pairwise fun left right => left.column ≤ right.column
  marked : ∀ marking ∈ markings, marking.Underlines (content marking)

namespace Marking

variable {source : SourceFile} (marking : Marking source)

def content : List Char :=
  List.replicate (marking.underline.startCol - 1) ' ' ++ marking.underline.markText.toList

theorem draws_content : marking.Draws marking.content marking.underline.markCount where
  drawn := by
    have indented : marking.underline.startCol - 1 = marking.indent :=
      Nat.sub_eq_of_eq_add marking.column_eq
    rw [content, indented, toList_markText]
  aligned narrow := by
    have single : marking.symbol.length = 1 := by
      rw [symbol]
      split
      · rfl
      · next given =>
        have known : marking.mark.length ≠ 0 := by simpa using given
        rw [String.length_toList]
        omega
    simp [single]

theorem underlines_content : marking.Underlines marking.content where
  within single filled shown := by
    obtain ⟨before, after, split, indented⟩ := marking.lineText_split shown
    have count : marking.underline.markCount = (source.slice marking.span).length := by
      have inside := marking.inside
      rw [marking.markCount_within single, SourceFile.slice, List.length_drop,
        List.length_take_of_le inside, Span.length]
      omega
    exact ⟨before, after, split, indented, count ▸ marking.draws_content⟩
  across several := marking.markCount_across several ▸ marking.draws_content

/-! ## Groups -/

/-- The order in which markings are shown. -/
def startsBefore (left right : Marking source) : Bool :=
  left.line < right.line || (left.line == right.line && left.column ≤ right.column)

theorem startsBefore_iff {left right : Marking source} :
    left.startsBefore right = true ↔
      left.line < right.line ∨ (left.line = right.line ∧ left.column ≤ right.column) := by
  simp [startsBefore]

theorem pairwise_startsBefore (markings : List (Marking source)) :
    (markings.mergeSort startsBefore).Pairwise fun left right =>
      left.line < right.line ∨ (left.line = right.line ∧ left.column ≤ right.column) := by
  refine (List.pairwise_mergeSort ?_ ?_ markings).imp startsBefore_iff.mp
  · intro a b c
    rw [startsBefore_iff, startsBefore_iff, startsBefore_iff]
    omega
  · intro a b
    rw [Bool.or_eq_true, startsBefore_iff, startsBefore_iff]
    omega

/-- The markings by the lines on which they start. -/
def shown (markings : List (Marking source)) : List (Nat × List (Marking source)) :=
  ((markings.mergeSort startsBefore).splitBy fun left right => left.line == right.line).map
    (runOf line)

theorem runs_shown (markings : List (Marking source)) :
    Runs line (markings.mergeSort startsBefore) (shown markings) :=
  runs_splitBy line ((pairwise_startsBefore markings).imp fun ordered => by omega)

theorem viewRows_eq (markings : List (Marking source)) :
    source.viewRows (markings.map underline) =
      (shown markings).flatMap fun (line, starting) =>
        .code line (source.lineText line) :: starting.map fun marking => .marks marking.underline := by
  have sorted : Underline.sortedByPlace (markings.map underline) =
      (markings.mergeSort startsBefore).map underline := by
    exact (List.map_mergeSort (f := underline) fun _ _ _ _ => rfl).symm
  rw [SourceFile.viewRows, sorted, splitBy_map, shown, List.flatMap_map, List.flatMap_map]
  refine List.flatMap_congr fun group listed => ?_
  cases group with
  | nil => exact absurd rfl (List.ne_nil_of_mem_splitBy listed)
  | cons first rest =>
    rw [List.map_cons, SourceFile.lineRows, ← List.map_cons, List.map_map]
    rfl

/-- Whatever markings are given, the view without colours shows each line on which one starts once
and in order, with a row for each from left to right, all bars in one column and the marks under what
they underline. -/
theorem view_shows (severity : Severity) (markings : List (Marking source)) :
    ∃ width shown content, source.Shows markings
      (source.view false severity (markings.map underline)) width shown content := by
  -- What is shown are the runs of the sorted markings, and sorting only rearranges them.
  have cut := runs_shown markings
  have ordered := pairwise_startsBefore markings
  have sorted : (markings.mergeSort startsBefore).Perm markings := List.mergeSort_perm ..
  refine ⟨lineNumberWidth ((markings.map underline).map Underline.startLine), shown markings,
    content, ?_⟩
  constructor
  case rows =>
    rw [SourceFile.view, viewRows_eq, List.map_flatMap]
    refine List.flatMap_congr fun entry _ => ?_
    generalize lineNumberWidth ((markings.map underline).map Underline.startLine) = width
    rw [List.map_cons, text_code, List.map_map]
    exact congrArg _ (List.map_congr_left fun marking _ => text_marks severity width _)
  case inOneColumn =>
    intro entry listed
    obtain ⟨marking, member, isLine⟩ :=
      (cut.mem_keys_iff entry.1).mp (List.mem_map_of_mem listed)
    rw [List.map_map]
    refine length_numberGutter (List.mem_map.mpr ⟨marking, ?_, isLine⟩)
    exact sorted.mem_iff.mp member
  case ascending => exact List.pairwise_map.mpr cut.ascending
  case lines =>
    intro line
    rw [cut.mem_keys_iff]
    simp only [sorted.mem_iff]
  case complete =>
    intro entry listed
    rw [← cut.filter_eq listed]
    exact sorted.filter _
  case leftToRight =>
    intro entry listed
    have within : entry.2.Sublist (markings.mergeSort startsBefore) := by
      rw [← cut.filter_eq listed]
      exact List.filter_sublist
    refine (ordered.sublist within).imp_of_mem fun isLeft isRight inOrder => ?_
    have left := cut.keyed entry listed _ isLeft
    have right := cut.keyed entry listed _ isRight
    omega
  case marked => exact fun marking _ => marking.underlines_content

/-- A file with a loop over several lines. -/
def loopFile : SourceFile :=
  ⟨"loop.rs", "while !v.is_empty() \x7b let x = v.pop().unwrap();\n    f(x);\n\x7d".toList⟩

/-- The call and the condition of the loop, which share a line, what is done on the next one, and the
loop itself. -/
def loopMarkings : List (Marking loopFile) :=
  [⟨⟨30, 46, by decide⟩, by decide, "", "^"⟩, ⟨⟨52, 56, by decide⟩, by decide, "the use", "-"⟩,
    ⟨⟨6, 19, by decide⟩, by decide, "the condition", "-"⟩, ⟨⟨0, 59, by decide⟩, by decide, "", "-"⟩]

def loopView : List String :=
  ["  1 | while !v.is_empty() \x7b let x = v.pop().unwrap();",
    "    | -----------------------------------------------",
    "    |       ------------- the condition",
    "    |                               ^^^^^^^^^^^^^^^^",
    "  2 |     f(x);",
    "    |     ---- the use"]

theorem view_shows_loopFile :
    ∃ width shown content, loopFile.Shows loopMarkings loopView width shown content := by
  have underlined : loopMarkings.map underline =
      [⟨1, 31, 1, 47, "", "^"⟩, ⟨2, 5, 2, 9, "the use", "-"⟩, ⟨1, 7, 1, 20, "the condition", "-"⟩,
        ⟨1, 1, 3, 48, "", "-"⟩] := rfl
  have sorted : Underline.sortedByPlace (loopMarkings.map underline) =
      [⟨1, 1, 3, 48, "", "-"⟩, ⟨1, 7, 1, 20, "the condition", "-"⟩, ⟨1, 31, 1, 47, "", "^"⟩,
        ⟨2, 5, 2, 9, "the use", "-"⟩] := by
    rw [underlined]
    simp [Underline.sortedByPlace, List.mergeSort]
  have view : loopFile.view false .style (loopMarkings.map underline) = loopView := by
    rw [SourceFile.view, SourceFile.viewRows, sorted]
    decide +kernel
  rw [← view]
  exact view_shows .style loopMarkings

end Marking

end DrainLint
