import DrainLint.Proofs.Source.Lines
import Mathlib.Data.List.Forall2
import Mathlib.Data.List.GetD
import Mathlib.Data.Set.Function

/-! # The grid of lines and columns

Every offset of a text has a place of its own in the grid that the lines make, and every place of the
grid is that of an offset: the columns of a line go from one to one more than the line has characters,
the last of them before its newline.

- `placeAfter_line`: the line is told by the newlines that come before;
- `lineCol_of_bounds`: the offsets within the bounds of a line are its columns;
- `drop_start`: the text from a line on is the lines from there on, with newlines between them;
- `SourceFile.Gridded`, `gridded`: offsets and places of the grid correspond one to one and in order.
-/

namespace DrainLint

theorem placeAfter_line (place : LineCol) (text : List Char) :
    (placeAfter place text).line = place.line + text.count '\n' := by
  induction text generalizing place with
  | nil => rfl
  | cons c text inductionHypothesis =>
    have next : (nextPlace place c).line = place.line + [c].count '\n' := by
      by_cases newline : c = '\n'
      · rw [nextPlace, if_pos newline, newline]
        rfl
      · rw [nextPlace, if_neg newline, List.count_singleton, if_neg (by simpa using newline)]
        rfl
    rw [placeAfter, List.foldl_cons, ← placeAfter, inductionHypothesis, next, Nat.add_assoc,
      ← List.count_append, List.singleton_append]

namespace SourceFile

variable (source : SourceFile) {line place : Nat}

/-- The number of a line is told by the newlines before the offset. -/
theorem lineCol_line (inside : place ≤ source.text.length) :
    (source.lineCol place).1 = (source.text.take place).count '\n' + 1 := by
  have reader := congrArg LineCol.line (source.placeOf_eq inside)
  rw [placeAfter_line] at reader
  exact reader.trans (Nat.add_comm ..)

/-! ## The starts of the lines -/

theorem lineStartsAfter_pairwise (offset : Nat) (text : List Char) :
    (lineStartsAfter offset text).Pairwise (· < ·) := by
  induction text generalizing offset with
  | nil => exact .nil
  | cons c text inductionHypothesis =>
    rw [lineStartsAfter]
    split
    · exact .cons (fun start member => lt_of_mem_lineStartsAfter member) (inductionHypothesis _)
    · exact inductionHypothesis _

theorem lineStarts_pairwise : source.lineStarts.Pairwise (· < ·) :=
  .cons (fun _ member => lt_of_mem_lineStartsAfter member) (lineStartsAfter_pairwise 0 source.text)

theorem start_le_length {start : Nat} (member : start ∈ source.lineStarts) :
    start ≤ source.text.length := by
  rcases List.mem_cons.mp member with rfl | later
  · exact Nat.zero_le _
  · obtain ⟨after, newline⟩ := newline_before_start later
    have known := (List.getElem?_eq_some_iff.mp newline).1
    omega

/-- The line starts up to a place are those up to the start of its line. -/
theorem reached_eq (known : line < source.lineStarts.length)
    (began : source.lineStarts[line] ≤ place)
    (before : ∀ later : line + 1 < source.lineStarts.length,
      place < source.lineStarts[line + 1]) :
    source.reached place = source.lineStarts.take (line + 1) := by
  -- The starts rise: the place has passed all of them up to this one, and not the next one.
  have sorted := List.pairwise_iff_getElem.mp source.lineStarts_pairwise
  have earlier : ∀ start ∈ source.lineStarts.take (line + 1), decide (start ≤ place) = true := by
    intro start member
    obtain ⟨index, inside, rfl⟩ := List.mem_iff_getElem.mp member
    rw [List.getElem_take]
    rw [List.length_take] at inside
    refine decide_eq_true (Nat.le_trans ?_ began)
    rcases Nat.lt_or_ge index line with less | same
    · exact Nat.le_of_lt (sorted _ _ _ known less)
    · have : index = line := by omega
      simp [this]
  have next : (source.lineStarts.drop (line + 1)).takeWhile (· ≤ place) = [] := by
    by_cases later : line + 1 < source.lineStarts.length
    · rw [List.drop_eq_getElem_cons later]
      exact List.takeWhile_cons_of_neg (by simpa using before later)
    · rw [List.drop_eq_nil_of_le (by omega)]
      rfl
  conv_lhs => rw [reached, ← List.take_append_drop (line + 1) source.lineStarts]
  rw [List.takeWhile_append_of_pos earlier, next, List.append_nil]

/-! ## The bounds of the lines -/

theorem lineBounds_lo (known : line < source.lineStarts.length) :
    (source.lineBounds (line + 1)).lo = source.lineStarts[line] := by
  rw [lineBounds, Span.between_lo, Nat.add_sub_cancel, List.getD_eq_getElem _ _ known]

/-- A line ends right before the newline after which the next one starts. -/
theorem lineBounds_hi_succ (more : line + 1 < source.lineStarts.length) :
    (source.lineBounds (line + 1)).hi + 1 = source.lineStarts[line + 1] ∧
      source.text[(source.lineBounds (line + 1)).hi]? = some '\n' := by
  have rising : source.lineStarts[line] < source.lineStarts[line + 1] :=
    List.pairwise_iff_getElem.mp source.lineStarts_pairwise _ _ _ more (Nat.lt_succ_self line)
  have stops : (source.lineBounds (line + 1)).hi = source.lineStarts[line + 1] - 1 := by
    rw [lineBounds, if_pos more, List.getD_eq_getElem _ _ more, Nat.add_sub_cancel,
      List.getD_eq_getElem _ _ (Nat.lt_of_succ_lt more)]
    exact Span.between_hi (by omega)
  have member : source.lineStarts[line + 1] ∈ lineStartsAfter 0 source.text :=
    List.getElem_mem (Nat.lt_of_succ_lt_succ more)
  have newline := (newline_before_start member).2
  rw [stops]
  exact ⟨by omega, newline⟩

theorem lineBounds_hi_last : (source.lineBounds source.lineCount).hi = source.text.length := by
  have last : source.lineStarts.length - 1 < source.lineStarts.length :=
    Nat.sub_lt (Nat.succ_pos _) Nat.one_pos
  rw [lineBounds, lineCount, if_neg (Nat.lt_irrefl _), List.getD_eq_getElem _ _ last]
  exact Span.between_hi (source.start_le_length (List.getElem_mem last))

/-- The offsets within the bounds of a line are its columns. -/
theorem lineCol_of_bounds (known : line < source.lineCount)
    (began : (source.lineBounds (line + 1)).lo ≤ place)
    (before : place ≤ (source.lineBounds (line + 1)).hi) :
    place ≤ source.text.length ∧
      source.lineCol place = (line + 1, place - (source.lineBounds (line + 1)).lo + 1) := by
  rw [source.lineBounds_lo known] at began ⊢
  -- A line ends before its newline, and the last one, which has none, ends with the text.
  have inside : place ≤ source.text.length := by
    by_cases more : line + 1 < source.lineStarts.length
    · have newline := (source.lineBounds_hi_succ more).2
      have := (List.getElem?_eq_some_iff.mp newline).1
      omega
    · have isLast : line + 1 = source.lineCount := by
        rw [lineCount] at known ⊢
        omega
      rwa [isLast, source.lineBounds_hi_last] at before
  have reached := source.reached_eq known began fun more => by
    have := (source.lineBounds_hi_succ more).1
    omega
  refine ⟨inside, ?_⟩
  have started : (source.lineStarts.take (line + 1)).getLastD 0 = source.lineStarts[line] := by
    rw [List.take_succ_eq_append_getElem known, List.getLastD_concat]
  have counted : (source.lineStarts.take (line + 1)).length = line + 1 :=
    List.length_take_of_le known
  rw [SourceFile.reached] at reached
  simp only [lineCol, Int.toNat_natCast, Nat.min_eq_left inside, reached, started, counted]

/-! ## The text as its lines -/

/-- The text from a line on is the lines from there on, with newlines between them. -/
theorem drop_start (line remaining : Nat) (ends : line + 1 + remaining = source.lineCount) :
    source.text.drop (source.lineBounds (line + 1)).lo =
      ['\n'].intercalate ((List.range' (line + 1) (remaining + 1)).map fun number =>
        source.slice (source.lineBounds number)) := by
  induction remaining generalizing line with
  | zero =>
    rw [Nat.add_zero] at ends
    rw [List.range'_one, List.map_singleton, List.intercalate_singleton, slice, ends,
      lineBounds_hi_last, List.take_length]
  | succ remaining inductionHypothesis =>
    have more : line + 1 < source.lineStarts.length := by
      rw [lineCount] at ends
      omega
    obtain ⟨next, newline⟩ := source.lineBounds_hi_succ more
    have bounds := (source.lineBounds (line + 1)).lo_le_hi
    have rest := inductionHypothesis (line + 1) (by omega)
    rw [source.lineBounds_lo more, ← next] at rest
    obtain ⟨inside, isNewline⟩ := List.getElem?_eq_some_iff.mp newline
    -- The line, its newline, and what the induction says of the text after that.
    have split : source.text.drop (source.lineBounds (line + 1)).lo =
        source.slice (source.lineBounds (line + 1)) ++
          '\n' :: source.text.drop ((source.lineBounds (line + 1)).hi + 1) := by
      have kept : (source.text.take (source.lineBounds (line + 1)).hi).length =
          (source.lineBounds (line + 1)).hi := List.length_take_of_le (Nat.le_of_lt inside)
      rw [← isNewline, ← List.drop_eq_getElem_cons inside, slice]
      conv_lhs => rw [← List.take_append_drop (source.lineBounds (line + 1)).hi source.text]
      exact List.drop_append_of_le_length (by omega)
    have others : ((List.range' (line + 1 + 1) (remaining + 1)).map fun number =>
        source.slice (source.lineBounds number)) ≠ [] := by simp
    rw [List.range'_succ, List.map_cons, List.intercalate_cons_of_ne_nil others, split, rest,
      List.append_assoc, List.singleton_append]

/-! ## Spans of lines -/

theorem nthFromEitherEnd_of_lt {xs : List Nat} {index : Nat} (known : index < xs.length) :
    nthFromEitherEnd xs index = .ok xs[index] := by
  have place : ¬ (index : Int) < 0 := by omega
  simp only [nthFromEitherEnd, if_neg place, Int.toNat_natCast, List.getElem?_eq_getElem known]

/-- Every line that is counted has a span, and that is its bounds. -/
theorem lineSpan_eq (known : line < source.lineCount) :
    source.lineSpan ((line + 1 : Nat) : Int) = .ok (source.lineBounds (line + 1)) := by
  have index : ((line + 1 : Nat) : Int) - 1 = (line : Nat) := by omega
  have bounds := (source.lineBounds (line + 1)).lo_le_hi
  have whole : Span.ofInts (source.lineStarts[line] : Nat)
      ((source.lineBounds (line + 1)).hi : Nat) = .ok (source.lineBounds (line + 1)) := by
    rw [source.lineBounds_lo known] at bounds
    rw [Span.ofInts, dif_pos (by omega)]
    exact congrArg _ (Span.eq_of_bounds (source.lineBounds_lo known).symm rfl)
  rw [lineSpan, index, nthFromEitherEnd_of_lt known]
  -- Only for the last line no later start is looked up.
  by_cases more : line + 1 < source.lineStarts.length
  · have stops : ((source.lineStarts[line + 1] : Nat) : Int) - 1 =
        ((source.lineBounds (line + 1)).hi : Nat) := by
      have := (source.lineBounds_hi_succ more).1
      omega
    have isMore : ((line + 1 : Nat) : Int) < source.lineStarts.length := by omega
    simp only [bind, Except.bind, if_pos isMore, nthFromEitherEnd_of_lt more, stops, whole]
    rfl
  · have isLast : line + 1 = source.lineCount := by
      rw [lineCount] at known ⊢
      omega
    have noMore : ¬ ((line + 1 : Nat) : Int) < source.lineStarts.length := by omega
    rw [isLast, source.lineBounds_hi_last, ← isLast] at whole
    simp only [bind, Except.bind, if_neg noMore, whole]
    rfl

/-! ## Offsets and places of the grid -/

/-- The places of the grid: lines are counted from one to the number of lines, columns from one to one
more than the length of the line. -/
def grid : Set (Nat × Nat) := {place | (1 ≤ place.1 ∧ place.1 ≤ source.lineCount) ∧
  ∃ span, source.lineSpan place.1 = .ok span ∧ 1 ≤ place.2 ∧ place.2 ≤ span.length + 1}

/-- How offsets and places of the grid correspond. -/
structure Gridded : Prop where
  oneToOne : Set.BijOn (fun offset : Nat => source.lineCol offset) (Set.Iic source.text.length)
    source.grid
  inOrder : ∀ left right : Nat, left < right → right ≤ source.text.length →
    toLex (source.lineCol left) < toLex (source.lineCol right)
  newlines : ∀ offset : Nat, offset ≤ source.text.length →
    (source.lineCol offset).1 = (source.text.take offset).count '\n' + 1
  before : ∀ offset : Int, offset ≤ 0 → source.lineCol offset = source.lineCol 0
  after : ∀ offset : Int, source.text.length ≤ offset →
    source.lineCol offset = source.lineCol source.text.length
  lines : ∃ spans, List.Forall₂ (fun line span => source.lineSpan (line : Nat) = .ok span)
      (List.range' 1 source.lineCount) spans ∧
    ['\n'].intercalate (spans.map source.slice) = source.text

theorem lineCol_mem_grid (inside : place ≤ source.text.length) :
    source.lineCol place ∈ source.grid := by
  have bounds := source.lineBounds_lineCol inside
  have counted := source.line_eq_length_reached inside
  have positive := source.length_reached_pos place
  have known : (source.reached place).length ≤ source.lineCount :=
    (List.takeWhile_prefix _).length_le
  obtain ⟨line, isLine⟩ := Nat.exists_eq_add_of_lt positive
  rw [Nat.zero_add] at isLine
  rw [isLine] at counted known
  rw [counted] at bounds
  obtain ⟨began, before, -⟩ := bounds
  rw [(source.lineCol_of_bounds known began before).2]
  refine ⟨⟨Nat.le_add_left .., known⟩, _, source.lineSpan_eq known, Nat.le_add_left .., ?_⟩
  rw [Span.length]
  omega

theorem exists_of_mem_grid {place : Nat × Nat} (member : place ∈ source.grid) :
    ∃ offset, offset ≤ source.text.length ∧ source.lineCol (offset : Nat) = place := by
  obtain ⟨number, column⟩ := place
  obtain ⟨⟨positive, known⟩, span, isSpan, began, before⟩ := member
  obtain ⟨line, rfl⟩ := Nat.exists_eq_add_of_le' positive
  rw [source.lineSpan_eq known] at isSpan
  cases isSpan
  rw [Span.length] at before
  have bounds := (source.lineBounds (line + 1)).lo_le_hi
  -- The place is that of the offset that lies behind the start by one less than the column.
  obtain ⟨inside, told⟩ := @lineCol_of_bounds source line
    ((source.lineBounds (line + 1)).lo + (column - 1)) known (by omega) (by omega)
  refine ⟨_, inside, told.trans (congrArg _ ?_)⟩
  omega

/-- Offsets and places of the grid correspond one to one and in order, and the lines with newlines
between them are the text. -/
theorem gridded : source.Gridded where
  oneToOne := by
    refine ⟨fun _ inside => source.lineCol_mem_grid inside, ?_, fun _ member => ?_⟩
    · exact source.placeOf_strictMonoOn.injOn
    · exact source.exists_of_mem_grid member
  inOrder left right earlier inside :=
    source.placeOf_strictMonoOn (earlier.le.trans inside) inside earlier
  newlines _ inside := source.lineCol_line inside
  before offset early := by
    have start : offset.toNat = 0 := Int.toNat_eq_zero.mpr early
    rw [lineCol, lineCol, start, Int.toNat_zero]
  after offset late := by
    have stop : min offset.toNat source.text.length = source.text.length := by omega
    simp only [lineCol, stop, Int.toNat_natCast, Nat.min_self]
  lines := by
    refine ⟨(List.range' 1 source.lineCount).map source.lineBounds, ?_, ?_⟩
    · rw [List.forall₂_map_right_iff, List.forall₂_same]
      intro number member
      obtain ⟨positive, known⟩ := List.mem_range'_1.mp member
      obtain ⟨line, rfl⟩ := Nat.exists_eq_add_of_le' positive
      exact source.lineSpan_eq (by omega)
    · have lines : 0 + 1 + (source.lineCount - 1) = source.lineCount :=
        Nat.add_sub_cancel' (Nat.succ_le_of_lt (Nat.succ_pos _))
      have whole := source.drop_start _ _ lines
      rw [source.lineBounds_lo (Nat.succ_pos _)] at whole
      rw [List.map_map]
      refine Eq.trans ?_ whole.symm
      have count : source.lineCount - 1 + 1 = source.lineCount := by omega
      rw [count]
      rfl

/-- A newline is the last column of its line, and after it a line may be empty. -/
example : (⟨"a.rs", "ab\n\n".toList⟩ : SourceFile).lineCol 2 = (1, 3) ∧
    (⟨"a.rs", "ab\n\n".toList⟩ : SourceFile).lineCol 3 = (2, 1) ∧
    (⟨"a.rs", "ab\n\n".toList⟩ : SourceFile).lineCol 4 = (3, 1) := by decide

end SourceFile
end DrainLint
