import DrainLint.Proofs.Source.Places

/-! # The line of an offset

An offset lies between the bounds of its line, and so does the character there, unless it is the newline
that ends the line.

- `newline_before_start`: a line starts after a newline of the text;
- `reached`, `start_le`, `next_start`: the line starts up to an offset, the last of them, and the next;
- `lineBounds_lineCol`: the bounds of the line of an offset;
- `wholeLines_contains`: the lines of a span contain it, unless it ends with a newline.
-/

namespace DrainLint.SourceFile

/-- A line starts after a newline of the text. -/
theorem newline_before_start {text : List Char} {offset start : Nat}
    (member : start ∈ lineStartsAfter offset text) :
    offset < start ∧ text[start - offset - 1]? = some '\n' := by
  induction text generalizing offset with
  | nil => cases member
  | cons c text inductionHypothesis =>
    have later : start ∈ lineStartsAfter (offset + 1) text →
        offset < start ∧ (c :: text)[start - offset - 1]? = some '\n' := by
      intro member
      obtain ⟨after, newline⟩ := inductionHypothesis member
      have further : start - offset - 1 = start - (offset + 1) - 1 + 1 := by omega
      exact ⟨Nat.lt_of_succ_lt after, by rwa [further, List.getElem?_cons_succ]⟩
    rw [lineStartsAfter] at member
    split at member
    · next isNewline =>
      cases member with
      | head => exact ⟨Nat.lt_succ_self offset, by simp [isNewline]⟩
      | tail _ member => exact later member
    · exact later member

variable (source : SourceFile) {place : Nat}

/-- The line starts that are reached at a place. -/
def reached (place : Nat) : List Nat := source.lineStarts.takeWhile (· ≤ place)

theorem line_eq_length_reached (inside : place ≤ source.text.length) :
    (source.lineCol place).1 = (source.reached place).length := by
  simp only [lineCol, Int.toNat_natCast, Nat.min_eq_left inside, reached]

theorem length_reached_pos (place : Nat) : 0 < (source.reached place).length := by
  rw [reached, lineStarts, List.takeWhile_cons_of_pos (by simp)]
  exact Nat.succ_pos _

/-- A line start that is reached is not after the place. -/
theorem start_le {index : Nat} (known : index < (source.reached place).length) :
    source.lineStarts.getD index source.text.length ≤ place := by
  have isPrefix : source.reached place <+: source.lineStarts := List.takeWhile_prefix _
  have isReached := List.all_eq_true.mp List.all_takeWhile _ (List.getElem_mem known)
  rw [isPrefix.getElem known] at isReached
  rw [List.getD_eq_getElem?_getD, List.getElem?_eq_getElem (known.trans_le isPrefix.length_le),
    Option.getD_some]
  exact of_decide_eq_true isReached

/-- The next line starts after the place, and right after a newline. -/
theorem next_start (inside : (source.reached place).length < source.lineStarts.length) :
    place < source.lineStarts.getD (source.reached place).length 0 ∧
      source.text[source.lineStarts.getD (source.reached place).length 0 - 1]? = some '\n' := by
  have split : source.reached place ++ source.lineStarts.dropWhile (· ≤ place) = source.lineStarts :=
    List.takeWhile_append_dropWhile
  have notReached := List.head?_dropWhile_not (fun start : Nat => decide (start ≤ place))
    source.lineStarts
  cases later : source.lineStarts.dropWhile (· ≤ place) with
  | nil =>
    rw [later, List.append_nil] at split
    exact absurd (congrArg List.length split) inside.ne
  | cons next rest =>
    rw [later] at split notReached
    have isNext : source.lineStarts.getD (source.reached place).length 0 = next := by
      simp [List.getD_eq_getElem?_getD, ← split]
    have after : place < next := by simpa using notReached
    rw [isNext]
    have member : next ∈ source.lineStarts := by
      rw [← split]
      exact List.mem_append_right _ List.mem_cons_self
    rw [lineStarts, List.mem_cons] at member
    rcases member with rfl | member
    · exact absurd after (Nat.not_lt_zero _)
    · exact ⟨after, (newline_before_start member).2⟩

/-- The bounds of the line of an offset. -/
theorem lineBounds_lineCol (inside : place ≤ source.text.length) :
    (source.lineBounds (source.lineCol place).1).lo ≤ place ∧
      place ≤ (source.lineBounds (source.lineCol place).1).hi ∧
        (source.lineBounds (source.lineCol place).1).hi ≤ source.text.length ∧
          (place < source.text.length → source.text[place]? ≠ some '\n' →
            place < (source.lineBounds (source.lineCol place).1).hi) := by
  rw [source.line_eq_length_reached inside]
  have positive := source.length_reached_pos place
  have start := source.start_le (Nat.sub_lt positive Nat.one_pos)
  simp only [lineBounds, Span.between_lo]
  split
  · next more =>
    obtain ⟨after, newline⟩ := source.next_start more
    have known := (List.getElem?_eq_some_iff.mp newline).1
    rw [Span.between_hi (by omega)]
    refine ⟨start, by omega, by omega, fun _ inked => ?_⟩
    -- The next line would start right after the character if this were the last of its line.
    by_contra last
    have same : source.lineStarts.getD (source.reached place).length 0 - 1 = place := by omega
    exact inked (same ▸ newline)
  · rw [Span.between_hi (by omega)]
    exact ⟨start, inside, Nat.le_refl _, fun filled _ => filled⟩

/-- The lines of a span lie in the text and contain the span, unless it ends with a newline. -/
theorem wholeLines_contains {span : Span} (inside : span.hi ≤ source.text.length)
    (ends : span.lo = span.hi ∨ source.text[span.hi - 1]? ≠ some '\n') :
    (source.wholeLines span).lo ≤ span.lo ∧ span.hi ≤ (source.wholeLines span).hi ∧
      (source.wholeLines span).hi ≤ source.text.length := by
  have bounds := span.lo_le_hi
  -- The last line is that of the last character, or that of the start where there is none.
  have final : max (span.lo : Int) (span.hi - 1) = (max span.lo (span.hi - 1) : Nat) := by omega
  have first := source.lineBounds_lineCol (bounds.trans inside)
  have last := source.lineBounds_lineCol
    (show max span.lo (span.hi - 1) ≤ source.text.length by omega)
  have reachesEnd : span.hi ≤
      (source.lineBounds (source.lineCol (max span.lo (span.hi - 1) : Nat)).1).hi := by
    rcases Nat.eq_or_lt_of_le bounds with empty | filled
    · omega
    · -- The last character of the span is no newline, so its line goes on after it.
      have isLast : max span.lo (span.hi - 1) = span.hi - 1 := by omega
      have inked := ends.resolve_left filled.ne
      rw [isLast] at last ⊢
      have := last.2.2.2 (by omega) inked
      omega
  simp only [wholeLines, final, Span.join]
  omega

end DrainLint.SourceFile
