import DrainLint.Proofs.Files.Names
import DrainLint.Proofs.Fix.Collisions
import DrainLint.Proofs.Source.Lines
import Mathlib.Order.Bounds.Basic

/-! # Previews

The preview patches only the lines that a suggestion touches, with the edits moved to where these lines
begin.  What it shows is what stands in their place when the suggestion is applied to the whole file.

- `Edit.splice_window`, `Edit.applyAll_window`: edits within a window of the text change the window only;
- `Edit.shifted_compatible`: edits that are moved can be applied together if they could before;
- `Suggestion.cover_eq`: the span from the first start of an edit to the last end;
- `Suggestion.preview_shows_result`: the lines of the preview stand between the untouched text before
  and after them.
-/

namespace DrainLint

namespace Edit

open Suggestion (shifted)

/-! ## Windows of a text -/

theorem shifted_lo (offset : Nat) (edit : Edit) :
    (shifted offset edit).span.lo = edit.span.lo - offset := rfl

theorem shifted_hi (offset : Nat) (edit : Edit) :
    (shifted offset edit).span.hi = edit.span.hi - offset :=
  Span.between_hi (Nat.sub_le_sub_right edit.span.lo_le_hi offset)

section

variable {text : List Char} {window : Span} {edits : List Edit}

/-- Edits within a window of the text change the window only, from a place in it on. -/
theorem splice_window {place : Nat} (known : window.lo ≤ place) (before : place ≤ window.hi)
    (within : ∀ edit ∈ edits, window.lo ≤ edit.span.lo ∧ edit.span.hi ≤ window.hi) :
    splice text place edits =
      splice ((text.take window.hi).drop window.lo) (place - window.lo)
        (edits.map (shifted window.lo)) ++ text.drop window.hi := by
  induction edits generalizing place with
  | nil =>
    have after : (text.drop place).drop (window.hi - place) = text.drop window.hi := by
      rw [List.drop_drop, Nat.add_sub_cancel' before]
    rw [splice, List.map_nil, splice, List.drop_drop, Nat.add_sub_cancel' known, List.drop_take,
      ← after, List.take_append_drop]
  | cons edit edits inductionHypothesis =>
    rw [List.forall_mem_cons] at within
    obtain ⟨⟨starts, ends⟩, rest⟩ := within
    have bounds := edit.span.lo_le_hi
    -- The window holds the edit, so what stands before the edit is the same in it and in the text.
    have piece : (((text.take window.hi).drop window.lo).take (edit.span.lo - window.lo)).drop
        (place - window.lo) = (text.take edit.span.lo).drop place := by
      rw [List.take_drop, List.take_take, List.drop_drop, Nat.add_sub_cancel' starts,
        Nat.add_sub_cancel' known, Nat.min_eq_left (bounds.trans ends)]
    rw [splice, inductionHypothesis (starts.trans bounds) ends rest, List.map_cons, splice,
      shifted_lo, shifted_hi, piece, List.append_assoc, List.append_assoc, List.append_assoc]
    rfl

theorem splice_from_start {start : Nat} (later : ∀ edit ∈ edits, start ≤ edit.span.lo) :
    splice text 0 edits = text.take start ++ splice text start edits := by
  -- Only the first edit looks at the place from which the text is still to be copied.
  cases edits with
  | nil => exact (List.take_append_drop start text).symm
  | cons edit edits =>
    have starts := later edit List.mem_cons_self
    have split := List.take_append_drop start (text.take edit.span.lo)
    rw [List.take_take, Nat.min_eq_left starts] at split
    rw [splice, splice, List.drop_zero, ← split, List.append_assoc, List.append_assoc,
      List.append_assoc, split]

/-- The sort by starts moves with the edits. -/
theorem sortedByStart_shifted {offset : Nat} (later : ∀ edit ∈ edits, offset ≤ edit.span.lo) :
    sortedByStart (edits.map (shifted offset)) = (sortedByStart edits).map (shifted offset) := by
  refine (List.map_mergeSort fun left leftMember right rightMember => ?_).symm
  have leftLater := later left leftMember
  have rightLater := later right rightMember
  refine decide_eq_decide.mpr ?_
  rw [shifted_lo, shifted_lo]
  omega

/-- Edits within a window of the text change the window only. -/
theorem applyAll_window (ordered : window.lo ≤ window.hi)
    (within : ∀ edit ∈ edits, window.lo ≤ edit.span.lo ∧ edit.span.hi ≤ window.hi) :
    applyAll text edits = text.take window.lo ++
      applyAll ((text.take window.hi).drop window.lo) (edits.map (shifted window.lo)) ++
        text.drop window.hi := by
  have perm := sortedByStart_perm edits
  have sortedWithin : ∀ edit ∈ sortedByStart edits,
      window.lo ≤ edit.span.lo ∧ edit.span.hi ≤ window.hi := fun edit member =>
    within edit (perm.subset member)
  rw [applyAll, splice_from_start fun edit member => (sortedWithin edit member).1,
    splice_window (Nat.le_refl _) ordered sortedWithin, Nat.sub_self, applyAll,
    sortedByStart_shifted fun edit member => (within edit member).1, List.append_assoc]

theorem collides_shifted {offset : Nat} {left right : Edit} (leftLater : offset ≤ left.span.lo)
    (rightLater : offset ≤ right.span.lo) :
    (shifted offset left).collides (shifted offset right) = left.collides right := by
  have leftBounds := left.span.lo_le_hi
  have rightBounds := right.span.lo_le_hi
  -- Both spans start after the offset, so nothing of them is cut off when they are moved.
  have same : (shifted offset left).span = (shifted offset right).span ↔ left.span = right.span := by
    constructor
    · intro same
      have starts := congrArg Span.lo same
      have stops := congrArg Span.hi same
      rw [shifted_lo, shifted_lo] at starts
      rw [shifted_hi, shifted_hi] at stops
      exact Span.eq_of_bounds (by omega) (by omega)
    · intro same
      rw [shifted, shifted, same]
  rw [Bool.eq_iff_iff]
  simp only [collides, Bool.or_eq_true, decide_eq_true_eq, Span.overlaps_iff, shifted_lo, shifted_hi,
    same]
  refine or_congr_left ?_
  omega

/-- Edits that are moved can be applied together if they could before. -/
theorem shifted_compatible {offset : Nat} (later : ∀ edit ∈ edits, offset ≤ edit.span.lo)
    (compatible : firstOverlap? edits = none) :
    firstOverlap? (edits.map (shifted offset)) = none := by
  rw [← Option.not_isSome_iff_eq_none, firstOverlap?_isSome_iff, not_clashing_iff, List.pairwise_map]
  refine (pairwise_separate compatible).imp_of_mem fun leftMember rightMember separate => ?_
  rwa [collides_shifted (later _ leftMember) (later _ rightMember)]

end

end Edit

namespace Suggestion

/-! ## The span of all edits -/

theorem le_foldl_join_lo {bound : Nat} {span : Span} {spans : List Span} :
    bound ≤ (spans.foldl Span.join span).lo ↔ ∀ other ∈ span :: spans, bound ≤ other.lo := by
  induction spans generalizing span with
  | nil => simp
  | cons next spans inductionHypothesis =>
    rw [List.foldl_cons, inductionHypothesis]
    simp only [List.forall_mem_cons, Span.join, Nat.le_min, and_assoc]

theorem foldl_join_hi_le {bound : Nat} {span : Span} {spans : List Span} :
    (spans.foldl Span.join span).hi ≤ bound ↔ ∀ other ∈ span :: spans, other.hi ≤ bound := by
  induction spans generalizing span with
  | nil => simp
  | cons next spans inductionHypothesis =>
    rw [List.foldl_cons, inductionHypothesis]
    simp only [List.forall_mem_cons, Span.join, Nat.max_le, and_assoc]

theorem le_cover_lo {bound : Nat} {first : Edit} {rest : List Edit} :
    bound ≤ (cover first rest).lo ↔ ∀ edit ∈ first :: rest, bound ≤ edit.span.lo := by
  rw [cover, le_foldl_join_lo, ← List.map_cons, List.forall_mem_map]

theorem cover_hi_le {bound : Nat} {first : Edit} {rest : List Edit} :
    (cover first rest).hi ≤ bound ↔ ∀ edit ∈ first :: rest, edit.span.hi ≤ bound := by
  rw [cover, foldl_join_hi_le, ← List.map_cons, List.forall_mem_map]

/-- The span of all edits goes from their first start to their last end. -/
theorem cover_eq {first : Edit} {rest : List Edit} {touched : Span}
    (starts : IsLeast {place | ∃ edit ∈ first :: rest, edit.span.lo = place} touched.lo)
    (stops : IsGreatest {place | ∃ edit ∈ first :: rest, edit.span.hi = place} touched.hi) :
    cover first rest = touched := by
  obtain ⟨⟨starting, startingMember, startsThere⟩, earliest⟩ := starts
  obtain ⟨⟨stopping, stoppingMember, stopsThere⟩, latest⟩ := stops
  apply Span.eq_of_bounds
  · apply Nat.le_antisymm
    · exact startsThere ▸ le_cover_lo.mp (Nat.le_refl _) starting startingMember
    · exact le_cover_lo.mpr fun edit member => earliest ⟨edit, member, rfl⟩
  · apply Nat.le_antisymm
    · exact cover_hi_le.mpr fun edit member => latest ⟨edit, member, rfl⟩
    · exact stopsThere ▸ cover_hi_le.mp (Nat.le_refl _) stopping stoppingMember

/-! ## What is shown -/

theorem fst_numbered (firstLine : Nat) (lines : List (List Char)) :
    (lines.zipIdx.map fun (text, index) => (firstLine + index, text)).map Prod.fst =
      List.range' firstLine lines.length := by
  calc (lines.zipIdx.map fun (text, index) => (firstLine + index, text)).map Prod.fst
    _ = (lines.zipIdx.map Prod.snd).map (firstLine + ·) := by rw [List.map_map, List.map_map]; rfl
    _ = List.range' firstLine lines.length := by
      rw [List.zipIdx_map_snd, List.map_add_range', Nat.add_zero]

/-- The lines that are shown, and their numbers. -/
theorem preview_eq (suggestion : Suggestion) (source : SourceFile) {touched : Span}
    (starts : IsLeast {place | ∃ edit ∈ suggestion.edits, edit.span.lo = place} touched.lo)
    (stops : IsGreatest {place | ∃ edit ∈ suggestion.edits, edit.span.hi = place} touched.hi) :
    let region := source.wholeLines touched
    (suggestion.preview source).map Prod.snd = Text.splitOn '\n'
        (Edit.applyAll (source.slice region) (suggestion.edits.map (shifted region.lo))) ∧
      (suggestion.preview source).map Prod.fst =
        List.range' (source.lineCol region.lo).1 (suggestion.preview source).length := by
  intro region
  unfold preview
  split
  · next none =>
    obtain ⟨edit, member, -⟩ := starts.1
    rw [none] at member
    cases member
  · next first rest isCons =>
    rw [isCons] at starts stops
    simp only [cover_eq starts stops]
    constructor
    · rw [List.map_map]
      exact List.zipIdx_map_fst 0 _
    · rw [fst_numbered, List.length_map, List.length_zipIdx]

/-- The preview shows what applying the suggestion gives: the lines that it touches contain all edits,
the moved edits can be applied together, and the file with the edits applied is the preview between what
stands before and after these lines.  The lines of the preview are numbered from the first of them. -/
theorem preview_shows_result (suggestion : Suggestion) (source : SourceFile) (touched : Span)
    (starts : IsLeast {place | ∃ edit ∈ suggestion.edits, edit.span.lo = place} touched.lo)
    (stops : IsGreatest {place | ∃ edit ∈ suggestion.edits, edit.span.hi = place} touched.hi)
    (inside : touched.hi ≤ source.text.length)
    (ends : touched.lo = touched.hi ∨ source.text[touched.hi - 1]? ≠ some '\n') :
    let region := source.wholeLines touched
    (∀ edit ∈ suggestion.edits, region.lo ≤ edit.span.lo ∧ edit.span.hi ≤ region.hi) ∧
      Edit.firstOverlap? (suggestion.edits.map (shifted region.lo)) = none ∧
        Edit.applyChecked source.text suggestion.edits =
          .ok (source.text.take region.lo ++
            ['\n'].intercalate ((suggestion.preview source).map Prod.snd) ++
              source.text.drop region.hi) ∧
          (suggestion.preview source).map Prod.fst =
            List.range' (source.lineCol region.lo).1 (suggestion.preview source).length := by
  intro region
  obtain ⟨before, after, regionInside⟩ := source.wholeLines_contains inside ends
  have within : ∀ edit ∈ suggestion.edits, region.lo ≤ edit.span.lo ∧ edit.span.hi ≤ region.hi :=
    fun edit member => ⟨before.trans (starts.2 ⟨edit, member, rfl⟩),
      (stops.2 ⟨edit, member, rfl⟩).trans after⟩
  obtain ⟨shown, numbered⟩ := suggestion.preview_eq source starts stops
  refine ⟨within, Edit.shifted_compatible (fun edit member => (within edit member).1)
    suggestion.compatible, ?_, numbered⟩
  -- The lines of the preview put together again are the patched window.
  rw [shown, Text.splitOn_eq, List.intercalate_splitOn, Edit.applyChecked, suggestion.compatible]
  exact congrArg Except.ok (Edit.applyAll_window region.lo_le_hi within)

/-! ### A line that becomes two -/

def bodyFile : SourceFile := ⟨"body.rs", "fn f() \x7b\n  a;\n  b;\n\x7d\n".toList⟩

/-- Edits in two lines, the later one listed first; it puts in a new line. -/
def bodyFix : Suggestion where
  message := "mend"
  edits := [⟨⟨16, 17, by decide⟩, "c();\n  d"⟩, ⟨⟨11, 11, by decide⟩, "x; "⟩]
  compatible := by
    simp [Edit.firstOverlap?, Edit.sortedBySpan, List.mergeSort, Span.before,
      Edit.firstCollision?, Edit.collides, Span.overlaps]

theorem preview_shows_result_bodyFile :
    bodyFile.wholeLines ⟨11, 17, by decide⟩ = ⟨9, 18, by decide⟩ ∧
      bodyFix.preview bodyFile =
        [(2, "  x; a;".toList), (3, "  c();".toList), (4, "  d;".toList)] ∧
      Edit.applyChecked bodyFile.text bodyFix.edits =
        .ok "fn f() \x7b\n  x; a;\n  c();\n  d;\n\x7d\n".toList := by
  have starts : IsLeast {place | ∃ edit ∈ bodyFix.edits, edit.span.lo = place} 11 := by
    refine ⟨⟨_, List.mem_cons_of_mem _ List.mem_cons_self, rfl⟩, ?_⟩
    rintro _ ⟨edit, member, rfl⟩
    revert edit
    decide +kernel
  have stops : IsGreatest {place | ∃ edit ∈ bodyFix.edits, edit.span.hi = place} 17 := by
    refine ⟨⟨_, List.mem_cons_self, rfl⟩, ?_⟩
    rintro _ ⟨edit, member, rfl⟩
    revert edit
    decide +kernel
  have region : bodyFile.wholeLines ⟨11, 17, by decide⟩ = ⟨9, 18, by decide⟩ := by decide +kernel
  have patched : Edit.applyAll "  a;\n  b;".toList (bodyFix.edits.map (shifted 9)) =
      "  x; a;\n  c();\n  d;".toList := by
    simp [Edit.applyAll, Edit.sortedByStart, List.mergeSort, Edit.splice, bodyFix, shifted,
      Span.between]
  have lines : bodyFix.preview bodyFile =
      [(2, "  x; a;".toList), (3, "  c();".toList), (4, "  d;".toList)] := by
    have unfolded : bodyFix.preview bodyFile = (Text.splitOn '\n' (Edit.applyAll "  a;\n  b;".toList
        (bodyFix.edits.map (shifted 9)))).zipIdx.map fun (text, index) => (2 + index, text) := rfl
    rw [unfolded, patched]
    decide +kernel
  obtain ⟨-, -, applied, -⟩ := bodyFix.preview_shows_result bodyFile ⟨11, 17, by decide⟩ starts stops
    (by decide +kernel) (.inr (by decide +kernel))
  rw [region, lines] at applied
  exact ⟨region, lines, applied.trans (by decide +kernel)⟩

end Suggestion
end DrainLint
