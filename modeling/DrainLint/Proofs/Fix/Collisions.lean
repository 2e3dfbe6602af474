import DrainLint.Proofs.Fix.Rewriting

/-! # Edits that touch the same text

Only neighbours in the order of their spans are compared, and yet no two edits that touch the same text
get by, wherever they stand in the list.

- `Span.Shares`, `Span.StandsWithin`: a character in both spans, and an empty span inside another;
- `Span.Touches`, `Edit.collides_iff`: what it means that two edits touch the same text;
- `Edit.ClashAt`, `Edit.Clashing`: two edits of a list that touch the same text;
- `Edit.firstOverlap?_names`, `Edit.firstOverlap?_isSome_iff`: what is found is such a pair, and one is
  found if there is any;
- `Edit.ofEdits_refused_iff`: edits become a suggestion exactly if no two of them touch the same text;
- `Edit.insertion_within_refused`: an insertion into text that is replaced.
-/

namespace DrainLint

namespace Span

/-- Whether a character stands in both spans. -/
def Shares (left right : Span) : Prop :=
  ∃ place, left.lo ≤ place ∧ place < left.hi ∧ right.lo ≤ place ∧ place < right.hi

/-- Whether a span is empty and stands after the start and before the end of another one. -/
def StandsWithin (inner outer : Span) : Prop :=
  inner.lo = inner.hi ∧ outer.lo < inner.lo ∧ inner.hi < outer.hi

/-- Whether two spans have a character in common, are the same, or one is a place within the other. -/
def Touches (left right : Span) : Prop :=
  left.Shares right ∨ left = right ∨ left.StandsWithin right ∨ right.StandsWithin left

theorem overlaps_iff_shares {left right : Span} : left.overlaps right = true ↔
    left.Shares right ∨ left.StandsWithin right ∨ right.StandsWithin left := by
  have leftBounds := left.lo_le_hi
  have rightBounds := right.lo_le_hi
  rw [overlaps_iff]
  constructor
  · rintro ⟨leftFirst, rightFirst⟩
    rcases Nat.eq_or_lt_of_le leftBounds with leftEmpty | leftFilled
    · exact .inr (.inl ⟨leftEmpty, by omega, by omega⟩)
    · rcases Nat.eq_or_lt_of_le rightBounds with rightEmpty | rightFilled
      · exact .inr (.inr ⟨rightEmpty, by omega, by omega⟩)
      · -- Of two spans with some text, the later start is in both.
        exact .inl ⟨max left.lo right.lo, by omega, by omega, by omega, by omega⟩
  · rintro (⟨place, _⟩ | ⟨_, _, _⟩ | ⟨_, _, _⟩) <;> omega

end Span

/-- Two members of a list stand at different places of it, however the list is rearranged. -/
theorem exists_places_of_pair {α : Type} {xs ys : List α} {left right : α} (perm : xs.Perm ys)
    (pair : [left, right].Sublist xs) :
    ∃ i j : Nat, i ≠ j ∧ ys[i]? = some left ∧ ys[j]? = some right := by
  by_contra nowhere
  have apart : ys.Pairwise fun x y => ¬ (x = left ∧ y = right ∨ x = right ∧ y = left) := by
    rw [List.pairwise_iff_getElem]
    rintro i j iInside jInside earlier (⟨isLeft, isRight⟩ | ⟨isRight, isLeft⟩)
    · exact nowhere ⟨i, j, earlier.ne, List.getElem?_eq_some_iff.mpr ⟨iInside, isLeft⟩,
        List.getElem?_eq_some_iff.mpr ⟨jInside, isRight⟩⟩
    · exact nowhere ⟨j, i, earlier.ne', List.getElem?_eq_some_iff.mpr ⟨jInside, isLeft⟩,
        List.getElem?_eq_some_iff.mpr ⟨iInside, isRight⟩⟩
  have rearranged := perm.symm.pairwise apart fun {x y} other same =>
    other (same.symm.imp And.symm And.symm)
  exact List.pairwise_iff_forall_sublist.mp rearranged pair (.inl ⟨rfl, rfl⟩)

namespace Edit

variable {edits : List Edit}

theorem collides_iff {left right : Edit} :
    left.collides right = true ↔ left.span.Touches right.span := by
  rw [collides, Bool.or_eq_true, decide_eq_true_eq, Span.overlaps_iff_shares, Span.Touches, or_assoc,
    or_comm (a := _ ∨ _)]

/-! ## Neighbours and pairs -/

/-- Whether edits at two different places of a list have spans that touch the same text. -/
def ClashAt (edits : List Edit) (first second : Span) : Prop :=
  ∃ (i j : Nat) (left right : Edit), i ≠ j ∧ edits[i]? = some left ∧ edits[j]? = some right ∧
    left.span = first ∧ right.span = second ∧ first.Touches second

def Clashing (edits : List Edit) : Prop := ∃ first second, ClashAt edits first second

theorem not_clashing_iff :
    ¬ Clashing edits ↔ edits.Pairwise fun left right => left.collides right = false := by
  rw [List.pairwise_iff_getElem]
  constructor
  · intro separate i j iInside jInside earlier
    by_contra collide
    have touches := collides_iff.mp (Bool.not_eq_false _ ▸ collide)
    exact separate ⟨_, _, i, j, _, _, earlier.ne, List.getElem?_eq_getElem iInside,
      List.getElem?_eq_getElem jInside, rfl, rfl, touches⟩
  · rintro separate ⟨_, _, i, j, left, right, different, atLeft, atRight, rfl, rfl, touches⟩
    obtain ⟨iInside, rfl⟩ := List.getElem?_eq_some_iff.mp atLeft
    obtain ⟨jInside, rfl⟩ := List.getElem?_eq_some_iff.mp atRight
    have collide := collides_iff.mpr touches
    rcases Nat.lt_or_gt_of_ne different with earlier | later
    · exact Bool.false_ne_true ((separate i j iInside jInside earlier).symm.trans collide)
    · rw [collides_symm] at collide
      exact Bool.false_ne_true ((separate j i jInside iInside later).symm.trans collide)

theorem firstCollision?_pair {overlap : Overlap} (found : firstCollision? edits = some overlap) :
    ∃ left right, [left, right].Sublist edits ∧ overlap = ⟨left.span, right.span⟩ ∧
      left.collides right = true := by
  fun_induction firstCollision? edits with
  | case1 left right rest collide =>
    obtain rfl := Option.some.inj found
    exact ⟨left, right, by simp, rfl, collide⟩
  | case2 left right rest separate inductionHypothesis =>
    obtain ⟨first, second, pair, named, collide⟩ := inductionHypothesis found
    exact ⟨first, second, pair.cons left, named, collide⟩
  | case3 => cases found

/-- The spans that are named stand at two different places of the list and touch the same text. -/
theorem firstOverlap?_names {overlap : Overlap} (found : firstOverlap? edits = some overlap) :
    ClashAt edits overlap.first overlap.second := by
  obtain ⟨left, right, pair, rfl, collide⟩ := firstCollision?_pair found
  obtain ⟨i, j, different, atLeft, atRight⟩ := exists_places_of_pair (sortedBySpan_perm edits) pair
  exact ⟨i, j, left, right, different, atLeft, atRight, rfl, rfl, collides_iff.mp collide⟩

/-- The comparison of neighbours finds out whether any two edits touch the same text. -/
theorem firstOverlap?_isSome_iff : (firstOverlap? edits).isSome ↔ Clashing edits := by
  constructor
  · intro found
    obtain ⟨overlap, isFirst⟩ := Option.isSome_iff_exists.mp found
    exact ⟨_, _, firstOverlap?_names isFirst⟩
  · intro clashing
    by_contra none
    exact not_clashing_iff.mpr (pairwise_separate (Option.not_isSome_iff_eq_none.mp none)) clashing

/-- It does not matter to a clash in which order the edits are listed. -/
theorem clashing_perm {listed : List Edit} (perm : listed.Perm edits) :
    Clashing listed ↔ Clashing edits := by
  have symmetric : ∀ {left right : Edit}, left.collides right = false →
      right.collides left = false := fun {left right} separate =>
    (collides_symm right left).trans separate
  rw [← not_iff_not, not_clashing_iff, not_clashing_iff, perm.pairwise_iff symmetric]

section

variable {message : String} {applicability : Applicability}

theorem ofEdits_eq_error_iff {overlap : Overlap} :
    Suggestion.ofEdits message edits applicability = .error overlap ↔
      firstOverlap? edits = some overlap := by
  rw [Suggestion.ofEdits]
  split
  · next compatible => simp [compatible]
  · next found isFirst => simp [isFirst]

theorem ofEdits_eq_ok_iff : (∃ suggestion, Suggestion.ofEdits message edits applicability =
    .ok suggestion ∧ suggestion.edits = edits) ↔ firstOverlap? edits = none := by
  rw [Suggestion.ofEdits]
  split
  · next compatible => simp [compatible]
  · next found isFirst => simp [isFirst]

end

/-- Some edits are refused exactly if two of them touch the same text, in whatever order they are
listed: they share a character, replace the same, or one is an insertion into what the other replaces.
The complaint names two such edits.  All others become a suggestion. -/
theorem ofEdits_refused_iff (message : String) (edits : List Edit) (applicability : Applicability) :
    ((firstOverlap? edits).isSome ↔ Clashing edits) ∧
      (∀ overlap, firstOverlap? edits = some overlap → ClashAt edits overlap.first overlap.second) ∧
        ∀ listed, listed.Perm edits →
          ((∃ overlap, Suggestion.ofEdits message listed applicability = .error overlap) ↔
            Clashing edits) ∧
          ((∃ suggestion, Suggestion.ofEdits message listed applicability = .ok suggestion ∧
            suggestion.edits = listed) ↔ ¬ Clashing edits) := by
  refine ⟨firstOverlap?_isSome_iff, fun overlap => firstOverlap?_names, fun listed perm => ?_⟩
  rw [← clashing_perm perm, ← firstOverlap?_isSome_iff]
  constructor
  · simp only [ofEdits_eq_error_iff, Option.isSome_iff_exists]
  · rw [ofEdits_eq_ok_iff, Option.not_isSome_iff_eq_none]

/-! ### An insertion into text that is replaced -/

def insertionWithin : List Edit := [⟨⟨1, 5, by decide⟩, ""⟩, ⟨⟨3, 3, by decide⟩, "Y"⟩]

/-- An insertion into text that another edit deletes has no character in common with it and is not the
same, and it is refused. -/
theorem insertion_within_refused : (firstOverlap? insertionWithin).isSome ∧
    ¬ ∃ (i j : Nat) (left right : Edit), i ≠ j ∧ insertionWithin[i]? = some left ∧
      insertionWithin[j]? = some right ∧
        (left.span.Shares right.span ∨ left.span = right.span) := by
  have refused : (firstOverlap? insertionWithin).isSome := by
    simp [insertionWithin, firstOverlap?, sortedBySpan, List.mergeSort, Span.before, firstCollision?,
      collides, Span.overlaps]
  have bounds : ∀ (i : Nat) (edit : Edit), insertionWithin[i]? = some edit →
      i = 0 ∧ edit.span.lo = 1 ∧ edit.span.hi = 5 ∨
        i = 1 ∧ edit.span.lo = 3 ∧ edit.span.hi = 3 := by
    rintro (_ | _ | i) edit listed <;> cases listed <;> simp
  refine ⟨refused, ?_⟩
  rintro ⟨i, j, left, right, different, atLeft, atRight, shares⟩
  have leftBounds := bounds i left atLeft
  have rightBounds := bounds j right atRight
  rcases shares with ⟨place, _⟩ | same
  · omega
  · rw [same] at leftBounds
    omega

end Edit
end DrainLint
