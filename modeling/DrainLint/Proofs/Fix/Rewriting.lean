import DrainLint.Fix.Suggestion
import Mathlib.Data.List.Pairwise
import Mathlib.Order.Lattice
import Mathlib.Order.Monotone.Basic
import Mathlib.Order.Nat

/-! # Texts rewritten place by place

What edits mean, told without an order of the edits: what is written at each place of a text, and
whether the character there stays.

- `Replacement`: a part of a text between two places, and what stands there instead;
- `Replacement.rewrite`: the text with the parts replaced, gone through once from a place on;
- `Edit.splice_eq_rewrite`: edits that are spliced one after the other rewrite the text;
- `Replacement.rewrite_perm`: the order of parts that are apart does not matter;
- `Edit.Follows`, `pairwise_separate`: edits that can be applied together do not touch the same text;
- `Edit.applyAll_eq_rewrite`: the text with edits applied is the rewritten text, where an insertion is
  listed before the replacement that it touches.
-/

namespace DrainLint

/-- The order of spans: by their starts, and where these are the same by their ends. -/
theorem Span.not_before_iff {left right : Span} :
    right.before left = false ↔ left.lo < right.lo ∨ left.lo = right.lo ∧ left.hi ≤ right.hi := by
  simp only [before, Bool.or_eq_false_iff, Bool.and_eq_false_iff, decide_eq_false_iff_not,
    beq_eq_false_iff_ne]
  omega

/-! ## Replacements -/

/-- What is chosen at most once is the same in every order. -/
theorem filter_eq_of_perm {α : Type} {xs ys : List α} {chosen : α → Bool} (perm : xs.Perm ys)
    (alone : xs.Pairwise fun left right => chosen left → ¬ chosen right) :
    xs.filter chosen = ys.filter chosen := by
  have filtered := perm.filter chosen
  have alone := alone.filter chosen
  match chosenList : xs.filter chosen with
  | [] =>
    rw [chosenList] at filtered
    exact (List.nil_perm.mp filtered).symm
  | [only] =>
    rw [chosenList] at filtered
    exact List.singleton_perm.mp filtered
  | first :: second :: more =>
    have isChosen : ∀ member ∈ first :: second :: more, chosen member := fun member listed =>
      (List.mem_filter.mp (chosenList ▸ listed)).2
    rw [chosenList, List.pairwise_cons] at alone
    exact absurd (isChosen second (by simp)) (alone.1 second (by simp) (isChosen first (by simp)))

/-- A part of a text from one place up to another, and what stands there instead. -/
structure Replacement (α : Type) where
  start : α
  stop : α
  text : String

namespace Replacement

section

variable {α β : Type} [LinearOrder α] [LinearOrder β]

def map (f : α → β) (replacement : Replacement α) : Replacement β :=
  ⟨f replacement.start, f replacement.stop, replacement.text⟩

/-- Whether something is put in at a place, and nothing is left out for it. -/
def insertsAt (place : α) (replacement : Replacement α) : Bool :=
  replacement.start = place && replacement.stop = place

/-- Whether a part that is left out begins at a place. -/
def beginsAt (place : α) (replacement : Replacement α) : Bool :=
  replacement.start = place && place < replacement.stop

/-- Whether the character at a place is left out. -/
def covers (place : α) (replacement : Replacement α) : Bool :=
  replacement.start ≤ place && place < replacement.stop

/-- What is written at a place: the insertions, and then what stands for the part that begins. -/
def written (place : α) (replacements : List (Replacement α)) : List Char :=
  (replacements.filter (insertsAt place) ++ replacements.filter (beginsAt place)).flatMap
    fun replacement => replacement.text.toList

/-- A text that is gone through from a place on, with parts of it replaced. -/
def rewrite (next : α → Char → α) (replacements : List (Replacement α)) (place : α) :
    List Char → List Char
  | [] => written place replacements
  | c :: text =>
    written place replacements ++ (if replacements.any (covers place) then [] else [c]) ++
      rewrite next replacements (next place c) text

/-! ### What is written at a place -/

variable {place : α} {replacement : Replacement α} {rest : List (Replacement α)}

theorem insertsAt_iff : insertsAt place replacement = true ↔
    replacement.start = place ∧ replacement.stop = place := by
  simp [insertsAt]

theorem beginsAt_iff : beginsAt place replacement = true ↔
    replacement.start = place ∧ place < replacement.stop := by
  simp [beginsAt]

theorem covers_iff : covers place replacement = true ↔
    replacement.start ≤ place ∧ place < replacement.stop := by
  simp [covers]

theorem written_cons_insertion (inserts : insertsAt place replacement = true) :
    written place (replacement :: rest) = replacement.text.toList ++ written place rest := by
  have empty : beginsAt place replacement = false := by
    rw [insertsAt_iff] at inserts
    simp [beginsAt, inserts]
  simp [written, inserts, empty]

theorem written_cons_of_lt (begun : replacement.start < place) :
    written place (replacement :: rest) = written place rest := by
  simp [written, insertsAt, beginsAt, begun.ne]

/-- Nothing is written before the places where something begins. -/
theorem written_of_later (later : ∀ other ∈ rest, place < other.start) : written place rest = [] := by
  have none : ∀ other ∈ rest, ¬ insertsAt place other ∧ ¬ beginsAt place other := by
    intro other member
    simp [insertsAt, beginsAt, (later other member).ne']
  have noInsertion := List.filter_eq_nil_iff.mpr fun other member => (none other member).1
  have noBegin := List.filter_eq_nil_iff.mpr fun other member => (none other member).2
  simp [written, noInsertion, noBegin]

theorem written_cons_beginning (begins : beginsAt place replacement = true)
    (later : ∀ other ∈ rest, place < other.start) :
    written place (replacement :: rest) = replacement.text.toList := by
  have none := written_of_later later
  have filled : insertsAt place replacement = false := by
    rw [beginsAt_iff] at begins
    simp [insertsAt, begins.2.ne']
  rw [written, List.flatMap_append, List.append_eq_nil_iff] at none
  simp [written, begins, filled, none]

theorem not_covered_of_later (later : ∀ other ∈ rest, place < other.start) :
    rest.any (covers place) = false := by
  simp only [List.any_eq_false, covers_iff]
  intro other member covered
  exact absurd (later other member) covered.1.not_gt

/-! ### The order of replacements -/

/-- Two replacements that neither insert at one place nor begin at one place. -/
def Apart (left right : Replacement α) : Prop :=
  ∀ place, (insertsAt place left → ¬ insertsAt place right) ∧
    (beginsAt place left → ¬ beginsAt place right)

/-- The order of replacements that are apart does not matter. -/
theorem rewrite_perm {next : α → Char → α} {replacements others : List (Replacement α)}
    (perm : replacements.Perm others) (apart : replacements.Pairwise Apart) (place : α)
    (text : List Char) :
    rewrite next replacements place text = rewrite next others place text := by
  -- At each place at most one replacement inserts and at most one begins, so no order is told.
  have written_eq : ∀ place, written place replacements = written place others := by
    intro place
    rw [written, filter_eq_of_perm perm (apart.imp fun apart => (apart place).1),
      filter_eq_of_perm perm (apart.imp fun apart => (apart place).2), written]
  induction text generalizing place with
  | nil => exact written_eq place
  | cons c text inductionHypothesis =>
    rw [rewrite, rewrite, written_eq, perm.any_eq, inductionHypothesis]

/-! ### Other names of the places -/

variable {f : α → β} {places : Set α} {replacements : List (Replacement α)}

theorem written_map (mono : StrictMonoOn f places) (known : place ∈ places)
    (inside : ∀ replacement ∈ replacements,
      replacement.start ∈ places ∧ replacement.stop ∈ places) :
    written (f place) (replacements.map (map f)) = written place replacements := by
  have inserts : ∀ replacement ∈ replacements,
      (insertsAt (f place) ∘ map f) replacement = insertsAt place replacement := by
    intro replacement member
    obtain ⟨start, stop⟩ := inside replacement member
    simp only [Function.comp, insertsAt, map, mono.eq_iff_eq start known, mono.eq_iff_eq stop known]
  have begins : ∀ replacement ∈ replacements,
      (beginsAt (f place) ∘ map f) replacement = beginsAt place replacement := by
    intro replacement member
    obtain ⟨start, stop⟩ := inside replacement member
    simp only [Function.comp, beginsAt, map, mono.eq_iff_eq start known, mono.lt_iff_lt known stop]
  rw [written, written, List.filter_map, List.filter_map, ← List.map_append, List.flatMap_map,
    List.filter_congr inserts, List.filter_congr begins]
  rfl

theorem any_covers_map (mono : StrictMonoOn f places) (known : place ∈ places)
    (inside : ∀ replacement ∈ replacements,
      replacement.start ∈ places ∧ replacement.stop ∈ places) :
    (replacements.map (map f)).any (covers (f place)) = replacements.any (covers place) := by
  rw [List.any_map, Bool.eq_iff_iff, List.any_eq_true, List.any_eq_true]
  refine exists_congr fun replacement => and_congr_right fun member => ?_
  obtain ⟨start, stop⟩ := inside replacement member
  rw [Function.comp, covers_iff, covers_iff]
  exact and_congr (mono.le_iff_le start known) (mono.lt_iff_lt known stop)

end

/-! ### Rewriting by offsets -/

section

variable {first : Replacement Nat} {rest : List (Replacement Nat)} {offset : Nat} {text : List Char}

/-- The offset of the next character. -/
def nextOffset (offset : Nat) (_ : Char) : Nat := offset + 1

theorem rewrite_nil (offset : Nat) (text : List Char) : rewrite nextOffset [] offset text = text := by
  induction text generalizing offset with
  | nil => rfl
  | cons c text inductionHypothesis =>
    exact congrArg (List.cons c) (inductionHypothesis (offset + 1))

/-- Up to where the first part begins, the text stays. -/
theorem rewrite_before {bound : Nat} (before : offset ≤ bound) (inside : bound ≤ offset + text.length)
    (later : ∀ other ∈ rest, bound ≤ other.start) :
    rewrite nextOffset rest offset text =
      text.take (bound - offset) ++
        rewrite nextOffset rest bound (text.drop (bound - offset)) := by
  induction text generalizing offset with
  | nil =>
    obtain rfl : offset = bound := Nat.le_antisymm before inside
    simp
  | cons c text inductionHypothesis =>
    rcases Nat.eq_or_lt_of_le before with rfl | strictly
    · simp
    · have laterThan : ∀ other ∈ rest, offset < other.start := fun other member =>
        strictly.trans_le (later other member)
      have steps : bound - offset = bound - (offset + 1) + 1 := by omega
      rw [List.length_cons] at inside
      rw [rewrite, written_of_later laterThan, not_covered_of_later laterThan, steps,
        List.take_succ_cons, List.drop_succ_cons, nextOffset,
        inductionHypothesis strictly (by omega)]
      rfl

/-- A part that has been gone through changes nothing more. -/
theorem rewrite_cons_of_passed (begun : first.start < offset) (passed : first.stop ≤ offset) :
    rewrite nextOffset (first :: rest) offset text = rewrite nextOffset rest offset text := by
  induction text generalizing offset with
  | nil => exact written_cons_of_lt begun
  | cons c text inductionHypothesis =>
    have uncovered : covers offset first = false := by
      simp [covers, passed]
    rw [rewrite, rewrite, written_cons_of_lt begun, List.any_cons, uncovered, Bool.false_or,
      nextOffset, inductionHypothesis (by omega) (by omega)]

/-- From inside a part that is left out, the text goes on after the part. -/
theorem rewrite_cons_of_begun (begun : first.start < offset) (before : offset ≤ first.stop)
    (inside : first.stop ≤ offset + text.length)
    (later : ∀ other ∈ rest, first.stop ≤ other.start) :
    rewrite nextOffset (first :: rest) offset text =
      rewrite nextOffset rest first.stop (text.drop (first.stop - offset)) := by
  induction text generalizing offset with
  | nil =>
    rw [rewrite_cons_of_passed begun inside, Nat.le_antisymm before inside, List.drop_nil]
  | cons c text inductionHypothesis =>
    rcases Nat.eq_or_lt_of_le before with rfl | strictly
    · simpa using rewrite_cons_of_passed begun (Nat.le_refl _)
    · have laterThan : ∀ other ∈ rest, offset < other.start := fun other member =>
        strictly.trans_le (later other member)
      have covered : covers offset first = true := covers_iff.mpr ⟨begun.le, strictly⟩
      have steps : first.stop - offset = first.stop - (offset + 1) + 1 := by omega
      rw [List.length_cons] at inside
      rw [rewrite, written_cons_of_lt begun, written_of_later laterThan, List.any_cons, covered,
        nextOffset, inductionHypothesis (by omega) strictly (by omega), steps, List.drop_succ_cons]
      rfl

/-- Where the first part begins, its text is written, and the old text goes on after the part. -/
theorem rewrite_cons (starts : first.start = offset) (ordered : first.start ≤ first.stop)
    (inside : first.stop ≤ offset + text.length)
    (later : ∀ other ∈ rest, first.stop ≤ other.start) :
    rewrite nextOffset (first :: rest) offset text =
      first.text.toList ++ rewrite nextOffset rest first.stop (text.drop (first.stop - offset)) := by
  subst starts
  rcases Nat.eq_or_lt_of_le ordered with empty | filled
  · -- An insertion leaves nothing out, so the other parts go on from the same place.
    have inserts : insertsAt first.start first = true := insertsAt_iff.mpr ⟨rfl, empty.symm⟩
    have uncovered : covers first.start first = false := by
      simp [covers, ← empty]
    rw [← empty, Nat.sub_self, List.drop_zero]
    cases text with
    | nil => exact written_cons_insertion inserts
    | cons c text =>
      rw [rewrite, rewrite, written_cons_insertion inserts, List.any_cons, uncovered,
        Bool.false_or, nextOffset, rewrite_cons_of_passed (Nat.lt_succ_self _) (by omega)]
      simp
  · have laterThan : ∀ other ∈ rest, first.start < other.start := fun other member =>
      filled.trans_le (later other member)
    have begins : beginsAt first.start first = true := beginsAt_iff.mpr ⟨rfl, filled⟩
    have covered : covers first.start first = true := covers_iff.mpr ⟨Nat.le_refl _, filled⟩
    cases text with
    | nil => exact absurd inside (Nat.not_le.mpr filled)
    | cons c text =>
      have steps : first.stop - first.start = first.stop - (first.start + 1) + 1 := by omega
      rw [List.length_cons] at inside
      rw [rewrite, written_cons_beginning begins laterThan, List.any_cons, covered, nextOffset,
        rewrite_cons_of_begun (Nat.lt_succ_self _) filled (by omega) later, steps,
        List.drop_succ_cons]
      simp

end
end Replacement

/-! ## Edits -/

namespace Edit

open Replacement

/-- The replacement of an edit, by offsets. -/
def toReplacement (edit : Edit) : Replacement Nat := ⟨edit.span.lo, edit.span.hi, edit.replacement⟩

/-- Edits that are spliced one after the other rewrite the text. -/
theorem splice_eq_rewrite {text : List Char} {place : Nat} {edits : List Edit}
    (ordered : edits.Pairwise fun left right => left.span.hi ≤ right.span.lo)
    (after : ∀ edit ∈ edits, place ≤ edit.span.lo)
    (inside : ∀ edit ∈ edits, edit.span.hi ≤ text.length) :
    splice text place edits =
      rewrite nextOffset (edits.map toReplacement) place (text.drop place) := by
  induction edits generalizing place with
  | nil => exact (rewrite_nil place _).symm
  | cons edit edits inductionHypothesis =>
    rw [List.pairwise_cons] at ordered
    rw [List.forall_mem_cons] at after inside
    have bounds := edit.span.lo_le_hi
    have later : ∀ other ∈ edits.map toReplacement, edit.span.hi ≤ other.start := by
      intro other member
      obtain ⟨source, listed, rfl⟩ := List.mem_map.mp member
      exact ordered.1 source listed
    have laterThanStart : ∀ other ∈ (edit :: edits).map toReplacement, edit.span.lo ≤ other.start := by
      rw [List.map_cons, List.forall_mem_cons]
      exact ⟨Nat.le_refl _, fun other member => bounds.trans (later other member)⟩
    have dropped : (text.drop place).drop (edit.span.lo - place) = text.drop edit.span.lo := by
      rw [List.drop_drop, Nat.add_sub_cancel' after.1]
    have droppedOn : (text.drop edit.span.lo).drop (edit.span.hi - edit.span.lo) =
        text.drop edit.span.hi := by
      rw [List.drop_drop, Nat.add_sub_cancel' bounds]
    have startInside : edit.span.lo ≤ place + (text.drop place).length := by
      rw [List.length_drop]
      omega
    have stopInside : edit.span.hi ≤ edit.span.lo + (text.drop edit.span.lo).length := by
      rw [List.length_drop]
      omega
    have replaced : rewrite nextOffset (edit.toReplacement :: edits.map toReplacement) edit.span.lo
        (text.drop edit.span.lo) = edit.replacement.toList ++
          rewrite nextOffset (edits.map toReplacement) edit.span.hi (text.drop edit.span.hi) := by
      rw [← droppedOn]
      exact rewrite_cons rfl bounds stopInside later
    rw [splice, inductionHypothesis ordered.2 ordered.1 inside.2,
      rewrite_before after.1 startInside laterThanStart, dropped, List.map_cons, replaced,
      List.drop_take, List.append_assoc]

/-! ### Edits that can be applied together -/

theorem not_collides_iff {left right : Edit} : left.collides right = false ↔
    (right.span.hi ≤ left.span.lo ∨ left.span.hi ≤ right.span.lo) ∧ left.span ≠ right.span := by
  simp only [collides, Span.overlaps, Bool.or_eq_false_iff, Bool.and_eq_false_iff,
    decide_eq_false_iff_not, Nat.not_lt]

theorem collides_symm (left right : Edit) : left.collides right = right.collides left := by
  simp [collides, Span.overlaps, Bool.and_comm, eq_comm]

/-- An edit that stands after another one and does not replace the same. -/
def Follows (left right : Edit) : Prop :=
  left.span.hi ≤ right.span.lo ∧ left.span ≠ right.span

theorem Follows.trans {left middle right : Edit} (first : Follows left middle)
    (second : Follows middle right) : Follows left right := by
  obtain ⟨before, different⟩ := first
  have middleBounds := middle.span.lo_le_hi
  refine ⟨before.trans (middleBounds.trans second.1), fun same => different ?_⟩
  -- What stands between two edits of one span is empty, as they are, and stands where they do.
  have leftBounds := left.span.lo_le_hi
  have after := second.1
  rw [← same] at after
  exact Span.eq_of_bounds (by omega) (by omega)

theorem Follows.not_collides {left right : Edit} (follows : Follows left right) :
    left.collides right = false :=
  not_collides_iff.mpr ⟨.inr follows.1, follows.2⟩

theorem apart_of_separate {left right : Edit} (separate : left.collides right = false) :
    Apart left.toReplacement right.toReplacement := by
  obtain ⟨disjoint, different⟩ := not_collides_iff.mp separate
  refine fun place => ⟨fun leftInserts rightInserts => different ?_, fun leftBegins rightBegins => ?_⟩
  · rw [insertsAt_iff] at leftInserts rightInserts
    exact Span.eq_of_bounds (leftInserts.1.trans rightInserts.1.symm)
      (leftInserts.2.trans rightInserts.2.symm)
  · simp only [beginsAt_iff, toReplacement] at leftBegins rightBegins
    omega

/-- Edits that do not collide lie apart, so in the order of their spans the second follows the first. -/
theorem follows_of_separate {left right : Edit} (inOrder : right.span.before left.span = false)
    (separate : left.collides right = false) : Follows left right := by
  have leftBounds := left.span.lo_le_hi
  have rightBounds := right.span.lo_le_hi
  obtain ⟨disjoint, different⟩ := not_collides_iff.mp separate
  rw [Span.not_before_iff] at inOrder
  exact ⟨by omega, different⟩

/-- In the order of their spans, edits that can be applied together stand one after the other. -/
theorem pairwise_follows {edits : List Edit}
    (sorted : edits.Pairwise fun left right => right.span.before left.span = false)
    (compatible : firstCollision? edits = none) : edits.Pairwise Follows := by
  induction edits with
  | nil => exact .nil
  | cons edit edits inductionHypothesis =>
    cases edits with
    | nil => exact List.pairwise_singleton ..
    | cons next edits =>
      rw [firstCollision?] at compatible
      split at compatible
      · cases compatible
      · next separate =>
        have rest := inductionHypothesis sorted.of_cons compatible
        have inOrder : next.span.before edit.span = false :=
          List.rel_of_pairwise_cons sorted List.mem_cons_self
        have follows : edit.Follows next :=
          follows_of_separate inOrder (Bool.not_eq_true _ ▸ separate)
        -- What comes after the neighbour follows it, and so follows the edit before it.
        refine .cons ?_ rest
        rw [List.forall_mem_cons]
        exact ⟨follows, fun other member =>
          follows.trans (List.rel_of_pairwise_cons rest member)⟩

theorem sortedBySpan_perm (edits : List Edit) : (sortedBySpan edits).Perm edits :=
  List.mergeSort_perm ..

theorem sortedByStart_perm (edits : List Edit) : (sortedByStart edits).Perm edits :=
  List.mergeSort_perm ..

theorem sortedBySpan_sorted (edits : List Edit) : (sortedBySpan edits).Pairwise fun left right =>
    right.span.before left.span = false := by
  refine (List.pairwise_mergeSort ?_ ?_ edits).imp fun inOrder => Bool.not_eq_true' _ ▸ inOrder
  · intro first second third
    simp only [Bool.not_eq_true', Span.not_before_iff]
    omega
  · intro first second
    simp only [Bool.or_eq_true, Bool.not_eq_true', Span.not_before_iff]
    omega

/-- Of edits that can be applied together no two collide, in whatever order they are listed. -/
theorem pairwise_separate {edits : List Edit} (compatible : firstOverlap? edits = none) :
    edits.Pairwise fun left right => left.collides right = false := by
  have separate :=
    (pairwise_follows (sortedBySpan_sorted edits) compatible).imp Follows.not_collides
  exact (sortedBySpan_perm edits).pairwise separate fun {left right} apart =>
    (collides_symm right left).trans apart

/-- Of two edits that start at one place, the one that is listed first ends first: an insertion is
listed before the replacement that it touches. -/
def EndsFirst (left right : Edit) : Prop :=
  left.span.lo = right.span.lo → left.span.hi ≤ right.span.hi

/-- The sort by starts is stable: edits that start at one place stay in the order of the list. -/
theorem sortedByStart_stable (edits : List Edit) :
    ∃ numbered : List (Edit × Nat), sortedByStart edits = numbered.map Prod.fst ∧
      (∀ entry ∈ numbered, edits[entry.2]? = some entry.1) ∧
      numbered.Pairwise fun left right => left.1.span.lo < right.1.span.lo ∨
        left.1.span.lo = right.1.span.lo ∧ left.2 ≤ right.2 := by
  let startsFirst := fun left right : Edit => decide (left.span.lo ≤ right.span.lo)
  refine ⟨edits.zipIdx.mergeSort (List.zipIdxLE startsFirst), List.mergeSort_zipIdx.symm, ?_, ?_⟩
  · rintro ⟨edit, index⟩ member
    rwa [List.mem_mergeSort, List.mk_mem_zipIdx_iff_getElem?] at member
  · have trans := @List.zipIdxLE_trans _ startsFirst fun _ _ _ => by
      simpa [startsFirst] using Nat.le_trans
    have total := @List.zipIdxLE_total _ startsFirst fun _ _ => by
      simpa [startsFirst] using Nat.le_total ..
    have sorted := List.pairwise_mergeSort trans total edits.zipIdx
    refine sorted.imp fun {left right} inOrder => ?_
    simp only [List.zipIdxLE, startsFirst] at inOrder
    grind

/-- Sorted by their starts, edits that can be applied together stand one after the other, where
insertions are listed before the replacements that they touch. -/
theorem sortedByStart_ordered {edits : List Edit} (compatible : firstOverlap? edits = none)
    (listed : edits.Pairwise EndsFirst) :
    (sortedByStart edits).Pairwise fun left right => left.span.hi ≤ right.span.lo := by
  have separate : (sortedByStart edits).Pairwise fun left right => left.collides right = false :=
    (sortedByStart_perm edits).symm.pairwise (pairwise_separate compatible) fun {left right} apart =>
      (collides_symm right left).trans apart
  obtain ⟨numbered, isSorted, places, stable⟩ := sortedByStart_stable edits
  rw [isSorted, List.pairwise_map] at separate ⊢
  refine (stable.and separate).imp_of_mem ?_
  rintro ⟨left, i⟩ ⟨right, j⟩ leftMember rightMember ⟨inOrder, apart⟩
  simp only at inOrder apart ⊢
  have endsFirst : left.EndsFirst right := by
    intro same
    have indexed : i ≤ j := by omega
    have atLeft : edits[i]? = some left := places _ leftMember
    have atRight : edits[j]? = some right := places _ rightMember
    rcases Nat.eq_or_lt_of_le indexed with rfl | earlier
    · cases atLeft.symm.trans atRight
      exact Nat.le_refl _
    · obtain ⟨leftInside, rfl⟩ := List.getElem?_eq_some_iff.mp atLeft
      obtain ⟨rightInside, rfl⟩ := List.getElem?_eq_some_iff.mp atRight
      exact List.pairwise_iff_getElem.mp listed i j leftInside rightInside earlier same
  have notBefore : right.span.before left.span = false := by
    rw [Span.not_before_iff]
    exact inOrder.imp_right fun same => ⟨same.1, endsFirst same.1⟩
  exact (follows_of_separate notBefore apart).1

/-- The text with edits applied is the text rewritten place by place, where insertions are listed
before the replacements that they touch. -/
theorem applyAll_eq_rewrite {text : List Char} {edits : List Edit}
    (compatible : firstOverlap? edits = none) (listed : edits.Pairwise EndsFirst)
    (inside : ∀ edit ∈ edits, edit.span.hi ≤ text.length) :
    applyAll text edits = rewrite nextOffset (edits.map toReplacement) 0 text := by
  have perm := sortedByStart_perm edits
  have apart : (edits.map toReplacement).Pairwise Apart :=
    List.pairwise_map.mpr ((pairwise_separate compatible).imp apart_of_separate)
  rw [applyAll, splice_eq_rewrite (sortedByStart_ordered compatible listed) (fun _ _ => Nat.zero_le _)
    fun edit member => inside edit (perm.subset member), List.drop_zero]
  exact (rewrite_perm (perm.map toReplacement).symm apart 0 text).symm

end Edit
end DrainLint
