import DrainLint.Proofs.Fix.Collisions
import Mathlib.Algebra.GroupWithZero.Nat

/-! # The order in which edits are listed

Edits that can be applied together say by themselves what becomes of a text.  Applying them gives that
text exactly if no insertion is listed after the replacement that begins where it stands: such an
insertion takes the place in the text back, and what was left out is written after all.

- `Edit.CarriedOut`: a text in which edits are carried out, what is outside of their spans kept;
- `Edit.rewound`, `Edit.length_splice`: by how many characters the place goes back, and how long the
  text becomes;
- `Edit.endsFirst_iff`: when the place never goes back;
- `Edit.applyChecked_listed`: which listings of the edits carry them out;
- `Edit.listing_shows`: two listings of the same edits that give different texts.
-/

namespace DrainLint.Edit

open Replacement

/-! ## Edits that are carried out -/

/-- The characters of a text that stand in none of the spans of edits, with their places. -/
def outside (text : List Char) (edits : List Edit) : List (Char × Nat) :=
  text.zipIdx.filter fun (_, place) => !(edits.map toReplacement).any (covers place)

/-- A text in which edits are carried out.  It is the old text rewritten place by place, as long as the
lengths of the spans and of their replacements say, and each of its characters can be traced back to a
replacement or to a place of the old text: those of the places outside of the spans are there once and
in their order. -/
structure CarriedOut (text : List Char) (edits : List Edit) (result : List Char) : Prop where
  rewritten : result = rewrite nextOffset (edits.map toReplacement) 0 text
  length : result.length + (edits.map fun edit => edit.span.length).sum =
    text.length + (edits.map fun edit => edit.replacement.toList.length).sum
  kept : ∃ traced : List (Char × Option Nat), traced.map Prod.fst = result ∧
    traced.filterMap (fun (c, place?) => place?.map (c, ·)) = outside text edits

/-- What can be traced back in a text that is rewritten. -/
theorem rewrite_traced (replacements : List (Replacement Nat)) (offset : Nat) (text : List Char) :
    ∃ traced : List (Char × Option Nat),
      traced.map Prod.fst = rewrite nextOffset replacements offset text ∧
        traced.filterMap (fun (c, place?) => place?.map (c, ·)) =
          (text.zipIdx offset).filter fun (_, place) => !replacements.any (covers place) := by
  let fromReplacement := fun c : Char => (c, (none : Option Nat))
  induction text generalizing offset with
  | nil =>
    refine ⟨(written offset replacements).map fromReplacement, ?_, ?_⟩
    · simp [rewrite, fromReplacement, Function.comp_def]
    · simp [fromReplacement]
  | cons c text inductionHypothesis =>
    obtain ⟨traced, isRest, keepsRest⟩ := inductionHypothesis (offset + 1)
    by_cases covered : replacements.any (covers offset)
    · refine ⟨(written offset replacements).map fromReplacement ++ traced, ?_, ?_⟩
      · simp [rewrite, nextOffset, covered, isRest, fromReplacement, Function.comp_def]
      · simp [List.zipIdx_cons, covered, keepsRest, fromReplacement]
    · refine ⟨(written offset replacements).map fromReplacement ++ (c, some offset) :: traced, ?_, ?_⟩
      · simp [rewrite, nextOffset, covered, isRest, fromReplacement, Function.comp_def]
      · simp [List.zipIdx_cons, covered, keepsRest, fromReplacement]

/-! ## How long a text becomes -/

/-- By how many characters the place in the text goes back while edits are applied one by one. -/
def rewound (place : Nat) : List Edit → Nat
  | [] => 0
  | edit :: edits => (place - edit.span.lo) + rewound edit.span.hi edits

theorem rewound_eq_zero_iff {place : Nat} {edits : List Edit} : rewound place edits = 0 ↔
    (∀ edit ∈ edits, place ≤ edit.span.lo) ∧
      edits.Pairwise fun left right => left.span.hi ≤ right.span.lo := by
  induction edits generalizing place with
  | nil => simp [rewound]
  | cons edit edits inductionHypothesis =>
    have bounds := edit.span.lo_le_hi
    rw [rewound, Nat.add_eq_zero_iff, inductionHypothesis, Nat.sub_eq_zero_iff_le,
      List.forall_mem_cons, List.pairwise_cons]
    constructor
    · rintro ⟨starts, later, ordered⟩
      exact ⟨⟨starts, fun other member => (starts.trans bounds).trans (later other member)⟩, later,
        ordered⟩
    · rintro ⟨⟨starts, -⟩, later, ordered⟩
      exact ⟨starts, later, ordered⟩

/-- What the place goes back by is written a second time. -/
theorem length_splice {text : List Char} {place : Nat} {edits : List Edit}
    (known : place ≤ text.length) (inside : ∀ edit ∈ edits, edit.span.hi ≤ text.length) :
    (splice text place edits).length + place + (edits.map fun edit => edit.span.length).sum =
      text.length + (edits.map fun edit => edit.replacement.toList.length).sum +
        rewound place edits := by
  induction edits generalizing place with
  | nil =>
    simp only [splice, rewound, List.length_drop, List.map_nil, List.sum_nil]
    omega
  | cons edit edits inductionHypothesis =>
    rw [List.forall_mem_cons] at inside
    have rest := inductionHypothesis inside.1 inside.2
    have bounds := edit.span.lo_le_hi
    have width : edit.span.length = edit.span.hi - edit.span.lo := rfl
    simp only [splice, rewound, List.length_append, List.length_drop, List.length_take,
      List.map_cons, List.sum_cons]
    omega

theorem length_applyAll {text : List Char} {edits : List Edit}
    (inside : ∀ edit ∈ edits, edit.span.hi ≤ text.length) :
    (applyAll text edits).length + (edits.map fun edit => edit.span.length).sum =
      text.length + (edits.map fun edit => edit.replacement.toList.length).sum +
        rewound 0 (sortedByStart edits) := by
  have perm := sortedByStart_perm edits
  have spliced := length_splice (Nat.zero_le text.length) fun edit member =>
    inside edit (perm.subset member)
  rw [Nat.add_zero, (perm.map _).sum_nat, (perm.map _).sum_nat] at spliced
  exact spliced

/-! ## Listings that carry the edits out -/

/-- No insertion is listed after a replacement that begins where it stands exactly if the place in the
text never goes back. -/
theorem endsFirst_iff {edits : List Edit} (compatible : firstOverlap? edits = none) :
    edits.Pairwise EndsFirst ↔ rewound 0 (sortedByStart edits) = 0 := by
  rw [rewound_eq_zero_iff]
  constructor
  · exact fun listed => ⟨fun edit _ => Nat.zero_le _, sortedByStart_ordered compatible listed⟩
  · rintro ⟨-, ordered⟩
    rw [List.pairwise_iff_forall_sublist] at ordered ⊢
    intro left right pair same
    -- The sort is stable, so the two stand in the order of the list where they are applied.
    have sorted : [left, right].Sublist (sortedByStart edits) := by
      refine List.pair_sublist_mergeSort ?_ ?_ (decide_eq_true same.le) pair
      · simpa using fun _ _ _ => Nat.le_trans
      · simpa using fun _ _ => Nat.le_total ..
    have apart := ordered sorted
    have bounds := right.span.lo_le_hi
    omega

theorem sortedBySpan_endsFirst (edits : List Edit) : (sortedBySpan edits).Pairwise EndsFirst := by
  refine (sortedBySpan_sorted edits).imp fun {left right} inOrder same => ?_
  rcases Span.not_before_iff.mp inOrder with earlier | ⟨-, endsFirst⟩
  · exact absurd same earlier.ne
  · exact endsFirst

theorem firstOverlap?_perm {listed edits : List Edit} (perm : listed.Perm edits)
    (compatible : firstOverlap? edits = none) : firstOverlap? listed = none := by
  rw [← Option.not_isSome_iff_eq_none, firstOverlap?_isSome_iff] at compatible ⊢
  rwa [clashing_perm perm]

section

variable {text : List Char} {edits listed : List Edit}

/-- A listing without such an insertion gives the text that the edits by themselves say. -/
theorem applyAll_listed (perm : listed.Perm edits) (compatible : firstOverlap? edits = none)
    (inside : ∀ edit ∈ edits, edit.span.hi ≤ text.length) (endsFirst : listed.Pairwise EndsFirst) :
    applyAll text listed = rewrite nextOffset (edits.map toReplacement) 0 text := by
  have compatibleListed := firstOverlap?_perm perm compatible
  have apart : (listed.map toReplacement).Pairwise Apart :=
    List.pairwise_map.mpr ((pairwise_separate compatibleListed).imp apart_of_separate)
  rw [applyAll_eq_rewrite compatibleListed endsFirst fun edit member =>
    inside edit (perm.subset member)]
  exact rewrite_perm (perm.map toReplacement) apart 0 text

theorem carriedOut_rewrite (compatible : firstOverlap? edits = none)
    (inside : ∀ edit ∈ edits, edit.span.hi ≤ text.length) :
    CarriedOut text edits (rewrite nextOffset (edits.map toReplacement) 0 text) where
  rewritten := rfl
  length := by
    -- The order of the spans is a listing that gives this text.
    have perm := sortedBySpan_perm edits
    have endsFirst := sortedBySpan_endsFirst edits
    have neverBack := (endsFirst_iff (firstOverlap?_perm perm compatible)).mp endsFirst
    have counted := length_applyAll fun edit member => inside edit (perm.subset member)
    rwa [neverBack, Nat.add_zero, (perm.map _).sum_nat, (perm.map _).sum_nat,
      applyAll_listed perm compatible inside endsFirst] at counted
  kept := rewrite_traced (edits.map toReplacement) 0 text

/-- Edits that can be applied together say by themselves what becomes of a text, and they become that
in a listing exactly if no insertion is listed after the replacement that begins where it stands. -/
theorem applyChecked_listed (compatible : firstOverlap? edits = none)
    (inside : ∀ edit ∈ edits, edit.span.hi ≤ text.length) :
    ∃ result, CarriedOut text edits result ∧ ∀ listed, listed.Perm edits →
      (applyChecked text listed = .ok result ↔ listed.Pairwise EndsFirst) := by
  have carriedOut := carriedOut_rewrite compatible inside
  refine ⟨_, carriedOut, fun listed perm => ?_⟩
  have compatibleListed := firstOverlap?_perm perm compatible
  rw [applyChecked, compatibleListed, Except.ok.injEq]
  constructor
  · intro same
    -- The text would be longer than the edits say if the place went back.
    have counted := length_applyAll fun edit member => inside edit (perm.subset member)
    have length := carriedOut.length
    rw [same, (perm.map _).sum_nat, (perm.map _).sum_nat] at counted
    exact (endsFirst_iff compatibleListed).mpr (by omega)
  · exact applyAll_listed perm compatible inside

end

/-! ### Two listings of the same edits -/

def lettersText : List Char := "abcdef".toList

/-- A deletion at the end, and an insertion with a replacement that begins where it stands. -/
def lettersEdits : List Edit :=
  [⟨⟨4, 6, by decide⟩, ""⟩, ⟨⟨1, 1, by decide⟩, "Y"⟩, ⟨⟨1, 3, by decide⟩, "X"⟩]

theorem applyChecked_listed_letters : firstOverlap? lettersEdits = none ∧
    (∀ edit ∈ lettersEdits, edit.span.hi ≤ lettersText.length) ∧ ∃ result,
      CarriedOut lettersText lettersEdits result ∧
        applyChecked lettersText lettersEdits = .ok result ∧
          applyChecked lettersText lettersEdits.reverse ≠ .ok result := by
  have compatible : firstOverlap? lettersEdits = none := by
    simp [lettersEdits, firstOverlap?, sortedBySpan, List.mergeSort, Span.before, firstCollision?,
      collides, Span.overlaps]
  have inside : ∀ edit ∈ lettersEdits, edit.span.hi ≤ lettersText.length := by decide +kernel
  obtain ⟨result, carriedOut, listings⟩ := applyChecked_listed compatible inside
  have endsFirst : lettersEdits.Pairwise EndsFirst := by simp [lettersEdits, EndsFirst]
  have endsLast : ¬ lettersEdits.reverse.Pairwise EndsFirst := by simp [lettersEdits, EndsFirst]
  exact ⟨compatible, inside, result, carriedOut, (listings _ (.refl _)).mpr endsFirst,
    fun same => endsLast ((listings _ (List.reverse_perm _)).mp same)⟩

/-- Listed the other way round, the same edits give a text that is two characters too long, in which
what was to be replaced still stands. -/
theorem listing_shows : lettersEdits.reverse.Perm lettersEdits ∧
    firstOverlap? lettersEdits.reverse = none ∧
      (∀ edit ∈ lettersEdits.reverse, edit.span.hi ≤ lettersText.length) ∧
        applyChecked lettersText lettersEdits = .ok "aYXd".toList ∧
          applyChecked lettersText lettersEdits.reverse = .ok "aXYbcd".toList ∧
            "aXYbcd".toList.length + (lettersEdits.map fun edit => edit.span.length).sum ≠
              lettersText.length +
                (lettersEdits.map fun edit => edit.replacement.toList.length).sum := by
  have compatible : firstOverlap? lettersEdits.reverse = none := by
    simp [lettersEdits, firstOverlap?, sortedBySpan, List.mergeSort, Span.before, firstCollision?,
      collides, Span.overlaps]
  have applied : ∀ edits result, firstOverlap? edits = none → applyAll lettersText edits = result →
      applyChecked lettersText edits = .ok result := by
    rintro edits result separate rfl
    rw [applyChecked, separate]
  refine ⟨List.reverse_perm _, compatible, by decide +kernel, applied _ _ ?_ ?_,
    applied _ _ compatible ?_, by decide +kernel⟩
  · exact firstOverlap?_perm (List.reverse_perm _).symm compatible
  · simp [applyAll, sortedByStart, List.mergeSort, splice, lettersEdits, lettersText]
  · simp [applyAll, sortedByStart, List.mergeSort, splice, lettersEdits, lettersText]

end DrainLint.Edit
