import Mathlib.Data.List.SplitBy

/-! # Runs of equal keys

A sorted list falls into runs of elements of one key.  Cutting it wherever neighbours differ finds
them.

- `Runs`: a list cut into runs whose keys rise;
- `Runs.filter_eq`: a run has all elements of its key;
- `runs_splitBy`: a sorted list is cut into its runs;
- `splitBy_map`: cutting a list of images is cutting the list.
-/

namespace DrainLint

/-- A list cut into runs: within a run the key stays, and from run to run it rises. -/
structure Runs {α : Type} (key : α → Nat) (as : List α) (runs : List (Nat × List α)) : Prop where
  whole : runs.flatMap Prod.snd = as
  nonempty : ∀ run ∈ runs, run.2 ≠ []
  keyed : ∀ run ∈ runs, ∀ a ∈ run.2, key a = run.1
  ascending : runs.Pairwise fun before after => before.1 < after.1

namespace Runs

variable {α : Type} {key : α → Nat} {as : List α} {runs : List (Nat × List α)}
  (cut : Runs key as runs)

include cut

theorem mem_keys_iff (k : Nat) : k ∈ runs.map Prod.fst ↔ ∃ a ∈ as, key a = k := by
  rw [List.mem_map]
  constructor
  · rintro ⟨run, listed, rfl⟩
    obtain ⟨a, member⟩ := List.exists_mem_of_ne_nil _ (cut.nonempty run listed)
    refine ⟨a, ?_, cut.keyed run listed a member⟩
    rw [← cut.whole]
    exact List.mem_flatMap.mpr ⟨run, listed, member⟩
  · rintro ⟨a, member, rfl⟩
    rw [← cut.whole] at member
    obtain ⟨run, listed, member⟩ := List.mem_flatMap.mp member
    exact ⟨run, listed, (cut.keyed run listed a member).symm⟩

/-- A run has all elements of its key. -/
theorem filter_eq {run : Nat × List α} (listed : run ∈ runs) :
    as.filter (key · = run.1) = run.2 := by
  have others : ∀ other : List (Nat × List α), (∀ entry ∈ other, entry ∈ runs ∧ entry.1 ≠ run.1) →
      (other.flatMap Prod.snd).filter (key · = run.1) = [] := by
    intro other apart
    refine List.filter_eq_nil_iff.mpr fun a member => ?_
    obtain ⟨entry, isOther, member⟩ := List.mem_flatMap.mp member
    obtain ⟨known, different⟩ := apart entry isOther
    rw [cut.keyed entry known a member]
    simpa using different
  have own : run.2.filter (key · = run.1) = run.2 :=
    List.filter_eq_self.mpr fun a member => decide_eq_true (cut.keyed run listed a member)
  -- The keys of the runs before lie below this one and those of the runs after it above.
  obtain ⟨front, back, rfl⟩ := List.append_of_mem listed
  obtain ⟨-, ascending, between⟩ := List.pairwise_append.mp cut.ascending
  have before := others front fun entry member =>
    ⟨List.mem_append_left _ member, (between entry member run List.mem_cons_self).ne⟩
  have after := others back fun entry member =>
    ⟨List.mem_append_right _ (List.mem_cons_of_mem _ member),
      ((List.pairwise_cons.mp ascending).1 entry member).ne'⟩
  rw [← cut.whole, List.flatMap_append, List.flatMap_cons, List.filter_append, List.filter_append,
    before, after, own, List.nil_append, List.append_nil]

end Runs

section

variable {α : Type} (key : α → Nat)

/-- A list of elements of one key, with that key. -/
def runOf (group : List α) : Nat × List α := ((group.map key).headD 0, group)

/-- Neighbours that differ rise all the way. -/
theorem pairwise_lt_of_isChain_ne {ks : List Nat} (sorted : ks.Pairwise (· ≤ ·))
    (differ : ks.IsChain (· ≠ ·)) : ks.Pairwise (· < ·) := by
  induction ks with
  | nil => exact .nil
  | cons k ks inductionHypothesis =>
    obtain ⟨least, sorted⟩ := List.pairwise_cons.mp sorted
    obtain ⟨first, differ⟩ := List.isChain_cons.mp differ
    have rising := inductionHypothesis sorted differ
    refine .cons (fun later member => ?_) rising
    cases ks with
    | nil => cases member
    | cons next ks =>
      have step : k < next := Nat.lt_of_le_of_ne (least next List.mem_cons_self) (first next rfl)
      rcases List.mem_cons.mp member with rfl | member
      · exact step
      · exact step.trans ((List.pairwise_cons.mp rising).1 later member)

variable {as : List α}

/-- In a group neighbours have the same key, and so have all. -/
theorem keyed_of_mem_splitBy {group : List α}
    (listed : group ∈ as.splitBy fun left right => key left == key right) {a : α}
    (member : a ∈ group) : key a = (runOf key group).1 := by
  have chain : (group.map key).IsChain (· = ·) :=
    (List.isChain_map key).mpr ((List.isChain_of_mem_splitBy listed).imp fun _ _ => eq_of_beq)
  have same := List.isChain_iff_pairwise.mp chain
  cases group with
  | nil => cases member
  | cons first rest =>
    rcases List.mem_cons.mp member with rfl | member
    · rfl
    · exact ((List.pairwise_cons.mp same).1 _ (List.mem_map_of_mem member)).symm

/-- A sorted list is cut into runs where neighbours differ. -/
theorem runs_splitBy (sorted : as.Pairwise fun left right => key left ≤ key right) :
    Runs key as ((as.splitBy fun left right => key left == key right).map (runOf key)) where
  whole := by
    rw [List.flatMap_map, List.flatMap_def]
    exact (congrArg List.flatten (List.map_id _)).trans (List.flatten_splitBy _ as)
  nonempty run listed := by
    obtain ⟨group, isGroup, rfl⟩ := List.mem_map.mp listed
    exact List.ne_nil_of_mem_splitBy isGroup
  keyed run listed a member := by
    obtain ⟨group, isGroup, rfl⟩ := List.mem_map.mp listed
    exact keyed_of_mem_splitBy key isGroup member
  ascending := by
    -- From group to group keys do not fall because the list is sorted, and do not stay because it
    -- was cut there.
    rw [← List.flatten_splitBy (fun left right => key left == key right) as,
      List.pairwise_flatten] at sorted
    have notFalling : ((as.splitBy fun left right => key left == key right).map fun group =>
        (runOf key group).1).Pairwise (· ≤ ·) := by
      refine List.pairwise_map.mpr (sorted.2.imp_of_mem fun isLeft isRight ordered => ?_)
      obtain ⟨a, inLeft⟩ := List.exists_mem_of_ne_nil _ (List.ne_nil_of_mem_splitBy isLeft)
      obtain ⟨b, inRight⟩ := List.exists_mem_of_ne_nil _ (List.ne_nil_of_mem_splitBy isRight)
      rw [← keyed_of_mem_splitBy key isLeft inLeft, ← keyed_of_mem_splitBy key isRight inRight]
      exact ordered a inLeft b inRight
    have differ : ((as.splitBy fun left right => key left == key right).map fun group =>
        (runOf key group).1).IsChain (· ≠ ·) := by
      refine (List.isChain_map _).mpr ((List.isChain_getLast_head_splitBy _ as).imp_of_mem_imp ?_)
      rintro left right isLeft isRight ⟨leftFull, rightFull, different⟩
      rw [← keyed_of_mem_splitBy key isLeft (List.getLast_mem leftFull),
        ← keyed_of_mem_splitBy key isRight (List.head_mem rightFull)]
      exact ne_of_beq_false different
    have rising := pairwise_lt_of_isChain_ne notFalling differ
    rw [List.pairwise_map] at rising ⊢
    exact rising

/-- Cutting a list of images is cutting the list. -/
theorem splitBy_map {β : Type} (f : α → β) (r : β → β → Bool) (as : List α) :
    (as.map f).splitBy r = (as.splitBy fun a b => r (f a) (f b)).map (List.map f) := by
  refine List.splitBy_eq_iff.mpr ⟨?_, ?_, ?_, ?_⟩
  · rw [← List.map_flatten, List.flatten_splitBy]
  · intro empty
    obtain ⟨group, listed, isEmpty⟩ := List.mem_map.mp empty
    exact List.ne_nil_of_mem_splitBy listed (List.map_eq_nil_iff.mp isEmpty)
  · intro mapped listed
    obtain ⟨group, isGroup, rfl⟩ := List.mem_map.mp listed
    exact (List.isChain_map f).mpr (List.isChain_of_mem_splitBy isGroup)
  · refine (List.isChain_map _).mpr ((List.isChain_getLast_head_splitBy _ as).imp ?_)
    rintro left right ⟨leftFull, rightFull, different⟩
    refine ⟨by simpa using leftFull, by simpa using rightFull, ?_⟩
    rwa [List.getLast_map, List.head_map]

end

end DrainLint
