import DrainLint.Proofs.Tree.Nesting

/-! # The order of the text

Which nodes list their children in the order in which they stand in the text, and what follows for
walks.

- `Node.NotAfter`: a node that starts no later than another one;
- `Node.isInverted`: a node that lists a type behind what it stands in front of;
- `Node.children_ordered_iff`: all other nodes list their children in the order of the text;
- `Node.pairwise_walk`: what holds along a walk on which there is no such node;
- `Node.walk_ordered_iff`: a walk follows the text just if there is none.
-/

namespace DrainLint.Hir.Node

open List

/-- A node that starts no later than another one. -/
def NotAfter (first second : Node) : Prop := first.span.lo ≤ second.span.lo

instance (first second : Node) : Decidable (first.NotAfter second) :=
  inferInstanceAs (Decidable (_ ≤ _))

/-! ## Children -/

/-- A node that lists a type behind what it stands in front of: the generic arguments of a method
call behind the arguments, the type that a closure returns behind the body, or the trait of an
implementation behind the type. -/
def isInverted : Node → Bool
  | expr (.methodCall _ _ _ args _ genericArgs) => !args.isEmpty && !genericArgs.isEmpty
  | expr (.closure _ _ _ ret _) => ret.isSome
  | item (.implBlock _ _ _ traitRef _ _) => traitRef.isSome
  | _ => false

/-- A node that is not inverted lists its children in the order of the text. -/
theorem textChildren_eq_children {node : Node} (upright : node.isInverted = false) :
    node.textChildren = node.children := by
  unfold isInverted at upright
  split at upright
  · next origin receiver method args nameSpan genericArgs =>
    -- With no arguments or no generic ones there is nothing to stand in front of.
    cases args with
    | nil => simp [textChildren, textFields, children_eq, fields]
    | cons =>
      cases genericArgs with
      | nil => simp [textChildren, textFields, children_eq, fields]
      | cons => cases upright
  · next origin params body ret isMove =>
    obtain rfl := Option.isSome_eq_false_iff.mp upright |> Option.isNone_iff_eq_none.mp
    simp [textChildren, textFields, children_eq, fields]
  · next origin generics selfTy traitRef items attrs =>
    obtain rfl := Option.isSome_eq_false_iff.mp upright |> Option.isNone_iff_eq_none.mp
    simp [textChildren, textFields, children_eq, fields]
  · next noCall noClosure noBlock =>
    rw [children_eq, textChildren]
    unfold textFields
    split
    · exact (noCall _ _ _ _ _ _ rfl).elim
    · exact (noClosure _ _ _ _ _ rfl).elim
    · exact (noBlock _ _ _ _ _ _ rfl).elim
    · rfl

/-- An inverted node lists a type behind a node that the type stands in front of. -/
theorem exists_swapped {node : Node} (inverted : node.isInverted = true) :
    ∃ value other, [other, .ty value] <+ node.children ∧ [.ty value, other] <+ node.textChildren := by
  unfold isInverted at inverted
  split at inverted
  · next origin receiver method args nameSpan genericArgs =>
    simp only [Bool.and_eq_true, Bool.not_eq_true', List.isEmpty_eq_false_iff_exists_mem] at inverted
    obtain ⟨⟨argument, isArgument⟩, ⟨value, isGeneric⟩⟩ := inverted
    have ofArgs : [Node.expr argument] <+ args.flatMap fun argument => [Node.expr argument] :=
      singleton_sublist.mpr (List.mem_flatMap.mpr ⟨_, isArgument, List.mem_singleton_self _⟩)
    have ofGenerics : [Node.ty value] <+ genericArgs.flatMap fun value => [Node.ty value] :=
      singleton_sublist.mpr (List.mem_flatMap.mpr ⟨_, isGeneric, List.mem_singleton_self _⟩)
    refine ⟨value, .expr argument, ?_, ?_⟩
    · simpa [children_eq, fields] using (ofArgs.append ofGenerics).cons (.expr receiver)
    · simpa [textChildren, textFields, fields] using
        (ofGenerics.append ofArgs).cons (.expr receiver)
  · next origin params body ret isMove =>
    obtain ⟨value, rfl⟩ := Option.isSome_iff_exists.mp inverted
    refine ⟨value, .expr body, ?_, ?_⟩
    · simp [children_eq, fields]
    · simp [textChildren, textFields, fields]
  · next origin generics selfTy traitRef items attrs =>
    obtain ⟨value, rfl⟩ := Option.isSome_iff_exists.mp inverted
    refine ⟨value, .ty selfTy, ?_, ?_⟩
    · simp [children_eq, fields]
    · simp [textChildren, textFields, fields]
  · cases inverted

/-- The children of a node are listed in the order of the text just if the node is not inverted. -/
theorem children_ordered_iff {node : Node} (throughout : ∀ below ∈ node.walk, below.WellPlaced) :
    node.children.Pairwise NotAfter ↔ node.isInverted = false := by
  have ordered := (throughout node (mem_walk_self node)).ordered
  constructor
  · intro listed
    by_contra inverted
    obtain ⟨value, other, behind, before⟩ := exists_swapped (Bool.not_eq_false _ ▸ inverted)
    have starts : other.NotAfter (.ty value) :=
      (List.pairwise_cons.mp (listed.sublist behind)).1 _ List.mem_cons_self
    have isChild : Node.ty value ∈ node.children := behind.subset (by simp)
    have filled : (Node.ty value).span.lo < (Node.ty value).span.hi :=
      (throughout _ (mem_walk_of_child isChild (mem_walk_self _))).filled
    have precedes : (Node.ty value).Precedes other :=
      (List.pairwise_cons.mp (ordered.sublist before)).1 _ List.mem_cons_self
    rcases precedes with ends | ⟨_, flush⟩
    · exact absurd starts (Nat.not_le.mpr (Nat.lt_of_lt_of_le filled ends))
    · exact flush.1 value rfl
  · intro upright
    rw [textChildren_eq_children upright] at ordered
    exact ordered.imp Precedes.start_le

/-! ## Walks -/

theorem children_sublist_walk (node : Node) : node.children <+ node.walk := by
  have each (nodes : List Node) : nodes <+ walkAll nodes := by
    induction nodes with
    | nil => exact .refl _
    | cons head tail inductionHypothesis =>
      rw [walkAll_cons, walk_eq, List.cons_append]
      exact (inductionHypothesis.trans (sublist_append_right _ _)).cons_cons head
  rw [walk_eq]
  exact (each _).cons node

theorem walk_sublist_walk {root below : Node} (inside : below ∈ root.walk) :
    below.walk <+ root.walk := by
  induction root using ofChildren with | step root inductionHypothesis =>
  rw [walk_eq] at inside
  cases inside with
  | head => exact .refl _
  | tail _ member =>
    obtain ⟨child, isChild, inChild⟩ := List.mem_flatMap.mp member
    have below_child := inductionHypothesis child isChild inChild
    rw [walk_eq root]
    exact (below_child.trans (sublist_flatten_of_mem (List.mem_map_of_mem isChild))).cons root

/-- What holds of a node and all below it, and of all below two trees one of which precedes the
other, holds along a walk on which no node is inverted. -/
theorem pairwise_walk {related : Node → Node → Prop} {root : Node}
    (throughout : ∀ node ∈ root.walk, node.WellPlaced)
    (upright : ∀ node ∈ root.walk, node.isInverted = false)
    (down : ∀ node ∈ root.walk, ∀ below ∈ walkAll node.children, related node below)
    (across : ∀ first ∈ root.walk, ∀ second ∈ root.walk, first.Precedes second →
      ∀ below ∈ first.walk, ∀ other ∈ second.walk, related below other) :
    root.walk.Pairwise related := by
  induction root using ofChildren with | step root inductionHypothesis =>
  have self := mem_walk_self root
  have ordered := (throughout root self).ordered
  rw [textChildren_eq_children (upright root self)] at ordered
  have inRoot : ∀ child ∈ root.children, ∀ below ∈ child.walk, below ∈ root.walk :=
    fun child isChild below => mem_walk_of_child isChild
  rw [walk_eq, List.pairwise_cons]
  refine ⟨down root self, List.pairwise_flatMap.mpr ⟨fun child isChild => ?_, ?_⟩⟩
  · have inside := inRoot child isChild
    exact inductionHypothesis child isChild (fun node below => throughout node (inside node below))
      (fun node below => upright node (inside node below))
      (fun node below => down node (inside node below))
      fun first isFirst second isSecond =>
        across first (inside first isFirst) second (inside second isSecond)
  · refine ordered.imp_of_mem fun isFirst isSecond precedes => ?_
    exact across _ (inRoot _ isFirst _ (mem_walk_self _)) _ (inRoot _ isSecond _ (mem_walk_self _))
      precedes

/-- What is below a tree does not start after what is below a tree that it precedes. -/
theorem Precedes.notAfter_of_mem_walk {first second below other : Node}
    (precedes : first.Precedes second) (throughout : ∀ node ∈ first.walk, node.WellPlaced)
    (throughout' : ∀ node ∈ second.walk, node.WellPlaced) (inside : below ∈ first.walk)
    (inside' : other ∈ second.walk) : below.NotAfter other := by
  obtain ⟨_, upper⟩ := span_covers throughout inside
  obtain ⟨lower, _⟩ := span_covers throughout' inside'
  have := below.span.lo_le_hi
  unfold NotAfter
  rcases precedes with ends | ⟨starts, flush⟩
  · omega
  · have := flush.2 below inside
    omega

/-- A walk follows the text just if no node on its way is inverted. -/
theorem walk_ordered_iff {root : Node} (throughout : ∀ node ∈ root.walk, node.WellPlaced) :
    root.walk.Pairwise NotAfter ↔ ∀ node ∈ root.walk, node.isInverted = false := by
  have inside : ∀ {node}, node ∈ root.walk → ∀ below ∈ node.walk, below.WellPlaced :=
    fun isNode below deeper => throughout below (mem_walk_trans isNode deeper)
  constructor
  · intro ordered node isNode
    have listed := node.children_sublist_walk.trans (walk_sublist_walk isNode)
    exact (children_ordered_iff (inside isNode)).mp (ordered.sublist listed)
  · intro upright
    refine pairwise_walk throughout upright (fun node isNode below member => ?_)
      fun first isFirst second isSecond precedes below inFirst other inSecond =>
        precedes.notAfter_of_mem_walk (inside isFirst) (inside isSecond) inFirst inSecond
    have isBelow : below ∈ node.walk := by
      rw [walk_eq]
      exact List.mem_cons_of_mem _ member
    exact (span_covers (inside isNode) isBelow).1

end DrainLint.Hir.Node
