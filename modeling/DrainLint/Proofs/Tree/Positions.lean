import DrainLint.Proofs.Tree.Walk
import Mathlib.Data.List.Basic

/-! # Positions in a tree

A place in a tree is the list of the indices that lead to it from the top.  A walk goes through the
places in their lexicographic order: it comes to every place of the tree, and to each of them once.

- `Node.at?`: the node at a position, if the tree has it;
- `Node.positions`: the positions of a tree, each before those below it;
- `Node.mem_positions_iff`: they are those at which there is a node;
- `Node.pairwise_positions`: they ascend;
- `Node.map_at?_positions`: what stands at them is the walk.
-/

namespace DrainLint.Hir.Node

/-- The node to which a list of indices leads, from child to child. -/
def at? (node : Node) : List Nat → Option Node
  | [] => some node
  | index :: position => node.children[index]?.bind fun child => child.at? position

/-- The positions of a tree: the top, then those of each child behind its index. -/
def positions (node : Node) : List (List Nat) :=
  [] :: node.children.attach.zipIdx.flatMap fun ⟨⟨child, _⟩, index⟩ =>
    (positions child).map (index :: ·)
termination_by node.weight
decreasing_by exact weight_child_lt (by assumption)

theorem positions_eq (node : Node) :
    node.positions = [] :: node.children.zipIdx.flatMap fun (child, index) =>
      child.positions.map (index :: ·) := by
  have unattached : node.children.attach.zipIdx.map (Prod.map Subtype.val fun index => index) =
      node.children.zipIdx := by
    refine (List.zipIdx_map ..).symm.trans ?_
    rw [List.attach_map_subtype_val]
  rw [positions, ← unattached, List.flatMap_map]
  rfl

variable {node : Node} {index : Nat} {position : List Nat}

@[simp] theorem at?_nil (node : Node) : node.at? [] = some node := by rw [at?]

theorem at?_cons {child : Node} (found : node.children[index]? = some child) :
    node.at? (index :: position) = child.at? position := by
  rw [at?, found, Option.bind_some]

theorem nil_mem_positions (node : Node) : [] ∈ node.positions := by
  rw [positions_eq]
  exact List.mem_cons_self

theorem cons_mem_positions : index :: position ∈ node.positions ↔
    ∃ child, node.children[index]? = some child ∧ position ∈ child.positions := by
  rw [positions_eq]
  simp [List.mem_zipIdx_iff_getElem?]

/-- The positions of a tree are those at which there is a node. -/
theorem mem_positions_iff : position ∈ node.positions ↔ (node.at? position).isSome := by
  induction position generalizing node with
  | nil => simp [nil_mem_positions]
  | cons index position inductionHypothesis =>
    rw [cons_mem_positions, at?]
    cases node.children[index]? with
    | none => simp
    | some child => simpa using inductionHypothesis

/-- The positions of a tree ascend: what is below a node comes after it, and before what is below
the children to its right. -/
theorem pairwise_positions (node : Node) : node.positions.Pairwise (· < ·) := by
  induction node using ofChildren with | step node inductionHypothesis =>
  rw [positions_eq, List.pairwise_cons, List.pairwise_flatMap]
  refine ⟨fun position below => ?_, fun (child, index) member => ?_, ?_⟩
  · obtain ⟨_, _, below⟩ := List.mem_flatMap.mp below
    obtain ⟨_, _, rfl⟩ := List.mem_map.mp below
    exact List.nil_lt_cons ..
  · have own : child ∈ node.children := List.fst_mem_of_mem_zipIdx member
    exact List.pairwise_map.mpr
      ((inductionHypothesis child own).imp fun less => List.cons_lt_cons_self.mpr less)
  · have ascend : (node.children.zipIdx.map Prod.snd).Pairwise (· < ·) := by
      rw [List.zipIdx_map_snd]
      exact List.pairwise_lt_range'
    refine (List.pairwise_map.mp ascend).imp fun less _ left _ right => ?_
    obtain ⟨_, _, rfl⟩ := List.mem_map.mp left
    obtain ⟨_, _, rfl⟩ := List.mem_map.mp right
    exact List.cons_lt_cons_iff.mpr (.inl less)

/-- No position of a tree is listed twice. -/
theorem nodup_positions (node : Node) : node.positions.Nodup := by
  refine node.pairwise_positions.imp fun {first second} less same => ?_
  rw [same] at less
  exact List.lt_irrefl second less

/-- What stands at the positions of a tree, in their order, is its walk. -/
theorem map_at?_positions (node : Node) : node.positions.map node.at? = node.walk.map some := by
  induction node using ofChildren with | step node inductionHypothesis =>
  have below : ∀ entry ∈ node.children.zipIdx,
      (entry.1.positions.map (entry.2 :: ·)).map node.at? = entry.1.walk.map some := by
    intro (child, index) member
    have found : node.children[index]? = some child := List.mem_zipIdx_iff_getElem?.mp member
    rw [← inductionHypothesis child (List.mem_of_getElem? found), List.map_map]
    exact List.map_congr_left fun position _ => at?_cons found
  have unindexed : node.children.flatMap (fun child => child.walk.map some) =
      node.children.zipIdx.flatMap fun entry => entry.1.walk.map some := by
    rw [← List.flatMap_map Prod.fst (fun child : Node => child.walk.map some),
      List.zipIdx_map_fst]
  rw [positions_eq, walk_eq, List.map_cons, List.map_cons, at?_nil, walkAll, List.map_flatMap,
    List.map_flatMap, List.flatMap_congr below, unindexed]

end DrainLint.Hir.Node
