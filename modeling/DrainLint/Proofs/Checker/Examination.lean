import DrainLint.Checker.DrainLoop
import DrainLint.Proofs.Tree.Positions
import DrainLint.Proofs.Tree.Traversal

/-! # What is examined

A checker that walks a crate comes to every loop of it, and to each of them once, because every
traversal is a recursion over the tree.

- `Hir.Crate.loopPositions`: where the `while` loops of a crate are;
- `Lint.examineAll_positions`: there is one verdict for each of them;
- `Checker.stats_drainLoop`: the checker counts them;
- `Checker.traversals_by_recursion`: this, with what the traversals yield.
-/

namespace DrainLint

namespace Hir

/-- Whether a node is a `while` loop. -/
def Node.isWhile : Node → Bool
  | .expr (.whileLoop ..) => true
  | _ => false

/-- The positions of a crate at which a `while` loop stands. -/
def Crate.loopPositions (crate : Crate) : List (List Nat) :=
  (Node.crate crate).positions.filter fun position =>
    ((Node.crate crate).at? position).any Node.isWhile

/-- The positions of the loops are those where one stands. -/
theorem Crate.mem_loopPositions {crate : Crate} {position : List Nat} :
    position ∈ crate.loopPositions ↔
      ∃ loop, (Node.crate crate).at? position = some loop ∧ loop.isWhile = true := by
  rw [loopPositions, List.mem_filter, Node.mem_positions_iff]
  cases (Node.crate crate).at? position <;> simp

end Hir

open Hir

namespace Lint

theorem isSome_examineLoop? (resolver : Resolver) (node : Node) :
    (examineLoop? resolver node).isSome = node.isWhile := by
  unfold examineLoop? Node.isWhile
  split <;> simp_all

/-- The verdicts of a crate are those on the nodes at the positions of its loops. -/
theorem examineAll_positions (resolver : Resolver) (crate : Crate) :
    (examineAll resolver crate).map some = crate.loopPositions.map fun position =>
      ((Node.crate crate).at? position).bind (examineLoop? resolver) := by
  have walked : examineAll resolver crate =
      ((Node.crate crate).positions.map (Node.crate crate).at?).filterMap
        fun node? => node?.bind (examineLoop? resolver) := by
    rw [Node.map_at?_positions, List.filterMap_map]
    rfl
  have atLoop (node? : Option Node) :
      (node?.bind (examineLoop? resolver)).isSome = node?.any Node.isWhile := by
    cases node? with
    | none => rfl
    | some node => exact isSome_examineLoop? resolver node
  rw [walked, List.filterMap_map, List.map_filterMap_some_eq_filter_map_isSome, List.filter_map,
    Crate.loopPositions]
  congr 1
  exact List.filter_congr fun position _ => atLoop _

theorem length_examineAll (resolver : Resolver) (crate : Crate) :
    (examineAll resolver crate).length = crate.loopPositions.length := by
  simpa using congrArg List.length (examineAll_positions resolver crate)

end Lint

namespace Checker

/-- A phase that counts nothing leaves the counts as they are, whether it is reached or not. -/
theorem stats_andThen {done next : Checking} (uncounted : next.stats = []) :
    (done.andThen next).stats = done.stats := by
  unfold Checking.andThen
  split
  · rfl
  · rw [uncounted, List.append_nil]

/-- The checker counts every `while` loop of a file once, if the types of the file are known. -/
theorem stats_drainLoop (context : Context) :
    (drainLoop.examine context).stats =
      if context.inference.fault?.isSome then []
      else [(DrainLoop.name ++ "_loops", context.crate.loopPositions.length)] := by
  have collected : (drainLoop.examine context).stats =
      (drainLoop.perform context .collect).stats := by
    have diagnosed : (drainLoop.perform context .diagnose).stats = [] := rfl
    have reported : (drainLoop.perform context .report).stats = [] := rfl
    exact (stats_andThen reported).trans (stats_andThen diagnosed)
  rw [collected]
  unfold perform
  cases context.inference.fault? with
  | some fault => rfl
  | none => simp [drainLoop, DrainLoop.work, Lint.length_examineAll]

/-- What the traversals of a tree, of a crate and of a checker yield, by recursion.

The walk of a node is its preorder, and it stands at the positions of the tree, which ascend and of
which none is left out.  A visit enters the same nodes and leaves them in postorder, each after all
that was entered since.  The items of a crate are in preorder, and so are its loops: at each of
their positions there is one verdict. -/
theorem traversals_by_recursion (node : Node) (context : Context) :
    (node.walk = node.preorder ∧ node.walk.map some = node.positions.map node.at? ∧
      node.positions.Pairwise (· < ·) ∧
      ∀ position, position ∈ node.positions ↔ (node.at? position).isSome) ∧
    (node.events.filterMap Node.Event.entered? = node.walk ∧
      node.events.filterMap Node.Event.left? = node.postorder ∧ Node.Bracketed node.events) ∧
    context.crate.allItems = context.crate.items.flatMap Item.preorder ∧
    (∀ resolver, (Lint.examineAll resolver context.crate).map some =
      context.crate.loopPositions.map fun position =>
        ((Node.crate context.crate).at? position).bind (Lint.examineLoop? resolver)) ∧
    (∀ position, position ∈ context.crate.loopPositions ↔
      ∃ loop, (Node.crate context.crate).at? position = some loop ∧ loop.isWhile = true) ∧
    context.crate.loopPositions.Nodup ∧
    (drainLoop.examine context).stats =
      if context.inference.fault?.isSome then []
      else [(DrainLoop.name ++ "_loops", context.crate.loopPositions.length)] := by
  refine ⟨⟨node.walk_eq_preorder, node.map_at?_positions.symm, node.pairwise_positions,
    fun _ => Node.mem_positions_iff⟩, ⟨?_, node.left_events, node.bracketed_events⟩,
    context.crate.allItems_eq, (Lint.examineAll_positions · _),
    fun _ => Crate.mem_loopPositions, ?_, stats_drainLoop context⟩
  · rw [node.entered_events, node.walk_eq_preorder]
  · exact (Node.nodup_positions _).filter _

end Checker
end DrainLint
