import DrainLint.Proofs.Tree.Walk
import Mathlib.Data.List.Basic

/-! # Visits and items

A visit to a tree and the listing of the items of a crate, by recursion: what a visit enters is the
order that puts a node first and what it leaves is the order that puts it last, and the items of a
crate come with those of an inline module behind their module.

- `Node.postorder`: all below a node, child by child, and then the node;
- `Node.Bracketed`: what is entered is left again, from the inside out;
- `Node.entered_events`, `Node.left_events`: the orders of a visit;
- `Item.preorder`: an item, then those of its module;
- `Crate.allItems_eq`: the items of a crate, in that order.
-/

namespace DrainLint.Hir

/-! ## Visits -/

namespace Node

/-- All below a node, child by child, then the node. -/
def postorder (node : Node) : List Node :=
  (node.children.attach.flatMap fun ⟨child, _⟩ => postorder child) ++ [node]
termination_by node.weight
decreasing_by exact weight_child_lt (by assumption)

theorem postorder_eq (node : Node) :
    node.postorder = node.children.flatMap postorder ++ [node] := by
  rw [postorder]
  simp [List.flatMap]

/-- The node that an event enters. -/
def Event.entered? : Event → Option Node
  | enter node => some node
  | leave _ => none

/-- The node that an event leaves. -/
def Event.left? : Event → Option Node
  | enter _ => none
  | leave node => some node

/-- Events in which every node that is entered is left, after all that was entered since. -/
inductive Bracketed : List Event → Prop where
  | nil : Bracketed []
  | visit (node : Node) {inner later : List Event} (inside : Bracketed inner)
    (behind : Bracketed later) : Bracketed (.enter node :: inner ++ .leave node :: later)

theorem Bracketed.append {first second : List Event} (before : Bracketed first)
    (after : Bracketed second) : Bracketed (first ++ second) := by
  induction before with
  | nil => exact after
  | visit node inside _ _ inductionHypothesis =>
    simpa using Bracketed.visit node inside inductionHypothesis

theorem Bracketed.flatMap {nodes : List Node} {visited : Node → List Event}
    (each : ∀ node ∈ nodes, Bracketed (visited node)) : Bracketed (nodes.flatMap visited) := by
  induction nodes with
  | nil => exact .nil
  | cons node nodes inductionHypothesis =>
    exact (each node List.mem_cons_self).append
      (inductionHypothesis fun other member => each other (List.mem_cons_of_mem _ member))

theorem events_eq (node : Node) :
    node.events = .enter node :: node.children.flatMap events ++ [.leave node] := by
  rw [events]
  simp [List.flatMap]

theorem bracketed_events (node : Node) : Bracketed node.events := by
  induction node using ofChildren with | step node inductionHypothesis =>
  rw [events_eq]
  exact .visit node (.flatMap inductionHypothesis) .nil

/-- A visit enters the nodes in the order of the walk. -/
theorem entered_events (node : Node) : node.events.filterMap Event.entered? = node.preorder := by
  induction node using ofChildren with | step node inductionHypothesis =>
  rw [events_eq, preorder_eq, List.filterMap_append, List.filterMap_cons, List.filterMap_flatMap,
    List.flatMap_congr inductionHypothesis]
  exact List.append_nil _

theorem left_events (node : Node) : node.events.filterMap Event.left? = node.postorder := by
  induction node using ofChildren with | step node inductionHypothesis =>
  rw [events_eq, postorder_eq, List.filterMap_append, List.filterMap_cons_none rfl,
    List.filterMap_flatMap, List.flatMap_congr inductionHypothesis]
  rfl

end Node

/-! ## Items -/

namespace Item

theorem sizeOf_lt_of_mem_moduleItems {item inner : Item} (member : inner ∈ item.moduleItems) :
    sizeOf inner < sizeOf item := by
  cases item with
  | modDef =>
    have := List.sizeOf_lt_of_mem member
    simp only [moduleItems, modDef.sizeOf_spec] at *
    omega
  | _ => cases member

/-- An item, then the items of the module that it is, each before those inside it. -/
def preorder (item : Item) : List Item :=
  item :: item.moduleItems.attach.flatMap fun ⟨inner, _⟩ => preorder inner
termination_by sizeOf item
decreasing_by exact sizeOf_lt_of_mem_moduleItems (by assumption)

theorem preorder_eq (item : Item) : item.preorder = item :: item.moduleItems.flatMap preorder := by
  rw [preorder]
  simp [List.flatMap]

/-- The stack is flattened from its top, after what was found before. -/
theorem flattenFrom_toList (found : Array Item) (pending : List Item) :
    (flattenFrom found pending).toList = found.toList ++ pending.flatMap preorder := by
  fun_induction flattenFrom found pending with
  | case1 found => simp
  | case2 found item pending inductionHypothesis =>
    rw [inductionHypothesis, List.flatMap_cons, preorder_eq]
    simp

end Item

/-- The items of a crate are its own, each with those of its module behind it. -/
theorem Crate.allItems_eq (crate : Crate) : crate.allItems = crate.items.flatMap Item.preorder := by
  rw [allItems, Item.flattenFrom_toList]
  rfl

end DrainLint.Hir
