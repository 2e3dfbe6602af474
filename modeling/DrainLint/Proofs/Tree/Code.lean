import DrainLint.Proofs.Tree.Walk
import Mathlib.Data.List.Basic
import Mathlib.Data.List.Flatten
import Mathlib.Data.List.Nodup
import Mathlib.Data.List.Pairwise

/-! # Code

The part of a tree that is executed, or holds what is: everything but types, patterns, parameters
and the fields of structs.

- `code`: the walk of a node that enters code only;
- `InBody`: a node of the body of a function or of the value of a constant;
- `inBody_of_mem_code`: every expression in the code of a crate is in such a body;
- `mem_code_split`: what stands above code is code, and the code stands in it.
-/

namespace DrainLint.Hir

open List

namespace Node

/-- Whether a node is code: not a type, a pattern, a parameter or a field of a struct. -/
def isCode : Node → Bool
  | ty _ | pat _ | param _ | fieldDef _ => false
  | expr _ | stmt _ | item _ | arm _ | crate _ => true

def isExpr : Node → Bool
  | expr _ => true
  | _ => false

/-- The children that are code. -/
def codeChildren (node : Node) : List Node := node.children.filter isCode

theorem mem_children_of_code {node child : Node} (member : child ∈ node.codeChildren) :
    child ∈ node.children := (List.mem_filter.mp member).1

/-- A node, then the code below it, child by child. -/
def code (node : Node) : List Node :=
  node :: node.codeChildren.attach.flatMap fun ⟨child, _⟩ => code child
termination_by node.weight
decreasing_by exact weight_child_lt (mem_children_of_code (by assumption))

/-- The code of some nodes, one after the other. -/
def codeAll (nodes : List Node) : List Node := nodes.flatMap code

theorem code_eq (node : Node) : node.code = node :: codeAll node.codeChildren := by
  rw [code]
  simp [List.flatMap, codeAll]

@[simp] theorem codeAll_nil : codeAll [] = [] := rfl

@[simp] theorem codeAll_cons (node : Node) (nodes : List Node) :
    codeAll (node :: nodes) = node.code ++ codeAll nodes := by
  simp [codeAll]

@[simp] theorem codeAll_append (first second : List Node) :
    codeAll (first ++ second) = codeAll first ++ codeAll second := by
  simp [codeAll]

theorem mem_code_self (node : Node) : node ∈ node.code := by
  rw [code_eq]
  exact List.mem_cons_self

theorem mem_codeAll_of_mem {node root : Node} {nodes : List Node} (member : root ∈ nodes)
    (below : node ∈ root.code) : node ∈ codeAll nodes :=
  List.mem_flatMap.mpr ⟨root, member, below⟩

theorem mem_code_of_child {node child below : Node} (member : child ∈ node.codeChildren)
    (inside : below ∈ child.code) : below ∈ node.code := by
  rw [code_eq]
  exact List.mem_cons_of_mem node (mem_codeAll_of_mem member inside)

theorem mem_code_child {node child : Node} (isChild : child ∈ node.children)
    (coded : child.isCode = true) : child ∈ node.code :=
  mem_code_of_child (List.mem_filter.mpr ⟨isChild, coded⟩) (mem_code_self child)

theorem mem_code_trans {node middle below : Node} (upper : middle ∈ node.code)
    (lower : below ∈ middle.code) : below ∈ node.code := by
  rw [code_eq] at upper
  cases upper with
  | head => exact lower
  | tail _ member =>
    obtain ⟨child, isChild, inside⟩ := List.mem_flatMap.mp member
    exact mem_code_of_child isChild (mem_code_trans inside lower)
termination_by node.weight
decreasing_by exact weight_child_lt (mem_children_of_code isChild)

theorem code_sublist (node : Node) : node.code <+ node.walk := by
  rw [code_eq, walk_eq, codeAll, walkAll]
  apply Sublist.cons_cons
  have each : ∀ nodes : List Node, (∀ child ∈ nodes, child ∈ node.children) →
      nodes.flatMap code <+ nodes.flatMap walk := by
    intro nodes
    induction nodes with
    | nil => exact fun _ => Sublist.slnil
    | cons child nodes inductionHypothesis =>
      intro children
      rw [List.flatMap_cons, List.flatMap_cons]
      have isChild : child ∈ node.children := children child List.mem_cons_self
      exact (code_sublist child).append
        (inductionHypothesis fun other member => children other (List.mem_cons_of_mem _ member))
  -- Children that are no code are in the walk only.
  have fewer : (node.codeChildren.flatMap walk) <+ node.children.flatMap walk :=
    Sublist.flatMap filter_sublist walk
  exact (each node.codeChildren fun child member => mem_children_of_code member).trans fewer
termination_by node.weight
decreasing_by exact weight_child_lt isChild

theorem walk_sublist_of_mem {node : Node} {nodes : List Node} (member : node ∈ nodes) :
    node.walk <+ walkAll nodes :=
  sublist_flatten_of_mem (List.mem_map_of_mem member)

/-- Where no number is given twice, the walks of two nodes have nothing in common. -/
theorem eq_of_mem_walks {nodes : List Node} (distinct : ((walkAll nodes).map id).Nodup)
    {first second node : Node} (isFirst : first ∈ nodes) (isSecond : second ∈ nodes)
    (inFirst : node ∈ first.walk) (inSecond : node ∈ second.walk) : first = second := by
  have separate := (List.nodup_flatMap.mp (distinct.of_map id)).2
  have : Std.Symm (Function.onFun Disjoint walk) := ⟨fun _ _ disjoint => List.disjoint_symm disjoint⟩
  apply Classical.byContradiction
  intro different
  exact separate.forall isFirst isSecond different inFirst inSecond

/-- What stands above code is code, and what is code stands in the code of all that is above it. -/
theorem mem_code_split {root node below : Node} (distinct : (root.walk.map id).Nodup)
    (upper : node ∈ root.walk) (lower : below ∈ node.walk) (isCode : below ∈ root.code) :
    node ∈ root.code ∧ below ∈ node.code := by
  rw [walk_eq] at upper
  cases upper with
  | head => exact ⟨mem_code_self root, isCode⟩
  | tail _ member =>
    obtain ⟨child, isChild, inside⟩ := List.mem_flatMap.mp member
    have belowInside := mem_walk_trans inside lower
    rw [walk_eq, List.map_cons, List.nodup_cons] at distinct
    rw [code_eq] at isCode
    cases isCode with
    | head =>
      -- The root would stand below itself.
      exact absurd (List.mem_map_of_mem (mem_walkAll_of_mem isChild belowInside)) distinct.1
    | tail _ coded =>
      obtain ⟨child', isChild', inCode⟩ := List.mem_flatMap.mp coded
      -- Both ways down to the node lead through the same child.
      have same := eq_of_mem_walks distinct.2 isChild (mem_children_of_code isChild')
        belowInside ((code_sublist child').subset inCode)
      subst same
      have parts := mem_code_split
        (distinct.2.sublist ((walk_sublist_of_mem isChild).map id)) inside lower inCode
      exact ⟨mem_code_of_child isChild' parts.1, parts.2⟩
termination_by root.weight
decreasing_by exact weight_child_lt isChild

theorem mem_code_of_below {root node below : Node} (distinct : (root.walk.map id).Nodup)
    (upper : node ∈ root.walk) (lower : below ∈ node.walk) (isCode : below ∈ root.code) :
    node ∈ root.code := (mem_code_split distinct upper lower isCode).1

/-! ## Bodies -/

attribute [local simp] codeChildren children_eq fields isCode List.filter_map List.filter_cons
  Function.comp_def

/-- The body of a function or the value of a constant. -/
def body? : Node → Option Expr
  | item (.fnDef _ _ _ _ _ (some body) _) => some (.block body)
  | item (.constItem _ _ _ (some value) _) => some value
  | _ => none

/-- A node of the body of a function or of the value of a constant, wherever that is declared in the
code below a node. -/
def InBody (root node : Node) : Prop :=
  ∃ owner ∈ root.code, ∃ body, owner.body? = some body ∧ node ∈ (Node.expr body).code

theorem InBody.mem_code {root node : Node} (inBody : InBody root node) : node ∈ root.code := by
  obtain ⟨owner, inRoot, body, isBody, inBody⟩ := inBody
  apply mem_code_trans inRoot
  unfold body? at isBody
  split at isBody
  · cases isBody
    apply mem_code_of_child _ inBody
    simp [← List.map_eq_flatMap]
  · cases isBody
    apply mem_code_of_child _ inBody
    simp
  · cases isBody

theorem InBody.of_child {root child node : Node} (isChild : child ∈ root.codeChildren)
    (inBody : InBody child node) : InBody root node := by
  obtain ⟨owner, inChild, rest⟩ := inBody
  exact ⟨owner, mem_code_of_child isChild inChild, rest⟩

/-- The code in an item is its body, or other items. -/
theorem item_codeChildren {declared : Item} {child : Node}
    (isChild : child ∈ (item declared).codeChildren) :
    (∃ body, child = expr body ∧ (item declared).body? = some body) ∨ ∃ inner, child = item inner := by
  cases declared with
  | fnDef origin name generics params ret body attrs =>
    cases body <;> simp_all [← List.map_eq_flatMap, body?]
  | constItem origin name ty value attrs =>
    cases value <;> simp_all [body?]
  | implBlock | traitDef | modDef =>
    simp [← List.map_eq_flatMap] at isChild
    obtain ⟨inner, _, rfl⟩ := isChild
    exact .inr ⟨inner, rfl⟩
  | _ => simp [← List.map_eq_flatMap] at isChild

theorem inBody_of_mem_item {declared : Item} {value : Expr}
    (member : expr value ∈ (item declared).code) : InBody (item declared) (expr value) := by
  rw [code_eq] at member
  cases member with
  | tail _ member =>
    obtain ⟨child, isChild, inside⟩ := List.mem_flatMap.mp member
    rcases item_codeChildren isChild with ⟨body, rfl, isBody⟩ | ⟨inner, rfl⟩
    · exact ⟨_, mem_code_self _, body, isBody, inside⟩
    · exact .of_child isChild (inBody_of_mem_item inside)
termination_by sizeOf declared
decreasing_by exact weight_child_lt (mem_children_of_code isChild)

theorem inBody_of_mem_code {root : Crate} {value : Expr}
    (member : expr value ∈ (crate root).code) : InBody (crate root) (expr value) := by
  rw [code_eq] at member
  cases member with
  | tail _ member =>
    obtain ⟨child, isChild, inside⟩ := List.mem_flatMap.mp member
    have isItem : ∃ inner, child = item inner := by
      simp [← List.map_eq_flatMap] at isChild
      obtain ⟨inner, _, rfl⟩ := isChild
      exact ⟨inner, rfl⟩
    obtain ⟨inner, rfl⟩ := isItem
    exact .of_child isChild (inBody_of_mem_item inside)

end Node
end DrainLint.Hir
