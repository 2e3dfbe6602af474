import DrainLint.Hir.Walk

/-! # Walks by recursion

The walk from a stack of pending nodes, as a recursion over the tree.

- `Value.nodes_ofList`, `Value.nodes_ofOption`, …: the nodes that fields hold;
- `Node.ofChildren`: induction from the children of a node to the node;
- `walk_eq`: the walk of a node is the node, then the walks of its children;
- `walkAll`: the walks of some nodes, one after the other;
- `mem_walk_trans`: what is below a node of a walk is in the walk.
-/

namespace DrainLint.Hir

/-- What goes through a list entry by entry maps it. -/
theorem eq_map_of_rec {α β : Type} {one : α → β} {all : List α → List β} (nil : all [] = [])
    (cons : ∀ a as, all (a :: as) = one a :: all as) (as : List α) : all as = as.map one := by
  induction as with
  | nil => exact nil
  | cons a as inductionHypothesis => rw [cons, inductionHypothesis, List.map_cons]

namespace Value

@[simp] theorem nodes_ofBlock (block : Block) : (ofBlock block).nodes = [.expr (.block block)] := by
  rw [ofBlock, nodes]

@[simp] theorem nodes_ofExpr (expr : Expr) : (ofExpr expr).nodes = [.expr expr] := by
  rw [ofExpr, nodes]

@[simp] theorem nodes_ofTy (ty : Ty) : (ofTy ty).nodes = [.ty ty] := by rw [ofTy, nodes]

@[simp] theorem nodes_ofPat (pat : Pat) : (ofPat pat).nodes = [.pat pat] := by rw [ofPat, nodes]

@[simp] theorem nodes_ofStmt (stmt : Stmt) : (ofStmt stmt).nodes = [.stmt stmt] := by
  rw [ofStmt, nodes]

@[simp] theorem nodes_ofItem (item : Item) : (ofItem item).nodes = [.item item] := by
  rw [ofItem, nodes]

@[simp] theorem nodes_ofArm (arm : Arm) : (ofArm arm).nodes = [.arm arm] := by rw [ofArm, nodes]

@[simp] theorem nodes_ofParam (param : Param) : (ofParam param).nodes = [.param param] := by
  rw [ofParam, nodes]

@[simp] theorem nodes_ofFieldDef (field : FieldDef) :
    (ofFieldDef field).nodes = [.fieldDef field] := by
  rw [ofFieldDef, nodes]

@[simp] theorem nodes_ofInit (init : FieldInit) : (ofInit init).nodes = [.expr init.value] := by
  simp [ofInit, nodes, nodesAll]

@[simp] theorem nodes_ofOp (op : BinaryOp) : (ofOp op).nodes = [] := by
  rw [ofOp, nodes] <;> simp

@[simp] theorem nodes_text (string : String) : (text string).nodes = [] := by
  rw [nodes] <;> simp

@[simp] theorem nodes_flag (isSet : Bool) : (flag isSet).nodes = [] := by
  rw [nodes] <;> simp

@[simp] theorem nodes_literal (value : Literal) : (literal value).nodes = [] := by
  rw [nodes] <;> simp

@[simp] theorem nodes_symbol (name : String) : (symbol name).nodes = [] := by
  rw [nodes] <;> simp

@[simp] theorem nodes_span (range : Span) : (Value.span range).nodes = [] := by
  rw [nodes] <;> simp

@[simp] theorem nodes_attr (mark : Attribute) : (attr mark).nodes = [] := by
  rw [nodes] <;> simp

theorem nodesAll_map {α : Type} (value : α → Value) (members : List α) :
    nodesAll (members.map value) = members.flatMap fun member => (value member).nodes := by
  induction members with
  | nil => rw [List.map_nil, nodesAll, List.flatMap_nil]
  | cons member members inductionHypothesis =>
    rw [List.map_cons, nodesAll, inductionHypothesis, List.flatMap_cons]

@[simp] theorem nodes_ofList {α : Type} (value : α → Value) (members : List α) :
    (ofList value members).nodes = members.flatMap fun member => (value member).nodes := by
  rw [ofList, nodes, nodesAll_map]

@[simp] theorem nodes_ofOption {α : Type} (value : α → Value) (member? : Option α) :
    (ofOption value member?).nodes = member?.toList.flatMap fun member => (value member).nodes := by
  cases member? with
  | none =>
    rw [ofOption, nodes] <;> simp
  | some member => simp [ofOption]

@[simp] theorem nodes_texts (names : List String) : (texts names).nodes = [] := by
  simp [texts]

@[simp] theorem nodes_attributes (attrs : List Attribute) : (attributes attrs).nodes = [] := by
  simp [attributes]

end Value

namespace Node

/-- The nodes in the fields, one field after the other. -/
theorem children_eq (node : Node) :
    node.children = node.fields.flatMap fun field => field.2.nodes := by
  rw [children, Value.nodesAll_map]

/-- What holds of a node whenever it holds of its children holds of every node. -/
theorem ofChildren {motive : Node → Prop}
    (step : ∀ node : Node, (∀ child ∈ node.children, motive child) → motive node) (node : Node) :
    motive node :=
  step node fun child _ => ofChildren step child
termination_by node.weight
decreasing_by exact weight_child_lt (by assumption)

/-- The walks of some nodes, one after the other. -/
def walkAll (nodes : List Node) : List Node := nodes.flatMap walk

@[simp] theorem walkAll_nil : walkAll [] = [] := rfl

@[simp] theorem walkAll_cons (node : Node) (nodes : List Node) :
    walkAll (node :: nodes) = node.walk ++ walkAll nodes := by
  simp [walkAll]

@[simp] theorem walkAll_append (first second : List Node) :
    walkAll (first ++ second) = walkAll first ++ walkAll second := by
  simp [walkAll]

/-- A node, then all below it, child by child. -/
def preorder (node : Node) : List Node :=
  node :: node.children.attach.flatMap fun ⟨child, _⟩ => preorder child
termination_by node.weight
decreasing_by exact weight_child_lt (by assumption)

theorem preorder_eq (node : Node) :
    node.preorder = node :: node.children.flatMap preorder := by
  rw [preorder]
  simp [List.flatMap]

/-- The stack is walked from its top, after what was found before. -/
theorem walkFrom_toList (found : Array Node) (pending : List Node) :
    (walkFrom found pending).toList = found.toList ++ pending.flatMap preorder := by
  fun_induction walkFrom found pending with
  | case1 found => simp
  | case2 found node pending inductionHypothesis =>
    rw [inductionHypothesis, List.flatMap_cons, preorder_eq]
    simp

theorem walk_eq_preorder (node : Node) : node.walk = node.preorder := by
  rw [walk, walkFrom_toList]
  simp

/-- The walk of a node is the node, then the walks of its children. -/
theorem walk_eq (node : Node) : node.walk = node :: walkAll node.children := by
  rw [walk_eq_preorder, preorder_eq, walkAll]
  congr 2
  funext child
  exact (walk_eq_preorder child).symm

/-- The walks of some nodes begin with the first of them, whose children take its place. -/
theorem walkAll_cons_eq (node : Node) (nodes : List Node) :
    walkAll (node :: nodes) = node :: walkAll (node.children ++ nodes) := by
  rw [walkAll_cons, walk_eq, walkAll_append, List.cons_append]

theorem mem_walk_self (node : Node) : node ∈ node.walk := by
  rw [walk_eq]
  exact List.mem_cons_self

theorem mem_walkAll_of_mem {node root : Node} {nodes : List Node} (member : root ∈ nodes)
    (below : node ∈ root.walk) : node ∈ walkAll nodes :=
  List.mem_flatMap.mpr ⟨root, member, below⟩

theorem mem_walk_of_child {node child below : Node} (member : child ∈ node.children)
    (inside : below ∈ child.walk) : below ∈ node.walk := by
  rw [walk_eq]
  exact List.mem_cons_of_mem node (mem_walkAll_of_mem member inside)

theorem mem_walk_trans {node middle below : Node} (upper : middle ∈ node.walk)
    (lower : below ∈ middle.walk) : below ∈ node.walk := by
  rw [walk_eq] at upper
  cases upper with
  | head => exact lower
  | tail _ member =>
    obtain ⟨child, childMember, inside⟩ := List.mem_flatMap.mp member
    exact mem_walk_of_child childMember (mem_walk_trans inside lower)
termination_by node.weight
decreasing_by exact weight_child_lt childMember

end Node
end DrainLint.Hir
