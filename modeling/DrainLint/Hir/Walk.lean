import DrainLint.Hir.Node

/-! # Walks

The nodes below a node, in the order of the fields that hold them.

- `Node.children`: the nodes in the fields of a node;
- `Node.walk`: a node and all below it, each before its children, from a stack of pending nodes;
- `Node.events`: the entering and the leaving of every node;
- `Crate.allItems`: the items of a crate and of its inline modules.
-/

namespace DrainLint.Hir

namespace Node

/-- The nodes in the fields of a node, in order. -/
def children (node : Node) : List Node := Value.nodesAll (node.fields.map Prod.snd)

noncomputable def totalWeight : List Node → Nat
  | [] => 0
  | node :: nodes => node.weight + totalWeight nodes

theorem totalWeight_cons (node : Node) (nodes : List Node) :
    totalWeight (node :: nodes) = node.weight + totalWeight nodes := rfl

theorem totalWeight_append (first second : List Node) :
    totalWeight (first ++ second) = totalWeight first + totalWeight second := by
  induction first with
  | nil => simp [totalWeight]
  | cons node nodes inductionHypothesis =>
    rw [List.cons_append, totalWeight_cons, totalWeight_cons, inductionHypothesis, Nat.add_assoc]

mutual

theorem totalWeight_nodes (value : Value) : totalWeight value.nodes = value.weight := by
  cases value with
  | list values => simpa [Value.nodes, Value.weight] using totalWeight_nodesAll values
  | _ => simp [Value.nodes, Value.weight, totalWeight]

theorem totalWeight_nodesAll (values : List Value) :
    totalWeight (Value.nodesAll values) = Value.weightAll values := by
  cases values with
  | nil => simp [Value.nodesAll, Value.weightAll, totalWeight]
  | cons value values =>
    simp [Value.nodesAll, Value.weightAll, totalWeight_append, totalWeight_nodes value,
      totalWeight_nodesAll values]

end

theorem totalWeight_children_lt (node : Node) : totalWeight node.children < node.weight := by
  simpa [children, totalWeight_nodesAll] using node.fields_weight_lt

theorem weight_le_totalWeight {node : Node} {nodes : List Node} (member : node ∈ nodes) :
    node.weight ≤ totalWeight nodes := by
  induction nodes with
  | nil => cases member
  | cons head tail inductionHypothesis =>
    rw [totalWeight_cons]
    cases member with
    | head => omega
    | tail _ member =>
      have := inductionHypothesis member
      omega

theorem weight_child_lt {node child : Node} (member : child ∈ node.children) :
    child.weight < node.weight :=
  Nat.lt_of_le_of_lt (weight_le_totalWeight member) node.totalWeight_children_lt

/-- The order by which recursion over fields ends: what the fields hold, then their number. -/
theorem lex_of_le {weight weight' size size' : Nat} (weights : weight ≤ weight')
    (sizes : size < size') :
    Prod.Lex (· < ·) (· < ·) (weight, size) (weight', size') := by
  rcases Nat.lt_or_eq_of_le weights with less | rfl
  · exact .left _ _ less
  · exact .right _ sizes

/-- The nodes of a walk from a stack of pending nodes, after those already found. -/
def walkFrom (found : Array Node) : List Node → Array Node
  | [] => found
  | node :: pending => walkFrom (found.push node) (node.children ++ pending)
termination_by pending => totalWeight pending
decreasing_by
  rw [totalWeight_append, totalWeight_cons]
  have := node.totalWeight_children_lt
  omega

/-- A node and all nodes below it, each before its children. -/
def walk (node : Node) : List Node := (walkFrom #[] [node]).toList

/-- What a visit to a tree comes across. -/
inductive Event where
  | enter (node : Node)
  | leave (node : Node)

/-- The events of a visit: a node is entered before its children and left after them. -/
def events (node : Node) : List Event :=
  .enter node :: (node.children.attach.flatMap fun ⟨child, _⟩ => events child) ++ [.leave node]
termination_by node.weight
decreasing_by exact weight_child_lt (by assumption)

end Node

namespace Item

/-- The items of an inline module; other items hold none in this sense. -/
def moduleItems : Item → List Item
  | .modDef _ _ items _ => items
  | _ => []

noncomputable def totalSize : List Item → Nat
  | [] => 0
  | item :: items => sizeOf item + totalSize items

theorem totalSize_cons (item : Item) (items : List Item) :
    totalSize (item :: items) = sizeOf item + totalSize items := rfl

theorem totalSize_append (first second : List Item) :
    totalSize (first ++ second) = totalSize first + totalSize second := by
  induction first with
  | nil => simp [totalSize]
  | cons item items inductionHypothesis =>
    rw [List.cons_append, totalSize_cons, totalSize_cons, inductionHypothesis, Nat.add_assoc]

theorem totalSize_reverse (items : List Item) : totalSize items.reverse = totalSize items := by
  induction items with
  | nil => rfl
  | cons item items inductionHypothesis =>
    rw [List.reverse_cons, totalSize_append, inductionHypothesis, totalSize_cons, totalSize_cons]
    simp only [totalSize]
    omega

theorem totalSize_le (items : List Item) : totalSize items ≤ sizeOf items := by
  induction items with
  | nil => simp [totalSize]
  | cons head tail inductionHypothesis =>
    simp only [totalSize, List.cons.sizeOf_spec]
    omega

theorem moduleItems_size_lt (item : Item) : totalSize item.moduleItems < sizeOf item := by
  cases item with
  | modDef origin name items attrs =>
    have := totalSize_le items
    simp only [moduleItems, Item.modDef.sizeOf_spec]
    omega
  | _ => simp +arith [moduleItems, totalSize]

/-- The items from a stack of pending items, with those of inline modules after their module. -/
def flattenFrom (found : Array Item) : List Item → Array Item
  | [] => found
  | item :: pending => flattenFrom (found.push item) (item.moduleItems ++ pending)
termination_by pending => totalSize pending
decreasing_by
  have := item.moduleItems_size_lt
  rw [totalSize_append, totalSize_cons]
  omega

end Item

namespace Crate

/-- All items of a crate, each module before the items in it. -/
def allItems (crate : Crate) : List Item := (Item.flattenFrom #[] crate.items).toList

/-- All nodes of a crate, each before its children. -/
def walk (crate : Crate) : List Node := (Node.crate crate).walk

end Crate
end DrainLint.Hir
