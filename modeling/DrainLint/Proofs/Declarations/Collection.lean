import DrainLint.Proofs.Tree.Walk
import DrainLint.Typing.Declarations
import Mathlib.Data.List.Nodup
import Mathlib.Data.List.Pairwise
import Mathlib.Data.List.Perm.Basic

/-! # What is declared

The items of a crate are taken from a stack that grows while it is worked off.  Whatever the order,
they are the items at the root and in blocks with those below them in modules, each of them once.

- `Item.declared`: an item with those below it in modules;
- `Node.declared`: the declared items at a node and below it, by recursion over the tree;
- `Declared`: where a declared item sits;
- `declaredItems_perm`: the declared items of a crate are those of its tree;
- `mem_declaredItems_iff`, `declaredItems_nodup`, `not_declared_of_member`: which items are declared,
  that each of them is declared once, and that members of implementations and traits are not;
- `ofCrate_eq`: what is kept of the items, kind by kind.
-/

namespace DrainLint.Hir

open List

/-! ## Nodes and their parents -/

namespace Node

/-- A walk is its root with the children of all that is walked. -/
theorem walk_perm_children (node : Node) : node.walk ~ node :: node.walk.flatMap children := by
  have below : ∀ nodes : List Node, (∀ child ∈ nodes, child ∈ node.children) →
      walkAll nodes ~ nodes ++ (walkAll nodes).flatMap children := by
    intro nodes
    induction nodes with
    | nil => exact fun _ => .nil
    | cons child nodes inductionHypothesis =>
      intro isChild
      have first := walk_perm_children child
      have rest := inductionHypothesis fun other member => isChild other (mem_cons_of_mem _ member)
      rw [walkAll_cons, flatMap_append, cons_append]
      calc child.walk ++ walkAll nodes
          ~ (child :: child.walk.flatMap children) ++
              (nodes ++ (walkAll nodes).flatMap children) := first.append rest
        _ ~ child :: (nodes ++ (child.walk.flatMap children ++
              (walkAll nodes).flatMap children)) := by
            rw [cons_append]
            exact (perm_append_comm_assoc _ _ _).cons child
  rw [walk_eq, flatMap_cons]
  exact (below node.children fun _ member => member).cons node
termination_by node.weight
decreasing_by exact weight_child_lt (isChild child mem_cons_self)

/-- Where no number is given twice, a node has one parent. -/
theorem parent_unique {root child first second : Node} (distinct : (root.walk.map id).Nodup)
    (isFirst : first ∈ root.walk) (isSecond : second ∈ root.walk)
    (ofFirst : child ∈ first.children) (ofSecond : child ∈ second.children) : first = second := by
  have unique : (root.walk.flatMap children).Nodup :=
    (nodup_cons.mp (root.walk_perm_children.nodup_iff.mp (distinct.of_map id))).2
  have separate := (nodup_flatMap.mp unique).2
  by_contra different
  have : Std.Symm (Function.onFun Disjoint children) := ⟨fun _ _ apart => disjoint_symm apart⟩
  exact separate.forall isFirst isSecond different ofFirst ofSecond

end Node

/-! ## Items and modules -/

namespace Item

theorem sizeOf_moduleItem_lt {item inner : Item} (member : inner ∈ item.moduleItems) :
    sizeOf inner < sizeOf item := by
  have listed : sizeOf inner ≤ totalSize item.moduleItems := by
    obtain ⟨before, after, same⟩ := append_of_mem member
    rw [same, totalSize_append, totalSize_cons]
    omega
  exact Nat.lt_of_le_of_lt listed item.moduleItems_size_lt

/-- An item with those below it in modules, a module before the items in it, the last one first. -/
def declared (item : Item) : List Item :=
  item :: item.moduleItems.reverse.attach.flatMap fun ⟨inner, _⟩ => declared inner
termination_by sizeOf item
decreasing_by exact sizeOf_moduleItem_lt (mem_reverse.mp (by assumption))

theorem declared_eq (item : Item) :
    item.declared = item :: item.moduleItems.reverse.flatMap declared := by
  rw [declared]
  simp [List.flatMap]

theorem mem_declared_self (item : Item) : item ∈ item.declared := by
  rw [declared_eq]
  exact mem_cons_self

/-- What is below an item in modules passes through the modules between. -/
theorem mem_declared_trans {outer middle inner : Item} (upper : middle ∈ outer.declared)
    (lower : inner ∈ middle.declared) : inner ∈ outer.declared := by
  rw [declared_eq] at upper
  rcases mem_cons.mp upper with rfl | upper
  · exact lower
  · obtain ⟨child, member, upper⟩ := mem_flatMap.mp upper
    rw [declared_eq]
    exact mem_cons_of_mem _ (mem_flatMap.mpr ⟨child, member, mem_declared_trans upper lower⟩)
termination_by sizeOf outer
decreasing_by exact sizeOf_moduleItem_lt (mem_reverse.mp member)

end Item

/-! ## Declared items by recursion over the tree -/

namespace Node

/-- The item that a statement declares. -/
def stmtItem? : Node → Option Item
  | stmt (.item _ own) => some own
  | _ => none

/-- Whether an item right below a node is declared: it is in a statement, and at the root of a crate
and in a module if these are. -/
def declares (isDeclared : Bool) : Node → Bool
  | stmt (.item ..) => true
  | crate _ | item (.modDef ..) => isDeclared
  | _ => false

/-- The item that a node is, if it is declared. -/
def ownItem (isDeclared : Bool) : Node → List Item
  | item own => if isDeclared then [own] else []
  | _ => []

/-- The declared items at a node and below it. -/
def declared (isDeclared : Bool) (node : Node) : List Item :=
  node.ownItem isDeclared ++
    node.children.attach.flatMap fun ⟨child, _⟩ => declared (node.declares isDeclared) child
termination_by node.weight
decreasing_by exact weight_child_lt (by assumption)

theorem declared_eq (isDeclared : Bool) (node : Node) :
    node.declared isDeclared = node.ownItem isDeclared ++
      node.children.flatMap (declared (node.declares isDeclared)) := by
  rw [declared]
  simp [List.flatMap]

/-- Each declared item is a node of the walk, and no node counts twice. -/
theorem declared_sublist (isDeclared : Bool) (node : Node) :
    (node.declared isDeclared).map item <+ node.walk := by
  have own : (node.ownItem isDeclared).map item <+ [node] := by
    unfold ownItem
    split
    · split
      · exact Sublist.refl _
      · exact nil_sublist _
    · exact nil_sublist _
  have below : ∀ nodes : List Node, (∀ child ∈ nodes, child ∈ node.children) →
      (nodes.flatMap (declared (node.declares isDeclared))).map item <+ walkAll nodes := by
    intro nodes
    induction nodes with
    | nil => exact fun _ => Sublist.slnil
    | cons child nodes inductionHypothesis =>
      intro isChild
      rw [flatMap_cons, map_append, walkAll_cons]
      exact (declared_sublist _ child).append
        (inductionHypothesis fun other member => isChild other (mem_cons_of_mem _ member))
  rw [declared_eq, map_append, walk_eq, ← singleton_append]
  exact own.append (below node.children fun _ member => member)
termination_by node.weight
decreasing_by exact weight_child_lt (isChild child mem_cons_self)

/-- The items of a declared node that are reached without a block. -/
def rootItems (isDeclared : Bool) : Node → List Item
  | crate whole => if isDeclared then whole.items.flatMap Item.declared else []
  | item own => if isDeclared then own.declared else []
  | _ => []

theorem rootItems_false (nodes : List Node) : nodes.flatMap (rootItems false) = [] := by
  apply flatMap_eq_nil_iff.mpr
  intro node _
  cases node <;> rfl

theorem rootItems_items (isDeclared : Bool) (items : List Item) :
    (items.map item).flatMap (rootItems isDeclared) =
      if isDeclared then items.flatMap Item.declared else [] := by
  cases isDeclared with
  | true => rw [flatMap_map]; rfl
  | false => exact rootItems_false _

/-- What is reached from a node without a block is reached from its children, except for the item of
a statement. -/
theorem rootItems_step (isDeclared : Bool) (node : Node) :
    node.ownItem isDeclared ++ node.children.flatMap (rootItems (node.declares isDeclared)) ~
      node.rootItems isDeclared ++ node.stmtItem?.toList.flatMap Item.declared := by
  unfold declares
  split
  · simp [children_eq, fields, ownItem, rootItems, stmtItem?]
  · rename_i whole
    simp [children_eq, fields, ownItem, rootItems, stmtItem?, ← map_eq_flatMap, rootItems_items]
  · rename_i origin name items attrs
    have children : (item (.modDef origin name items attrs)).children = items.map item := by
      simp [children_eq, fields, ← map_eq_flatMap]
    cases isDeclared with
    | true =>
      rw [children, rootItems_items]
      simp only [ownItem, rootItems, stmtItem?, if_true, Option.toList_none, flatMap_nil, append_nil]
      rw [Item.declared_eq]
      exact ((reverse_perm items).symm.flatMap_right Item.declared).cons _
    | false => simp [children, rootItems_false, ownItem, rootItems, stmtItem?]
  · rename_i notItem notCrate notModule
    rw [rootItems_false, append_nil]
    cases node with
    | crate whole => exact (notCrate whole rfl).elim
    | stmt stmt =>
      cases stmt with
      | item origin own => exact (notItem origin own rfl).elim
      | _ => exact .nil
    | item own =>
      have alone : own.declared = [own] := by
        rw [Item.declared_eq]
        cases own with
        | modDef origin name items attrs => exact (notModule origin name items attrs rfl).elim
        | _ => rfl
      simp [ownItem, rootItems, stmtItem?, alone]
    | _ => exact .nil

/-- The declared items at a node are those reached without a block and those below a statement. -/
theorem declared_perm (isDeclared : Bool) (node : Node) : node.declared isDeclared ~
    node.rootItems isDeclared ++ (node.walk.filterMap stmtItem?).flatMap Item.declared := by
  have below : ∀ nodes : List Node, (∀ child ∈ nodes, child ∈ node.children) →
      nodes.flatMap (declared (node.declares isDeclared)) ~
        nodes.flatMap (rootItems (node.declares isDeclared)) ++
          ((walkAll nodes).filterMap stmtItem?).flatMap Item.declared := by
    intro nodes
    induction nodes with
    | nil => exact fun _ => .nil
    | cons child nodes inductionHypothesis =>
      intro isChild
      have first := declared_perm (node.declares isDeclared) child
      have rest := inductionHypothesis fun other member => isChild other (mem_cons_of_mem _ member)
      rw [flatMap_cons, flatMap_cons, walkAll_cons, filterMap_append, flatMap_append]
      refine (first.append rest).trans ?_
      rw [append_assoc, append_assoc]
      exact (perm_append_comm_assoc _ _ _).append_left _
  have step := rootItems_step isDeclared node
  rw [declared_eq, walk_eq, ← singleton_append (x := node), filterMap_append, flatMap_append]
  calc node.ownItem isDeclared ++ node.children.flatMap (declared (node.declares isDeclared))
      ~ node.ownItem isDeclared ++
          (node.children.flatMap (rootItems (node.declares isDeclared)) ++
            ((walkAll node.children).filterMap stmtItem?).flatMap Item.declared) :=
        (below node.children fun _ member => member).append_left _
    _ = (node.ownItem isDeclared ++
            node.children.flatMap (rootItems (node.declares isDeclared))) ++
          ((walkAll node.children).filterMap stmtItem?).flatMap Item.declared :=
        (append_assoc _ _ _).symm
    _ ~ (node.rootItems isDeclared ++ node.stmtItem?.toList.flatMap Item.declared) ++
          ((walkAll node.children).filterMap stmtItem?).flatMap Item.declared :=
        step.append_right _
    _ = node.rootItems isDeclared ++ ([node].filterMap stmtItem?).flatMap Item.declared ++
          ((walkAll node.children).filterMap stmtItem?).flatMap Item.declared := by
        cases found : node.stmtItem? <;> simp [found]
    _ = node.rootItems isDeclared ++ (([node].filterMap stmtItem?).flatMap Item.declared ++
          ((walkAll node.children).filterMap stmtItem?).flatMap Item.declared) :=
        append_assoc _ _ _
termination_by node.weight
decreasing_by exact weight_child_lt (isChild child mem_cons_self)

end Node
end DrainLint.Hir

namespace DrainLint.Typing

open Hir List

namespace Declarations

variable {crate : Crate} {item : Item}

/-! ## The stack of pending items -/

/-- The stack is worked off from its top, after what was found before. -/
theorem declaredFrom_toList (found : Array Item) (pending : List Item) :
    (declaredFrom found pending).toList = found.toList ++ pending.flatMap Item.declared := by
  fun_induction declaredFrom found pending with
  | case1 found => simp
  | case2 found item pending inductionHypothesis =>
    rw [inductionHypothesis, flatMap_cons, Item.declared_eq, flatMap_append]
    simp

theorem declaredItems_eq (crate : Crate) :
    declaredItems crate = (crate.items ++ blockItems crate).reverse.flatMap Item.declared := by
  rw [declaredItems, declaredFrom_toList]
  rfl

theorem blockItems_eq (crate : Crate) : blockItems crate = crate.walk.filterMap Node.stmtItem? := by
  unfold blockItems Node.stmtItem?
  rfl

/-- The declared items of a crate are those of its tree. -/
theorem declaredItems_perm (crate : Crate) : declaredItems crate ~ (Node.crate crate).declared true := by
  refine .trans ?_ (Node.declared_perm true (.crate crate)).symm
  rw [declaredItems_eq, blockItems_eq]
  refine ((reverse_perm _).flatMap_right Item.declared).trans ?_
  rw [flatMap_append]
  rfl

/-! ## Which items are declared -/

/-- Where a declared item sits: at the root of the crate, in a declared module, or in a block as a
statement. -/
inductive Declared (crate : Crate) : Item → Prop
  | root {item : Item} (member : item ∈ crate.items) : Declared crate item
  | inModule {origin : Origin} {name : String} {items : List Item} {attrs : List Attribute}
      {item : Item} (outer : Declared crate (.modDef origin name items attrs))
      (member : item ∈ items) : Declared crate item
  | inBlock {origin : Origin} {item : Item} (stands : Node.stmt (.item origin item) ∈ crate.walk) :
      Declared crate item

theorem Declared.ofModule {outer inner : Item} (declared : Declared crate outer)
    (member : inner ∈ outer.moduleItems) : Declared crate inner := by
  cases outer with
  | modDef origin name items attrs => exact .inModule declared member
  | _ => cases member

/-- What is below a declared item in modules is declared. -/
theorem Declared.ofDeclared {outer inner : Item} (declared : Declared crate outer)
    (below : inner ∈ outer.declared) : Declared crate inner := by
  rw [Item.declared_eq] at below
  rcases mem_cons.mp below with rfl | below
  · exact declared
  · obtain ⟨middle, member, below⟩ := mem_flatMap.mp below
    exact (declared.ofModule (mem_reverse.mp member)).ofDeclared below
termination_by sizeOf outer
decreasing_by exact Item.sizeOf_moduleItem_lt (mem_reverse.mp (by assumption))

/-- The items that are taken up are those that sit at the root, in a declared module or in a
block. -/
theorem mem_declaredItems_iff : item ∈ declaredItems crate ↔ Declared crate item := by
  rw [declaredItems_eq]
  constructor
  · intro listed
    obtain ⟨outer, pending, below⟩ := mem_flatMap.mp listed
    refine Declared.ofDeclared ?_ below
    rcases mem_append.mp (mem_reverse.mp pending) with member | member
    · exact .root member
    · rw [blockItems_eq] at member
      obtain ⟨node, walked, stands⟩ := mem_filterMap.mp member
      unfold Node.stmtItem? at stands
      split at stands
      · cases stands
        exact .inBlock walked
      · cases stands
  · intro declared
    induction declared with
    | root member =>
      exact mem_flatMap.mpr ⟨_, mem_reverse.mpr (mem_append_left _ member),
        Item.mem_declared_self _⟩
    | inModule outer member inductionHypothesis =>
      obtain ⟨root, pending, below⟩ := mem_flatMap.mp inductionHypothesis
      refine mem_flatMap.mpr ⟨root, pending, Item.mem_declared_trans below ?_⟩
      rw [Item.declared_eq]
      exact mem_cons_of_mem _ (mem_flatMap.mpr ⟨_, mem_reverse.mpr member,
        Item.mem_declared_self _⟩)
    | inBlock stands =>
      refine mem_flatMap.mpr ⟨_, mem_reverse.mpr (mem_append_right _ ?_), Item.mem_declared_self _⟩
      rw [blockItems_eq]
      exact mem_filterMap.mpr ⟨_, stands, rfl⟩

/-- Each item is taken up once. -/
theorem declaredItems_nodup (distinct : (crate.walk.map Node.id).Nodup) :
    ((declaredItems crate).map fun item => item.origin.id).Nodup := by
  have nodes : (((Node.crate crate).declared true).map Node.item).map Node.id <+
      crate.walk.map Node.id := (Node.declared_sublist true (.crate crate)).map Node.id
  rw [map_map] at nodes
  exact ((declaredItems_perm crate).map _).nodup_iff.mpr (distinct.sublist nodes)

/-- The node in which a declared item sits. -/
theorem Declared.parent (declared : Declared crate item) :
    ∃ parent ∈ crate.walk, Node.item item ∈ parent.children ∧ parent.declares true = true := by
  induction declared with
  | root member =>
    refine ⟨.crate crate, Node.mem_walk_self _, ?_, rfl⟩
    simp [Node.children_eq, Node.fields, member]
  | inModule outer member inductionHypothesis =>
    obtain ⟨parent, walked, isChild, _⟩ := inductionHypothesis
    refine ⟨_, Node.mem_walk_trans walked (Node.mem_walk_of_child isChild (Node.mem_walk_self _)),
      ?_, rfl⟩
    simp [Node.children_eq, Node.fields, member]
  | inBlock stands => exact ⟨_, stands, by simp [Node.children_eq, Node.fields], rfl⟩

/-- The items that stand in an implementation or a trait. -/
def members : Item → List Item
  | .implBlock _ _ _ _ items _ | .traitDef _ _ _ items _ => items
  | _ => []

/-- What stands in an implementation or a trait is not taken up. -/
theorem not_declared_of_member (distinct : (crate.walk.map Node.id).Nodup) {owner : Item}
    (walked : Node.item owner ∈ crate.walk) (member : item ∈ members owner) :
    item ∉ declaredItems crate := by
  intro listed
  obtain ⟨parent, walked', isChild, declares⟩ := (mem_declaredItems_iff.mp listed).parent
  have ofOwner : Node.item item ∈ (Node.item owner).children := by
    cases owner with
    | implBlock origin generics selfTy traitRef items attrs =>
      have inside : item ∈ items := member
      simp [Node.children_eq, Node.fields, inside]
    | traitDef origin name generics items attrs =>
      have inside : item ∈ items := member
      simp [Node.children_eq, Node.fields, inside]
    | _ => cases member
  have same : parent = .item owner := Node.parent_unique distinct walked' walked isChild ofOwner
  subst same
  cases owner with
  | modDef origin name items attrs => cases member
  | _ => cases declares

/-! ## The items by kind -/

def structOf? : Item → Option (String × StructInfo)
  | .structDef origin name generics fields _ =>
    some (name, ⟨origin.id, generics, fields.map StructInfo.field⟩)
  | _ => none

def enumOf? : Item → Option String
  | .enumDef _ name _ => some name
  | _ => none

def traitOf? : Item → Option (String × Nat)
  | .traitDef origin name _ _ _ => some (name, origin.id)
  | _ => none

def typeAliasOf? : Item → Option (String × AliasInfo)
  | .typeAlias origin name generics ty _ => some (name, ⟨origin.id, generics, ty⟩)
  | _ => none

def importOf? : Item → Option (String × Path)
  | .useDecl _ path newName glob _ =>
    if isNamedImport (localName path newName) glob then some (localName path newName, path) else none
  | _ => none

def functionOf? : Item → Option (String × FnInfo)
  | .fnDef origin name generics _ ret _ _ => some (name, ⟨origin.id, name, generics, ret⟩)
  | _ => none

def constantOf? : Item → Option (String × ConstInfo)
  | .constItem origin name ty _ _ => some (name, ⟨origin.id, ty⟩)
  | _ => none

def implOf? : Item → Option ImplInfo
  | .implBlock origin generics selfTy traitRef items _ =>
    some ⟨origin.id, origin.span, generics, selfTy, traitRef, items.filterMap FnInfo.ofItem?⟩
  | _ => none

theorem add_eq (decls : Declarations) (item : Item) : decls.add item =
    { structs := (structOf? item).toList ++ decls.structs
      enums := (enumOf? item).toList ++ decls.enums
      traits := (traitOf? item).toList ++ decls.traits
      aliases := (typeAliasOf? item).toList ++ decls.aliases
      uses := (importOf? item).toList ++ decls.uses
      fns := (functionOf? item).toList ++ decls.fns
      consts := (constantOf? item).toList ++ decls.consts
      impls := (implOf? item).toList ++ decls.impls } := by
  cases item with
  | useDecl origin path newName glob attrs =>
    simp only [add, importOf?]
    split <;> rfl
  | _ => rfl

/-- Each kind of item is kept by itself, the last one first. -/
theorem foldl_add (decls : Declarations) (items : List Item) : items.foldl add decls =
    { structs := (items.filterMap structOf?).reverse ++ decls.structs
      enums := (items.filterMap enumOf?).reverse ++ decls.enums
      traits := (items.filterMap traitOf?).reverse ++ decls.traits
      aliases := (items.filterMap typeAliasOf?).reverse ++ decls.aliases
      uses := (items.filterMap importOf?).reverse ++ decls.uses
      fns := (items.filterMap functionOf?).reverse ++ decls.fns
      consts := (items.filterMap constantOf?).reverse ++ decls.consts
      impls := (items.filterMap implOf?).reverse ++ decls.impls } := by
  have reversed {α : Type} (kept? : Item → Option α) (item : Item) (items : List Item)
      (known : List α) : (items.filterMap kept?).reverse ++ ((kept? item).toList ++ known) =
        ((item :: items).filterMap kept?).reverse ++ known := by
    cases found : kept? item <;> simp [found]
  induction items generalizing decls with
  | nil => rfl
  | cons item items inductionHypothesis =>
    rw [foldl_cons, inductionHypothesis, add_eq]
    simp only [reversed]

theorem ofCrate_eq (crate : Crate) : ofCrate crate =
    { structs := ((declaredItems crate).filterMap structOf?).reverse
      enums := ((declaredItems crate).filterMap enumOf?).reverse
      traits := ((declaredItems crate).filterMap traitOf?).reverse
      aliases := ((declaredItems crate).filterMap typeAliasOf?).reverse
      uses := ((declaredItems crate).filterMap importOf?).reverse
      fns := ((declaredItems crate).filterMap functionOf?).reverse
      consts := ((declaredItems crate).filterMap constantOf?).reverse
      impls := ((declaredItems crate).filterMap implOf?).reverse } := by
  rw [ofCrate, foldl_add]
  simp only [append_nil]

end Declarations
end DrainLint.Typing
