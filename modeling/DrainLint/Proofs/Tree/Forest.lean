import DrainLint.Proofs.Tree.Walk
import Mathlib.Data.List.Flatten
import Mathlib.Data.List.Forall2
import Mathlib.Data.List.Pairwise
import Mathlib.Data.List.Perm.Subperm

/-! # Forests in place

Where the nodes that come of a piece of text stand, and which numbers they have.

- `Mark`: an offset in the text with the last number handed out;
- `Exprless`, `Apart`: trees that share no text, unless one of them holds no expression;
- `textChildren`, `Precedes`: children in the order of the text, and what that order is;
- `WellPlaced`: a node around its children, in the text and by number;
- `span_covers`: a node stands around all that is below it;
- `mem_walk_or_apart`: of two nodes one is below the other, or they are apart;
- `InPlace`: some trees between two marks, well placed throughout, apart from each other and with no
  number twice;
- `InPlace.append`, `InPlace.subperm`, `InPlace.gather`, `InPlace.node`: trees side by side, fewer of
  them, and a node over some or all of them;
- `InText`: trees in place that are listed in the order of the text.
-/

namespace DrainLint.Hir

open List

/-! ## Marks -/

/-- How far the text is read and the nodes are numbered. -/
@[ext]
structure Mark where
  offset : Nat
  number : Nat

instance : LE Mark where
  le before after := before.offset ≤ after.offset ∧ before.number ≤ after.number

theorem Mark.le_iff {before after : Mark} :
    before ≤ after ↔ before.offset ≤ after.offset ∧ before.number ≤ after.number := Iff.rfl

theorem Mark.le_refl (mark : Mark) : mark ≤ mark := ⟨Nat.le_refl _, Nat.le_refl _⟩

theorem Mark.le_trans {first second third : Mark} (lower : first ≤ second)
    (upper : second ≤ third) : first ≤ third :=
  ⟨Nat.le_trans lower.1 upper.1, Nat.le_trans lower.2 upper.2⟩

namespace Node

@[simp] theorem span_expr (value : Expr) : (Node.expr value).span = value.origin.span := rfl

@[simp] theorem id_expr (value : Expr) : (Node.expr value).id = value.origin.id := rfl

/-! ## Trees that share no text -/

/-- A tree without expressions.  The type and the pattern of `self` and the leaves of one `use` are
such trees: they have the span of the whole that they are read from. -/
def Exprless (node : Node) : Prop := ∀ value, .expr value ∉ node.walk

theorem Exprless.of_children {node : Node} (children : ∀ child ∈ node.children, child.Exprless)
    (other : ∀ value, node ≠ .expr value) : node.Exprless := by
  intro value inside
  rw [walk_eq] at inside
  cases inside with
  | head => exact other value rfl
  | tail _ member =>
    obtain ⟨child, isChild, inChild⟩ := List.mem_flatMap.mp member
    exact children child isChild value inChild

theorem Exprless.child {node child : Node} (exprless : node.Exprless)
    (isChild : child ∈ node.children) : child.Exprless :=
  fun value inside => exprless value (mem_walk_of_child isChild inside)

/-- Two trees of which one ends before the other starts, or one holds no expression. -/
def Apart (first second : Node) : Prop :=
  first.span.hi ≤ second.span.lo ∨ second.span.hi ≤ first.span.lo ∨
    first.Exprless ∨ second.Exprless

theorem Apart.symm {first second : Node} (apart : first.Apart second) : second.Apart first := by
  unfold Apart at *
  tauto

instance : Std.Symm Apart where
  symm _ _ := Apart.symm

/-- A tree inside another, in the text and as far as expressions go, is apart from what that is
apart from. -/
theorem Apart.within {outer inner other : Node} (apart : outer.Apart other)
    (lower : outer.span.lo ≤ inner.span.lo) (upper : inner.span.hi ≤ outer.span.hi)
    (exprless : outer.Exprless → inner.Exprless) : inner.Apart other := by
  rcases apart with earlier | later | silent | silent
  · exact .inl (Nat.le_trans upper earlier)
  · exact .inr (.inl (Nat.le_trans later lower))
  · exact .inr (.inr (.inl (exprless silent)))
  · exact .inr (.inr (.inr silent))

/-! ## Trees one after the other -/

/-- The fields of a node in the order of the text: the generic arguments of a method call stand
before the arguments, the type that a closure returns before the body, and the trait of an
implementation before the type. -/
def textFields (node : Node) : List (String × Value) :=
  match node, node.fields with
  | expr (.methodCall ..), [receiver, method, args, nameSpan, genericArgs] =>
    [receiver, method, nameSpan, genericArgs, args]
  | expr (.closure ..), [params, body, ret, isMove] => [params, ret, body, isMove]
  | item (.implBlock ..), [generics, selfTy, traitRef, items, attrs] =>
    [generics, traitRef, selfTy, items, attrs]
  | _, fields => fields

/-- The children of a node in the order of the text. -/
def textChildren (node : Node) : List Node := node.textFields.flatMap fun field => field.2.nodes

theorem textFields_perm (node : Node) : node.textFields ~ node.fields := by
  unfold textFields
  split
  · rename_i receiver method args nameSpan genericArgs listed
    rw [listed]
    exact ((@perm_append_comm _ [nameSpan, genericArgs] [args]).cons method).cons receiver
  · rename_i params body ret isMove listed
    rw [listed]
    exact (Perm.swap body ret [isMove]).cons params
  · rename_i generics selfTy traitRef items attrs listed
    rw [listed]
    exact (Perm.swap selfTy traitRef [items, attrs]).cons generics
  · exact .refl _

theorem textChildren_perm (node : Node) : node.textChildren ~ node.children := by
  rw [children_eq]
  exact node.textFields_perm.flatMap_right _

theorem children_subperm {node : Node} {nodes : List Node} (listed : node.textChildren <+ nodes) :
    node.children <+~ nodes :=
  node.textChildren_perm.symm.subperm.trans listed.subperm

/-- A tree in which nothing starts after its root.  The pattern of `self`, the leaves of one `use`
and the statements over them are such trees beside others of the same span.  No type is: a type in
front of another tree ends before it. -/
def Flush (node : Node) : Prop :=
  (∀ value, node ≠ .ty value) ∧ ∀ below ∈ node.walk, below.span.lo ≤ node.span.lo

theorem Flush.of_childless {node : Node} (childless : node.children = [])
    (other : ∀ value, node ≠ .ty value) : node.Flush := by
  refine ⟨other, fun below inside => ?_⟩
  rw [walk_eq, childless, walkAll_nil, List.mem_singleton] at inside
  exact Nat.le_of_eq (by rw [inside])

/-- A tree that ends before another one starts, or starts with it at the latest and is flush. -/
def Precedes (first second : Node) : Prop :=
  first.span.hi ≤ second.span.lo ∨ first.span.lo ≤ second.span.lo ∧ first.Flush

theorem Precedes.start_le {first second : Node} (precedes : first.Precedes second) :
    first.span.lo ≤ second.span.lo := by
  have := first.span.lo_le_hi
  rcases precedes with before | ⟨starts, _⟩ <;> omega

/-- A tree precedes what starts no earlier than a tree that it precedes. -/
theorem Precedes.later {first second other : Node} (precedes : first.Precedes second)
    (starts : second.span.lo ≤ other.span.lo) : first.Precedes other :=
  precedes.imp (Nat.le_trans · starts) fun ⟨lower, flush⟩ => ⟨Nat.le_trans lower starts, flush⟩

/-- A tree with the span of another that is flush if the other is. -/
structure StandsFor (outer inner : Node) : Prop where
  span : outer.span = inner.span
  flush : inner.Flush → outer.Flush

theorem Precedes.standsFor {first second first' second' : Node} (precedes : first.Precedes second)
    (stands : first'.StandsFor first) (stands' : second'.StandsFor second) :
    first'.Precedes second' := by
  unfold Precedes at *
  rw [stands.span, stands'.span]
  exact precedes.imp_right fun ⟨lower, flush⟩ => ⟨lower, stands.flush flush⟩

/-- Trees that stand for trees in the order of the text are in that order too. -/
theorem pairwise_standsFor {inners outers : List Node} (ordered : inners.Pairwise Precedes)
    (stand : List.Forall₂ StandsFor outers inners) : outers.Pairwise Precedes := by
  have long := stand.length_eq
  rw [List.pairwise_iff_getElem] at *
  intro earlier later inEarlier inLater less
  exact (ordered earlier later (by omega) (by omega) less).standsFor
    (stand.get inEarlier (by omega)) (stand.get inLater (by omega))

/-- A node stands for another of its span if all that is below it is in the tree of the other. -/
theorem StandsFor.of_below {outer inner : Node} (span : outer.span = inner.span)
    (inside : ∀ below ∈ walkAll outer.children, below ∈ inner.walk)
    (other : ∀ value, outer ≠ .ty value) : outer.StandsFor inner where
  span := span
  flush flush := by
    refine ⟨other, fun below listed => ?_⟩
    rw [walk_eq, List.mem_cons] at listed
    rcases listed with rfl | listed
    · exact Nat.le_refl _
    · rw [span]
      exact flush.2 below (inside below listed)

/-! ## Nodes over their children -/

/-- All nodes but the crate, which may be the empty text, have some text. -/
def Filled : Node → Prop
  | crate _ => True
  | node => node.span.lo < node.span.hi

theorem Filled.of_lt {node : Node} (ordered : node.span.lo < node.span.hi) : node.Filled := by
  cases node <;> trivial

/-- The spans in the fields of a node: the header of a loop goes from its keyword to the end of the
condition and ends before the body, the name of a method stands after the receiver, and a block
starts before its statements. -/
def FieldsInPlace : Node → Prop
  | expr (.whileLoop o cond body header _) =>
    o.span.lo ≤ header.lo ∧ header.lo < cond.origin.span.lo ∧
      cond.origin.span.hi ≤ header.hi ∧ header.hi ≤ body.origin.span.lo
  | expr (.methodCall o receiver _ _ nameSpan _) =>
    receiver.origin.span.hi ≤ nameSpan.lo ∧ nameSpan.hi ≤ o.span.hi
  | expr (.block (.mk o stmts _ _)) => ∀ stmt ∈ stmts, o.span.lo < stmt.origin.span.lo
  | _ => True

/-- A node reaches over its children, which are apart and one after the other, and is numbered after
them. -/
structure WellPlaced (node : Node) : Prop where
  children : ∀ child ∈ node.children, node.span.lo ≤ child.span.lo ∧
    child.span.hi ≤ node.span.hi ∧ child.id < node.id
  fields : node.FieldsInPlace
  filled : node.Filled
  apart : node.children.Pairwise Apart
  ordered : node.textChildren.Pairwise Precedes

theorem WellPlaced.child_apart {node child other : Node} (placed : node.WellPlaced)
    (apart : node.Apart other) (isChild : child ∈ node.children) : child.Apart other := by
  obtain ⟨lower, upper, _⟩ := placed.children child isChild
  exact apart.within lower upper fun exprless => exprless.child isChild

/-- Whatever is below a node stands inside it, where all the nodes on the way are well placed. -/
theorem span_covers {root below : Node} (throughout : ∀ node ∈ root.walk, node.WellPlaced)
    (inside : below ∈ root.walk) :
    root.span.lo ≤ below.span.lo ∧ below.span.hi ≤ root.span.hi := by
  rw [walk_eq] at inside
  cases inside with
  | head => exact ⟨Nat.le_refl _, Nat.le_refl _⟩
  | tail _ member =>
    obtain ⟨child, isChild, inChild⟩ := List.mem_flatMap.mp member
    have upper := (throughout root (mem_walk_self root)).children child isChild
    have lower := span_covers
      (fun node listed => throughout node (mem_walk_of_child isChild listed)) inChild
    omega
termination_by root.weight
decreasing_by exact weight_child_lt isChild

/-- What is below a tree is apart from what the tree is apart from. -/
theorem apart_of_mem_walk {root below other : Node}
    (throughout : ∀ node ∈ root.walk, node.WellPlaced) (apart : root.Apart other)
    (inside : below ∈ root.walk) : below.Apart other := by
  obtain ⟨lower, upper⟩ := span_covers throughout inside
  exact apart.within lower upper fun exprless value deeper =>
    exprless value (mem_walk_trans inside deeper)

/-- Of two nodes of a tree one is below the other, or they are apart. -/
theorem mem_walk_or_apart {root first second : Node}
    (throughout : ∀ node ∈ root.walk, node.WellPlaced) (inFirst : first ∈ root.walk)
    (inSecond : second ∈ root.walk) :
    first ∈ second.walk ∨ second ∈ first.walk ∨ first.Apart second := by
  rw [walk_eq] at inFirst inSecond
  rcases List.mem_cons.mp inFirst with rfl | inFirst
  · exact .inr (.inl (by rw [walk_eq]; exact inSecond))
  rcases List.mem_cons.mp inSecond with rfl | inSecond
  · exact .inl (by rw [walk_eq]; exact List.mem_cons_of_mem _ inFirst)
  obtain ⟨child, isChild, inFirst⟩ := List.mem_flatMap.mp inFirst
  obtain ⟨child', isChild', inSecond⟩ := List.mem_flatMap.mp inSecond
  have inChild : ∀ child ∈ root.children, ∀ node ∈ child.walk, node.WellPlaced :=
    fun child isChild node below => throughout node (mem_walk_of_child isChild below)
  -- Below one child they are in a smaller tree; below two children they are apart as these are.
  by_cases same : child = child'
  · subst same
    exact mem_walk_or_apart (inChild child isChild) inFirst inSecond
  · have apart := (throughout root (mem_walk_self root)).apart.forall isChild isChild' same
    have firstApart := apart_of_mem_walk (inChild child isChild) apart inFirst
    have secondApart := apart_of_mem_walk (inChild child' isChild') firstApart.symm inSecond
    exact .inr (.inr secondApart.symm)
termination_by root.weight
decreasing_by exact weight_child_lt isChild

/-- Trees between two marks, well placed throughout, apart from each other and with no number
twice. -/
structure InPlace (before after : Mark) (nodes : List Node) : Prop where
  le : before ≤ after
  spans : ∀ node ∈ nodes, before.offset ≤ node.span.lo ∧ node.span.hi ≤ after.offset
  apart : nodes.Pairwise Apart
  wellPlaced : ∀ node ∈ walkAll nodes, node.WellPlaced
  numbers : ∀ node ∈ walkAll nodes, before.number < node.id ∧ node.id ≤ after.number
  distinct : ((walkAll nodes).map Node.id).Nodup

namespace InPlace

variable {before middle after : Mark} {nodes nodes' : List Node}

/-- The first of some trees that are in place. -/
theorem head {node : Node} (placed : InPlace before after (node :: nodes)) : node.WellPlaced :=
  placed.wellPlaced node (mem_walkAll_of_mem List.mem_cons_self (mem_walk_self node))

theorem nil (le : before ≤ after) : InPlace before after [] where
  le := le
  spans := by simp
  apart := .nil
  wellPlaced := by simp
  numbers := by simp
  distinct := by simp

theorem widen {before' after' : Mark} (placed : InPlace before after nodes)
    (lower : before' ≤ before) (upper : after ≤ after') : InPlace before' after' nodes where
  le := Mark.le_trans lower (Mark.le_trans placed.le upper)
  spans node member := by
    have := placed.spans node member
    have := lower.1
    have := upper.1
    omega
  apart := placed.apart
  wellPlaced := placed.wellPlaced
  numbers node member := by
    have := placed.numbers node member
    have := lower.2
    have := upper.2
    omega
  distinct := placed.distinct

/-- Trees side by side: the numbers of the second are above those of the first. -/
theorem append (first : InPlace before middle nodes) (second : InPlace middle after nodes') :
    InPlace before after (nodes ++ nodes') where
  le := Mark.le_trans first.le second.le
  spans node member := by
    rcases List.mem_append.mp member with member | member
    · exact (first.widen (Mark.le_refl _) second.le).spans node member
    · exact (second.widen first.le (Mark.le_refl _)).spans node member
  apart := by
    refine List.pairwise_append.mpr ⟨first.apart, second.apart, ?_⟩
    intro node inFirst other inSecond
    -- The first trees end at the middle mark, where the second ones start.
    exact .inl (Nat.le_trans (first.spans node inFirst).2 (second.spans other inSecond).1)
  wellPlaced node member := by
    rw [walkAll_append] at member
    rcases List.mem_append.mp member with member | member
    · exact first.wellPlaced node member
    · exact second.wellPlaced node member
  numbers node member := by
    rw [walkAll_append] at member
    rcases List.mem_append.mp member with member | member
    · exact (first.widen (Mark.le_refl _) second.le).numbers node member
    · exact (second.widen first.le (Mark.le_refl _)).numbers node member
  distinct := by
    rw [walkAll_append, List.map_append, List.nodup_append]
    refine ⟨first.distinct, second.distinct, ?_⟩
    intro number member number' member'
    -- Up to the middle mark the numbers are those of the first trees, above it the others.
    obtain ⟨node, inFirst, rfl⟩ := List.mem_map.mp member
    obtain ⟨node', inSecond, rfl⟩ := List.mem_map.mp member'
    have := first.numbers node inFirst
    have := second.numbers node' inSecond
    omega

/-- Some of the trees, in any order. -/
theorem subperm (placed : InPlace before after nodes) (fewer : nodes' <+~ nodes) :
    InPlace before after nodes' := by
  -- Whole trees are left out or moved, so their walks are too.
  have walks : walkAll nodes' <+~ walkAll nodes := by
    obtain ⟨listed, permuted, sublist⟩ := fewer
    exact ⟨walkAll listed, permuted.flatMap_right walk, sublist.flatMap walk⟩
  exact {
    le := placed.le
    spans := fun node member => placed.spans node (fewer.subset member)
    apart := by
      obtain ⟨listed, permuted, sublist⟩ := fewer
      exact (placed.apart.sublist sublist).perm permuted Apart.symm
    wellPlaced := fun node member => placed.wellPlaced node (walks.subset member)
    numbers := fun node member => placed.numbers node (walks.subset member)
    distinct := by
      obtain ⟨listed, permuted, sublist⟩ := walks
      exact ((permuted.map Node.id).nodup_iff.mp
        ((sublist.map Node.id).nodup placed.distinct)) }

/-- A node over some of the trees that are in place, apart from the others and numbered after all of
them. -/
theorem gather (placed : InPlace before after (nodes ++ nodes')) (node : Node)
    (children : node.children <+~ nodes)
    (covers : ∀ child ∈ nodes, node.span.lo ≤ child.span.lo ∧ child.span.hi ≤ node.span.hi)
    (starts : before.offset ≤ node.span.lo) (ends : node.span.hi ≤ after.offset)
    (numbered : after.number < node.id) (fields : node.FieldsInPlace) (filled : node.Filled)
    (ordered : node.textChildren.Pairwise Precedes) (apart : ∀ other ∈ nodes', node.Apart other) :
    InPlace before ⟨after.offset, node.id⟩ (node :: nodes') := by
  have below : InPlace before after (node.children ++ nodes') :=
    placed.subperm ((subperm_append_right _).mpr children)
  have inside := placed.le
  rw [Mark.le_iff] at inside
  have whole := walkAll_cons_eq node nodes'
  obtain ⟨childrenApart, othersApart, _⟩ := List.pairwise_append.mp below.apart
  -- The node is new; all else about the trees is what it was, with the children one level down.
  refine ⟨?_, ?_, List.pairwise_cons.mpr ⟨apart, othersApart⟩, ?_, ?_, ?_⟩
  · rw [Mark.le_iff]
    simp only
    omega
  · intro member listed
    cases listed with
    | head => exact ⟨starts, ends⟩
    | tail _ listed => exact placed.spans member (List.mem_append_right _ listed)
  · intro member listed
    rw [whole] at listed
    cases listed with
    | head =>
      refine ⟨?_, fields, filled, childrenApart, ordered⟩
      intro child isChild
      have := covers child (children.subset isChild)
      have := below.numbers child
        (mem_walkAll_of_mem (List.mem_append_left _ isChild) (mem_walk_self child))
      omega
    | tail _ listed => exact below.wellPlaced member listed
  · intro member listed
    rw [whole] at listed
    cases listed with
    | head =>
      simp only
      omega
    | tail _ listed =>
      have := below.numbers member listed
      simp only
      omega
  · rw [whole, List.map_cons, List.nodup_cons]
    refine ⟨?_, below.distinct⟩
    -- No node below has a number as high as the new one.
    intro listed
    obtain ⟨member, inChildren, same⟩ := List.mem_map.mp listed
    have := below.numbers member inChildren
    omega

/-- A node over trees that are in place, numbered after them. -/
theorem node (placed : InPlace before after nodes) (node : Node)
    (children : node.children <+~ nodes) (lower : node.span.lo ≤ before.offset)
    (upper : after.offset ≤ node.span.hi) (numbered : after.number < node.id)
    (fields : node.FieldsInPlace) (filled : node.Filled)
    (ordered : node.textChildren.Pairwise Precedes) :
    InPlace ⟨node.span.lo, before.number⟩ ⟨node.span.hi, node.id⟩ [node] := by
  have wide : InPlace ⟨node.span.lo, before.number⟩ ⟨node.span.hi, after.number⟩ (nodes ++ []) := by
    rw [List.append_nil]
    exact placed.widen ⟨lower, Nat.le_refl _⟩ ⟨upper, Nat.le_refl _⟩
  refine wide.gather node children ?_ (Nat.le_refl _) (Nat.le_refl _) numbered fields filled
    ordered (by simp)
  intro child member
  have := placed.spans child member
  omega

theorem descend {node : Node} (placed : InPlace before after (node :: nodes)) :
    InPlace before after (node.children ++ nodes) := by
  have whole := walkAll_cons_eq node nodes
  have below : ∀ member ∈ walkAll (node.children ++ nodes), member ∈ walkAll (node :: nodes) := by
    rw [whole]
    exact fun member listed => List.mem_cons_of_mem node listed
  have wellPlaced := placed.head
  refine ⟨placed.le, ?_, ?_, fun member listed => placed.wellPlaced member (below member listed),
    fun member listed => placed.numbers member (below member listed), ?_⟩
  · intro member listed
    rcases List.mem_append.mp listed with isChild | listed
    · have := placed.spans node List.mem_cons_self
      have := wellPlaced.children member isChild
      omega
    · exact placed.spans member (List.mem_cons_of_mem node listed)
  · obtain ⟨rootApart, othersApart⟩ := List.pairwise_cons.mp placed.apart
    refine List.pairwise_append.mpr ⟨wellPlaced.apart, othersApart, ?_⟩
    intro child isChild other listed
    exact wellPlaced.child_apart (rootApart other listed) isChild
  · have distinct := placed.distinct
    rw [whole, List.map_cons, List.nodup_cons] at distinct
    exact distinct.2

/-- A node over one of the trees, with its span, in the place of the tree. -/
theorem wrap {inner : Node} (placed : InPlace before after (inner :: nodes)) (node : Node)
    (children : node.children = [inner]) (span : node.span = inner.span)
    (numbered : after.number < node.id) (fields : node.FieldsInPlace) (filled : node.Filled)
    (other : ∀ value, node ≠ .expr value) :
    InPlace before ⟨after.offset, node.id⟩ (node :: nodes) := by
  have inside := placed.spans inner List.mem_cons_self
  have separate : InPlace before after ([inner] ++ nodes) := placed
  have only : node.textChildren = [inner] := perm_singleton.mp (children ▸ node.textChildren_perm)
  refine separate.gather node (by rw [children]) ?_ (by rw [span]; exact inside.1)
    (by rw [span]; exact inside.2) numbered fields filled (only ▸ pairwise_singleton _ _) ?_
  · intro child member
    rw [List.mem_singleton.mp member, span]
    exact ⟨Nat.le_refl _, Nat.le_refl _⟩
  · intro beside listed
    have apart := (List.pairwise_cons.mp placed.apart).1 beside listed
    refine apart.within (Nat.le_of_eq (by rw [span])) (Nat.le_of_eq (by rw [span]))
      fun exprless => ?_
    refine .of_children (fun child isChild => ?_) other
    rw [children, List.mem_singleton] at isChild
    rwa [isChild]

/-- A node without children beside the trees, numbered after them, that is no expression. -/
theorem leaf (placed : InPlace before after nodes) (node : Node) (children : node.children = [])
    (starts : before.offset ≤ node.span.lo) (ends : node.span.hi ≤ after.offset)
    (numbered : after.number < node.id) (fields : node.FieldsInPlace) (filled : node.Filled)
    (other : ∀ value, node ≠ .expr value) :
    InPlace before ⟨after.offset, node.id⟩ (node :: nodes) := by
  have separate : InPlace before after ([] ++ nodes) := placed
  have exprless : node.Exprless := .of_children (by simp [children]) other
  have none : node.textChildren = [] := perm_nil.mp (children ▸ node.textChildren_perm)
  exact separate.gather node (by rw [children]) (by simp) starts ends numbered fields filled
    (none ▸ .nil) fun beside _ => .inr (.inr (.inl exprless))

/-- A node in the place of another with the same children and the same number, which reaches no
less far. -/
theorem relabel {node : Node} (placed : InPlace before after (node :: nodes)) (node' : Node)
    (children : node'.children = node.children)
    (textChildren : node'.textChildren = node.textChildren) (number : node'.id = node.id)
    (lower : node'.span.lo ≤ node.span.lo) (upper : node.span.hi ≤ node'.span.hi)
    (starts : before.offset ≤ node'.span.lo) (ends : node'.span.hi ≤ after.offset)
    (fields : node'.FieldsInPlace) (filled : node'.Filled)
    (apart : ∀ other ∈ nodes, node.Apart other → node'.Apart other) :
    InPlace before after (node' :: nodes) := by
  have whole := walkAll_cons_eq node nodes
  have whole' := walkAll_cons_eq node' nodes
  rw [children] at whole'
  have member : node ∈ walkAll (node :: nodes) := by
    rw [whole]
    exact List.mem_cons_self
  have below : ∀ listed ∈ walkAll (node.children ++ nodes), listed ∈ walkAll (node :: nodes) := by
    rw [whole]
    exact fun listed isListed => List.mem_cons_of_mem node isListed
  have wellPlaced := placed.head
  refine ⟨placed.le, ?_, ?_, ?_, ?_, ?_⟩
  · intro listed isListed
    cases isListed with
    | head => exact ⟨starts, ends⟩
    | tail _ isListed => exact placed.spans listed (List.mem_cons_of_mem node isListed)
  · obtain ⟨rootApart, othersApart⟩ := List.pairwise_cons.mp placed.apart
    exact List.pairwise_cons.mpr
      ⟨fun other listed => apart other listed (rootApart other listed), othersApart⟩
  · intro listed isListed
    rw [whole'] at isListed
    cases isListed with
    | head =>
      refine ⟨?_, fields, filled, by rw [children]; exact wellPlaced.apart,
        by rw [textChildren]; exact wellPlaced.ordered⟩
      intro child isChild
      rw [children] at isChild
      have := wellPlaced.children child isChild
      omega
    | tail _ isListed => exact placed.wellPlaced listed (below listed isListed)
  · intro listed isListed
    rw [whole'] at isListed
    cases isListed with
    | head =>
      rw [number]
      exact placed.numbers node member
    | tail _ isListed => exact placed.numbers listed (below listed isListed)
  · have distinct := placed.distinct
    rw [whole, List.map_cons] at distinct
    rw [whole', List.map_cons, number]
    exact distinct

end InPlace

/-! ## Trees in the order of the text -/

/-- Trees in place that are listed in the order of the text. -/
structure InText (before after : Mark) (nodes : List Node) : Prop where
  inPlace : InPlace before after nodes
  ordered : nodes.Pairwise Precedes

namespace InText

variable {before middle after : Mark} {nodes nodes' : List Node}

theorem nil (le : before ≤ after) : InText before after [] := ⟨.nil le, .nil⟩

theorem single {node : Node} (placed : InPlace before after [node]) : InText before after [node] :=
  ⟨placed, pairwise_singleton _ _⟩

theorem widen {before' after' : Mark} (placed : InText before after nodes)
    (lower : before' ≤ before) (upper : after ≤ after') : InText before' after' nodes :=
  ⟨placed.inPlace.widen lower upper, placed.ordered⟩

theorem append (first : InText before middle nodes) (second : InText middle after nodes') :
    InText before after (nodes ++ nodes') := by
  refine ⟨first.inPlace.append second.inPlace,
    List.pairwise_append.mpr ⟨first.ordered, second.ordered, fun node listed other listed' => ?_⟩⟩
  -- The first trees end at the middle mark, where the second ones start.
  exact .inl (Nat.le_trans (first.inPlace.spans node listed).2 (second.inPlace.spans other listed').1)

end InText
end Node
end DrainLint.Hir
