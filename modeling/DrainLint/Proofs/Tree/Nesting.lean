import DrainLint.Proofs.Grammar.PlacedItems
import DrainLint.Proofs.Peg.Noted

/-! # The tree of a file

What the numbers and the spans of the nodes of a file tell about the tree.

- `id_le_of_mem_walk`: a node has the highest number of all that is below it;
- `mem_walk_stmt_iff`: an expression in the text of a statement is below the statement;
- `FieldsNest`: the spans in the fields of a node, inside the node;
- `SourceFile.parse_numbers`: every number is given once, to children before their parents;
- `SourceFile.parse_nests`: every node lies in the text, inside its parent.
-/

namespace DrainLint.Hir.Node

/-- A node has the highest number of all that is below it, where all the nodes on the way are well
placed. -/
theorem id_le_of_mem_walk {root below : Node} (throughout : ∀ node ∈ root.walk, node.WellPlaced)
    (inside : below ∈ root.walk) : below.id ≤ root.id := by
  rw [walk_eq] at inside
  cases inside with
  | head => exact Nat.le_refl _
  | tail _ member =>
    obtain ⟨child, isChild, inChild⟩ := List.mem_flatMap.mp member
    have upper := (throughout root (mem_walk_self root)).children child isChild
    have lower := id_le_of_mem_walk
      (fun node listed => throughout node (mem_walk_of_child isChild listed)) inChild
    omega
termination_by root.weight
decreasing_by exact weight_child_lt isChild

/-! ## Expressions in the text of a statement -/

theorem not_exprless_expr (value : Expr) : ¬ (Node.expr value).Exprless :=
  fun exprless => exprless value (mem_walk_self _)

/-- A tree with some text is not apart from a tree around it, if they hold expressions. -/
theorem not_apart_of_covers {outer inner : Node} (lower : outer.span.lo ≤ inner.span.lo)
    (upper : inner.span.hi ≤ outer.span.hi) (filled : inner.span.lo < inner.span.hi)
    (outerHolds : ¬ outer.Exprless) (innerHolds : ¬ inner.Exprless) : ¬ inner.Apart outer := by
  rintro (earlier | later | exprless | exprless)
  · omega
  · omega
  · exact innerHolds exprless
  · exact outerHolds exprless

/-- Trees with a tree in common that has some text and holds an expression are not apart. -/
theorem not_apart_of_common {first second common : Node}
    (inFirst : ∀ node ∈ first.walk, node.WellPlaced)
    (inSecond : ∀ node ∈ second.walk, node.WellPlaced) (belowFirst : common ∈ first.walk)
    (belowSecond : common ∈ second.walk) (filled : common.span.lo < common.span.hi)
    (holds : ¬ common.Exprless) : ¬ first.Apart second := by
  intro apart
  have commonApart := apart_of_mem_walk inFirst apart belowFirst
  have selfApart := apart_of_mem_walk inSecond commonApart.symm belowSecond
  exact not_apart_of_covers (Nat.le_refl _) (Nat.le_refl _) filled holds holds selfApart

/-- An expression stands in the text of a statement just if it is below the statement, provided that
the statement holds any expression. -/
theorem mem_walk_stmt_iff {root : Node} (throughout : ∀ node ∈ root.walk, node.WellPlaced)
    {block : Block} {stmt : Stmt} {value : Expr} (inRoot : Node.expr (.block block) ∈ root.walk)
    (listed : stmt ∈ block.stmts) (holds : ¬ (Node.stmt stmt).Exprless)
    (inside : Node.expr value ∈ root.walk) :
    Node.expr value ∈ (Node.stmt stmt).walk ↔
      stmt.origin.span.contains value.origin.span = true := by
  have isChild : Node.stmt stmt ∈ (Node.expr (.block block)).children := by
    cases block
    simpa [children_eq, Node.fields, Block.stmts] using listed
  have below : Node.stmt stmt ∈ (Node.expr (.block block)).walk :=
    mem_walk_of_child isChild (mem_walk_self _)
  have stmtInRoot := mem_walk_trans inRoot below
  have wellPlaced : ∀ {top}, top ∈ root.walk → ∀ node ∈ top.walk, node.WellPlaced :=
    fun isTop node deeper => throughout node (mem_walk_trans isTop deeper)
  have valueFilled : value.origin.span.lo < value.origin.span.hi := (throughout _ inside).filled
  have stmtFilled : stmt.origin.span.lo < stmt.origin.span.hi := (throughout _ stmtInRoot).filled
  have starts : block.origin.span.lo < stmt.origin.span.lo := by
    have fields := (throughout _ inRoot).fields
    cases block
    exact fields stmt listed
  rw [Span.contains_iff]
  constructor
  · intro deeper
    exact span_covers (wellPlaced stmtInRoot) deeper
  rintro ⟨lower, upper⟩
  rcases mem_walk_or_apart throughout inside stmtInRoot with deeper | above | apart
  · exact deeper
  · -- The statement is below the expression, which then is below the block or above it.
    rcases mem_walk_or_apart throughout inside inRoot with within | around | apart
    · rw [walk_eq] at within
      rcases List.mem_cons.mp within with same | within
      · cases same
        exact absurd starts (Nat.not_lt.mpr lower)
      obtain ⟨child, isChild', inChild⟩ := List.mem_flatMap.mp within
      by_cases same : child = .stmt stmt
      · rwa [same] at inChild
      have apart := (throughout _ inRoot).apart.forall isChild' isChild same
      have childInRoot := mem_walk_trans inRoot (mem_walk_of_child isChild' (mem_walk_self _))
      exact absurd apart (not_apart_of_common (wellPlaced childInRoot) (wellPlaced stmtInRoot)
        (mem_walk_trans inChild above) (mem_walk_self _) stmtFilled holds)
    · have covers : value.origin.span.lo ≤ block.origin.span.lo ∧ _ :=
        span_covers (wellPlaced inside) around
      omega
    · exact absurd apart (not_apart_of_common (wellPlaced inside) (wellPlaced inRoot) above below
        stmtFilled holds)
  · exact absurd apart
      (not_apart_of_covers lower upper valueFilled holds (not_exprless_expr value))

/-! ## Spans inside a node -/

/-- The spans in the fields of a node lie inside the node: the header of a loop, which ends where
the body starts at the latest, and the name of a method, which stands after the receiver. -/
def FieldsNest : Node → Prop
  | expr (.whileLoop o _ body header _) =>
    o.span.contains header ∧ header.hi ≤ body.origin.span.lo
  | expr (.methodCall o receiver _ _ nameSpan _) =>
    o.span.contains nameSpan ∧ receiver.origin.span.hi ≤ nameSpan.lo
  | _ => True

theorem WellPlaced.contains {node child : Node} (placed : node.WellPlaced)
    (isChild : child ∈ node.children) : node.span.contains child.span := by
  obtain ⟨starts, ends, _⟩ := placed.children child isChild
  exact Span.contains_iff.mpr ⟨starts, ends⟩

theorem WellPlaced.fieldsNest {node : Node} (placed : node.WellPlaced) : node.FieldsNest := by
  unfold FieldsNest
  split
  · next o cond body header label =>
    obtain ⟨starts, _, _, ends⟩ := placed.fields
    -- The header ends before the body does, and the body lies inside the loop.
    have inside : o.span.lo ≤ body.origin.span.lo ∧ body.origin.span.hi ≤ o.span.hi ∧ _ :=
      placed.children (.expr (.block body)) (by simp [children_eq, Node.fields])
    have := body.origin.span.lo_le_hi
    exact ⟨Span.contains_iff.mpr ⟨starts, by omega⟩, ends⟩
  · next o receiver method args nameSpan genericArgs =>
    obtain ⟨starts, ends⟩ := placed.fields
    -- The name starts after the receiver, which lies inside the call.
    have inside : o.span.lo ≤ receiver.origin.span.lo ∧ receiver.origin.span.hi ≤ o.span.hi ∧ _ :=
      placed.children (.expr receiver) (by simp [children_eq, Node.fields])
    have := receiver.origin.span.lo_le_hi
    exact ⟨Span.contains_iff.mpr ⟨by omega, ends⟩, starts⟩
  · trivial

end DrainLint.Hir.Node

namespace DrainLint.SourceFile

open Hir

variable {source : SourceFile} {crate : Crate}

/-- A method that loops, with an attribute, a `self` and a block that is marked unsafe. -/
def nestedFile : SourceFile := ⟨"nested.rs",
  "impl S \x7b #[a] fn f(&self) \x7b while !v.g() \x7b unsafe \x7b 1 + v \x7d \x7d \x7d \x7d".toList⟩

/-- Whether a node is a loop over a method call. -/
def loopsOverCall : Node → Bool
  | .expr (.whileLoop _ (.unary _ _ (.methodCall ..)) _ _ _) => true
  | _ => false

theorem nestedFile_parses :
    ∃ crate, nestedFile.parse = .ok crate ∧ ∃ node ∈ crate.walk, loopsOverCall node = true := by
  have evaluated :
      nestedFile.crateNoted?.any (fun crate => crate.walk.any loopsOverCall) = true := by
    decide +kernel
  obtain ⟨crate, parsed, checked⟩ := parse_of_noted evaluated
  exact ⟨crate, parsed, List.any_eq_true.mp checked⟩

/-- The nodes of a file have numbers of their own, from one to that of the crate, and every node is
numbered after its children. -/
theorem parse_numbers (parsed : source.parse = .ok crate) :
    (crate.walk.map Node.id).Nodup ∧ ∀ node ∈ crate.walk,
      (1 ≤ node.id ∧ node.id ≤ (Node.crate crate).id) ∧
        ∀ child ∈ node.children, child.id < node.id := by
  obtain ⟨last, placed⟩ := parse_inPlace parsed
  refine ⟨parse_distinct parsed, fun node listed => ⟨⟨?_, ?_⟩, fun child isChild => ?_⟩⟩
  · exact (placed.numbers node (Node.mem_walkAll_of_mem List.mem_cons_self listed)).1
  · exact Node.id_le_of_mem_walk (parse_wellPlaced parsed) listed
  · exact ((parse_wellPlaced parsed node listed).children child isChild).2.2

theorem parse_numbers_nestedFile : ∃ crate, nestedFile.parse = .ok crate ∧
    (crate.walk.map Node.id).Nodup ∧ ∀ node ∈ crate.walk,
      (1 ≤ node.id ∧ node.id ≤ (Node.crate crate).id) ∧
        ∀ child ∈ node.children, child.id < node.id := by
  obtain ⟨crate, parsed, _⟩ := nestedFile_parses
  exact ⟨crate, parsed, parse_numbers parsed⟩

/-- The nodes of a file lie in its text, each around its children and around the spans in its
fields. -/
theorem parse_nests (parsed : source.parse = .ok crate) :
    ∀ node ∈ crate.walk, (node.span.lo ≤ node.span.hi ∧ node.span.hi ≤ source.text.length) ∧
      (∀ child ∈ node.children, node.span.contains child.span) ∧ node.FieldsNest := by
  obtain ⟨last, placed⟩ := parse_inPlace parsed
  intro node listed
  have wellPlaced := parse_wellPlaced parsed node listed
  have crateEnds := (placed.spans (.crate crate) List.mem_cons_self).2
  have nodeEnds := (Node.span_covers (parse_wellPlaced parsed) listed).2
  exact ⟨⟨node.span.lo_le_hi, Nat.le_trans nodeEnds crateEnds⟩,
    fun child isChild => wellPlaced.contains isChild, wellPlaced.fieldsNest⟩

theorem parse_nests_nestedFile : ∃ crate, nestedFile.parse = .ok crate ∧
    (∃ node ∈ crate.walk, loopsOverCall node = true) ∧
    ∀ node ∈ crate.walk, (node.span.lo ≤ node.span.hi ∧ node.span.hi ≤ nestedFile.text.length) ∧
      (∀ child ∈ node.children, node.span.contains child.span) ∧ node.FieldsNest := by
  obtain ⟨crate, parsed, loop⟩ := nestedFile_parses
  exact ⟨crate, parsed, loop, parse_nests parsed⟩

end DrainLint.SourceFile
