import DrainLint.Proofs.Checker.Examination
import DrainLint.Proofs.Lint.Shape
import DrainLint.Proofs.Tree.SourceOrder

/-! # The order of loops

Loops are examined in the order of the walk, and their diagnostics put forward in that order.  It is
the order of their headers in the text, unless a node on the way is inverted.

- `Lint.loops_ordered`: the headers of the loops below a node ascend;
- `Checker.emitted_drainLoop`: what the checker puts forward;
- `SourceFile.parse_orders`: the nodes, walks, loops and diagnostics that follow the text.
-/

namespace DrainLint

open Hir

/-! ## Loops -/

namespace Lint

theorem examineLoop?_eq_some {resolver : Resolver} {node : Node} {header : Span} {verdict : Verdict}
    (examined : examineLoop? resolver node = some (header, verdict)) :
    ∃ origin cond body label, node = .expr (.whileLoop origin cond body header label) ∧
      examine resolver cond (.block body) header = verdict := by
  unfold examineLoop? at examined
  split at examined
  · cases examined
    exact ⟨_, _, _, _, rfl, rfl⟩
  · cases examined

/-- The header of a loop starts in the loop, before the condition and the body. -/
theorem header_starts {resolver : Resolver} {node : Node} {found : Span × Verdict}
    (placed : node.WellPlaced) (examined : examineLoop? resolver node = some found) :
    node.span.lo ≤ found.1.lo ∧ node.children ≠ [] ∧
      ∀ child ∈ node.children, found.1.lo < child.span.lo := by
  obtain ⟨origin, cond, body, label, rfl, _⟩ := examineLoop?_eq_some examined
  obtain ⟨starts, before, inside, ends⟩ := placed.fields
  have := cond.origin.span.lo_le_hi
  have listed : (Node.expr (.whileLoop origin cond body found.1 label)).children =
      [.expr cond, .expr (.block body)] := by simp [Node.children_eq, Node.fields]
  refine ⟨starts, by simp [listed], ?_⟩
  rw [listed, List.forall_mem_cons, List.forall_mem_singleton]
  exact ⟨before, show found.1.lo < body.origin.span.lo by omega⟩

/-- The headers of the loops below a node ascend in the order of the walk. -/
theorem loops_ordered (resolver : Resolver) {root : Node}
    (throughout : ∀ node ∈ root.walk, node.WellPlaced)
    (upright : ∀ node ∈ root.walk, node.isInverted = false) :
    (root.walk.filterMap (examineLoop? resolver)).Pairwise
      fun first second => first.1.lo < second.1.lo := by
  have inside : ∀ {node}, node ∈ root.walk → ∀ below ∈ node.walk, below.WellPlaced :=
    fun isNode below deeper => throughout below (Node.mem_walk_trans isNode deeper)
  rw [List.pairwise_filterMap]
  refine Node.pairwise_walk throughout upright ?_ ?_
  · intro node isNode below member found examined found' examined'
    obtain ⟨child, isChild, inChild⟩ := List.mem_flatMap.mp member
    have before := (header_starts (throughout node isNode) examined).2.2 child isChild
    have covered := Node.span_covers
      (fun node deeper => inside isNode node (Node.mem_walk_of_child isChild deeper)) inChild
    have belowPlaced := inside isNode below (Node.mem_walk_of_child isChild inChild)
    have starts := (header_starts belowPlaced examined').1
    omega
  · intro first isFirst second isSecond precedes below inFirst other inSecond found examined found'
      examined'
    have placed := inside isFirst below inFirst
    obtain ⟨starts, some, before⟩ := header_starts placed examined
    obtain ⟨child, isChild⟩ := List.exists_mem_of_ne_nil _ some
    have beforeChild := before child isChild
    have otherStarts := (header_starts (inside isSecond other inSecond) examined').1
    have otherCovered := Node.span_covers (inside isSecond) inSecond
    have covered := Node.span_covers (inside isFirst) inFirst
    have childCovered := placed.children child isChild
    have := child.span.lo_le_hi
    rcases precedes with ends | ⟨_, flush⟩
    · omega
    · -- A flush tree has no loop in it, whose condition would start after the root.
      have := flush.2 child (Node.mem_walk_trans inFirst
        (Node.mem_walk_of_child isChild (Node.mem_walk_self child)))
      omega

/-- What is found in a loop has the header of the loop. -/
theorem loopSpan_of_mem_examineAll {resolver : Resolver} {crate : Crate} {found : Span × Verdict}
    {finding : Finding} (examined : found ∈ examineAll resolver crate)
    (isFinding : found.2.finding? = some finding) : finding.loopSpan = found.1 := by
  obtain ⟨node, _, isLoop⟩ := List.mem_filterMap.mp examined
  obtain ⟨header, verdict⟩ := found
  obtain ⟨origin, cond, body, label, _, told⟩ := examineLoop?_eq_some isLoop
  cases verdict <;> cases isFinding
  exact (examine_describes told).loopSpan

end Lint

/-! ## Diagnostics -/

namespace Checker

/-- A phase that puts nothing forward leaves what is put forward as it is. -/
theorem emitted_andThen {done next : Checking} (silent : next.emitted = []) :
    (done.andThen next).emitted = done.emitted := by
  unfold Checking.andThen
  split
  · rfl
  · rw [silent, List.append_nil]

/-- The checker puts forward what it diagnoses, if the types of the file are known. -/
theorem emitted_drainLoop (context : Context) :
    (drainLoop.examine context).emitted =
      if context.inference.fault?.isSome then []
      else (DrainLoop.work context .diagnose).emitted := by
  have reported : (drainLoop.perform context .report).emitted = [] := rfl
  refine (emitted_andThen reported).trans ?_
  unfold perform
  cases context.inference.fault? <;> rfl

namespace DrainLoop

/-- A diagnostic whose header starts before that of another one. -/
def HeaderBefore (first second : Diagnostic) : Prop :=
  ∀ label ∈ first.secondary, ∀ label' ∈ second.secondary, label.1.lo < label'.1.lo

theorem diagnose_ordered {context : Context} {findings : List Lint.Finding}
    (ordered : findings.Pairwise fun first second => first.loopSpan.lo < second.loopSpan.lo) :
    (diagnose context findings).1.Pairwise HeaderBefore := by
  induction findings with
  | nil => exact .nil
  | cons finding findings inductionHypothesis =>
    obtain ⟨first, rest⟩ := List.pairwise_cons.mp ordered
    rw [diagnose]
    cases made : diagnosticOf context finding with
    | error overlap => exact .nil
    | ok diagnostic =>
      refine List.pairwise_cons.mpr ⟨fun other told => ?_, inductionHypothesis rest⟩
      obtain ⟨later, listed, made'⟩ := exists_of_mem_diagnose told
      obtain ⟨_, rfl⟩ := diagnosticOf_eq made
      obtain ⟨_, rfl⟩ := diagnosticOf_eq made'
      simpa [HeaderBefore] using first later listed

end DrainLoop

/-- The diagnostics of the checker follow the headers of their loops, where no node of the file is
inverted. -/
theorem emitted_ordered {context : Context}
    (throughout : ∀ node ∈ context.crate.walk, node.WellPlaced)
    (upright : ∀ node ∈ context.crate.walk, node.isInverted = false) :
    (drainLoop.examine context).emitted.Pairwise DrainLoop.HeaderBefore := by
  rw [emitted_drainLoop]
  split
  · exact .nil
  · refine DrainLoop.diagnose_ordered (List.pairwise_filterMap.mpr ?_)
    have ordered := Lint.loops_ordered context.inference.tables.resolver throughout upright
    refine ordered.imp_of_mem fun isFirst isSecond less finding found finding' found' => ?_
    rwa [Lint.loopSpan_of_mem_examineAll isFirst found,
      Lint.loopSpan_of_mem_examineAll isSecond found']

end Checker

/-! ## Files that parse -/

namespace SourceFile

variable {source : SourceFile} {crate : Crate}

/-- Two loops, one in the other. -/
def uprightFile : SourceFile :=
  ⟨"upright.rs", "fn f() \x7b while a \x7b while b() \x7b\x7d \x7d \x7d".toList⟩

/-- In a file that parses, the children of a node follow the text just if the node is not inverted,
and a walk does just if no node on it is.  Where none is, the headers of the loops ascend, and so do
the headers of the diagnostics that are put forward. -/
theorem parse_orders (parsed : source.parse = .ok crate) :
    (∀ node ∈ crate.walk, node.children.Pairwise Node.NotAfter ↔ node.isInverted = false) ∧
    (∀ node ∈ crate.walk, node.walk.Pairwise Node.NotAfter ↔
      ∀ below ∈ node.walk, below.isInverted = false) ∧
    (∀ node ∈ crate.walk, (∀ below ∈ node.walk, below.isInverted = false) → ∀ resolver,
      (node.walk.filterMap (Lint.examineLoop? resolver)).Pairwise
        fun first second => first.1.lo < second.1.lo) ∧
    ((∀ node ∈ crate.walk, node.isInverted = false) → ∀ context : Context, context.crate = crate →
      (Checker.drainLoop.examine context).emitted.Pairwise Checker.DrainLoop.HeaderBefore) := by
  have throughout := parse_wellPlaced parsed
  have inside : ∀ {node}, node ∈ crate.walk → ∀ below ∈ node.walk, below.WellPlaced :=
    fun isNode below deeper => throughout below (Node.mem_walk_trans isNode deeper)
  refine ⟨fun node isNode => Node.children_ordered_iff (inside isNode),
    fun node isNode => Node.walk_ordered_iff (inside isNode),
    fun node isNode upright resolver => Lint.loops_ordered resolver (inside isNode) upright, ?_⟩
  rintro upright context rfl
  exact Checker.emitted_ordered throughout upright

theorem parse_orders_uprightFile : ∃ crate, uprightFile.parse = .ok crate ∧
    (∀ node ∈ crate.walk, node.isInverted = false) ∧
    (crate.walk.filter Node.isWhile).length = 2 ∧
    (∀ node ∈ crate.walk, node.children.Pairwise Node.NotAfter) ∧
    crate.walk.Pairwise Node.NotAfter ∧
    (∀ resolver, (crate.walk.filterMap (Lint.examineLoop? resolver)).Pairwise
      fun first second => first.1.lo < second.1.lo) ∧
    ∀ context : Context, context.crate = crate →
      (Checker.drainLoop.examine context).emitted.Pairwise Checker.DrainLoop.HeaderBefore := by
  have evaluated : uprightFile.crateNoted?.any (fun crate =>
      crate.walk.all (fun node => !node.isInverted) &&
        (crate.walk.filter Node.isWhile).length == 2) = true := by
    decide +kernel
  obtain ⟨crate, parsed, checked⟩ := parse_of_noted evaluated
  simp only [Bool.and_eq_true, List.all_eq_true, Bool.not_eq_true', beq_iff_eq] at checked
  obtain ⟨upright, loops⟩ := checked
  obtain ⟨children, walks, examined, emitted⟩ := parse_orders parsed
  have self : Node.crate crate ∈ crate.walk := Node.mem_walk_self _
  exact ⟨crate, parsed, upright, loops,
    fun node isNode => (children node isNode).mpr (upright node isNode),
    (walks _ self).mpr upright, examined _ self upright, emitted upright⟩

/-- An implementation of a trait. -/
def traitFile : SourceFile := ⟨"trait.rs", "impl T for S \x7b\x7d".toList⟩

/-- The implementation lists its type before the trait, which stands in front of the type, and so
does the walk. -/
theorem children_follow_fields_traitFile : ∃ crate, traitFile.parse = .ok crate ∧
    ∃ node ∈ crate.walk, ¬ node.children.Pairwise Node.NotAfter ∧
      ¬ node.walk.Pairwise Node.NotAfter := by
  have evaluated : traitFile.crateNoted?.any (fun crate => crate.walk.any fun node =>
      !decide (node.children.Pairwise Node.NotAfter) &&
        !decide (node.walk.Pairwise Node.NotAfter)) = true := by
    decide +kernel
  obtain ⟨crate, parsed, checked⟩ := parse_of_noted evaluated
  obtain ⟨node, isNode, checked⟩ := List.any_eq_true.mp checked
  simp only [Bool.and_eq_true, Bool.not_eq_true', decide_eq_false_iff_not] at checked
  exact ⟨crate, parsed, node, isNode, checked⟩

end SourceFile
end DrainLint
