import DrainLint.Proofs.Grammar.PlacedOperators

/-! # Placement of blocks and expressions

The rules of blocks, statements, control flow and the expressions that operators join.

- `splitTail_inText`: the tail of a block may be what its last statement holds;
- `blockRule_places`: a block starts before its statements;
- `itemStmts_inPlace`: items become statements after all of them are numbered;
- `whileRule_places`: the header of a loop starts before the condition and ends before the body.
-/

namespace DrainLint.Grammar

open Hir Peg List

set_option synthInstance.maxSize 1024

attribute [local simp] Node.children_eq Node.textChildren Node.textFields Node.fields Subperm.refl

/-! ## Blocks -/

instance : Places stmt := inferInstanceAs (Places (.rule .stmt))

theorem splitTail_inText {before after : Mark} {stmts : List Stmt} {tail : Option Expr}
    (placed : Node.InText before after (nodes stmts ++ nodes tail)) :
    Node.InText before after (nodes (splitTail stmts tail).1 ++ nodes (splitTail stmts tail).2) := by
  unfold splitTail
  split
  · exact placed
  · split
    · rename_i origin value last
      have parts : stmts = stmts.dropLast ++ [.expr origin value false] :=
        (List.dropLast_append_getLast? _ last).symm
      have listed : nodes stmts ++ nodes (none : Option Expr) =
          nodes stmts.dropLast ++ [.stmt (.expr origin value false)] := by
        rw [parts]
        simp
      rw [listed] at placed
      have front : Node.InPlace before after
          (.stmt (.expr origin value false) :: nodes stmts.dropLast) :=
        placed.inPlace.subperm (perm_append_singleton _ (nodes stmts.dropLast)).symm.subperm
      have value_mem : Node.expr value ∈ (Node.stmt (.expr origin value false)).children := by simp
      have starts := (front.head.children _ value_mem).1
      obtain ⟨ordered, _, precedes⟩ := List.pairwise_append.mp placed.ordered
      constructor
      · apply front.descend.subperm
        simpa using (perm_append_singleton _ (nodes stmts.dropLast)).subperm
      · -- What the last statement holds starts no earlier than the statement.
        refine List.pairwise_append.mpr
          ⟨ordered, pairwise_singleton _ _, fun node isNode other isTail => ?_⟩
        rw [List.mem_singleton.mp isTail]
        exact (precedes node isNode _ List.mem_cons_self).later starts
    · exact placed

theorem opened_reads {α : Type} [Carrier α] {sign : String} {piece : G α} [Places piece]
    {cursor after : Cursor} {last last' : Nat} {value : α}
    (reads : (sym sign *> ws *> piece).Reads placedRules cursor last value after last') :
    Carries ⟨cursor.offset + sign.toList.length, last⟩ ⟨after.offset, last'⟩ value := by
  obtain ⟨_, inside, between, _, ⟨_, _, _, _, ⟨count, scanned, rfl, rfl⟩, readsBlanks, rfl⟩,
    readsPiece, rfl⟩ := reads
  have length : count = sign.toList.length := word_count scanned
  obtain ⟨_, blanks⟩ := Places.places readsBlanks
  obtain ⟨_, carries⟩ := Places.places readsPiece
  have le := Carrier.le blanks
  rw [length] at le
  exact Carrier.widen carries le (Mark.le_refl _)

/-- A block starts before its statements, with its brace. -/
instance blockRule_places : Places blockRule where
  places := by
    rintro cursor last built after last' ⟨⟨span, make⟩, between, ⟨_, reads, same⟩, succeeded⟩
    obtain ⟨rfl, rfl⟩ := Prod.mk.inj same
    obtain ⟨rfl, rfl⟩ := Build.node_eq_ok.mp succeeded
    obtain ⟨_, beforeBrace, numbered, _, ⟨_, afterStmts, numbered', tail, ⟨stmts, _, readsStmts,
      mapped⟩, readsTail, rfl⟩, readsBrace, rfl⟩ := reads
    obtain ⟨rfl, rfl⟩ := Build.pure_eq_ok.mp mapped
    obtain ⟨staysStmts, _⟩ := Places.places readsStmts
    obtain ⟨staysTail, carriesTail⟩ := Places.places readsTail
    obtain ⟨staysBrace, carriesBrace⟩ := Places.places readsBrace
    have carriesStmts := opened_reads readsStmts
    have tailLe := Carrier.le carriesTail
    have braceLe := Carrier.le carriesBrace
    have stmtsLe := Carrier.le carriesStmts
    rw [Mark.le_iff] at tailLe braceLe stmtsLe
    have one : "\x7b".toList.length = 1 := by decide
    simp only [one] at tailLe braceLe stmtsLe carriesStmts
    have hi := Span.between_hi (show cursor.offset ≤ after.offset by omega)
    have placed := splitTail_inText
      ((Forest.all_inText (InRow.flatten carriesStmts)).append (Forest.inText carriesTail))
    simp only
    generalize splitTail stmts.flatten tail = parts at placed
    have whole := placed.inPlace.node (.expr (.block (.mk
      ⟨between + 1, Span.between cursor.offset after.offset⟩ parts.1 parts.2 false))) (by simp)
      (Nat.le_succ _) (by simp only [Node.span_expr, Expr.origin, Block.origin, hi]; exact braceLe.1)
      (Nat.lt_succ_of_le braceLe.2) (by
        intro stmt listed
        have spans := placed.inPlace.spans (.stmt stmt)
          (List.mem_append_left _ (List.mem_flatMap.mpr ⟨stmt, listed, List.mem_singleton_self _⟩))
        exact spans.1) (by
        simp only [Node.Filled, Node.span_expr, Expr.origin, Block.origin, Span.between_lo, hi]
        omega) (by simpa using placed.ordered)
    simp only [Node.span_expr, Node.id_expr, Expr.origin, Block.origin, hi] at whole
    exact ⟨by omega, whole⟩

instance : Places unsafeBlockRule := by
  have : Respects fun ((span, .mk o stmts tail _) : Span × Block) =>
      Block.mk ⟨o.id, span⟩ stmts tail true := by
    refine ⟨fun mark => ⟨Mark.le_refl mark, ?_⟩⟩
    rintro ⟨span, ⟨o, stmts, tail, isUnsafe⟩⟩ after ⟨starts, ends, filled, placed⟩
    have spans := placed.spans _ List.mem_cons_self
    have fields := placed.head.fields
    have wide : Node.InPlace mark after [.expr (.block (.mk o stmts tail isUnsafe))] :=
      placed.widen ⟨starts, Nat.le_refl _⟩ ⟨ends, Nat.le_refl _⟩
    exact wide.relabel (.expr (.block (.mk ⟨o.id, span⟩ stmts tail true))) (by simp) (by simp) rfl
      spans.1 spans.2 starts ends (fun stmt listed => Nat.lt_of_le_of_lt spans.1 (fields stmt listed)) filled
      (by simp)
  unfold unsafeBlockRule
  infer_instance

instance : Respects Expr.block := ⟨fun mark => ⟨Mark.le_refl mark, fun _ _ carries => carries⟩⟩

instance : Places blockLike := inferInstanceAs (Places (.rule .blockLike))

instance : Places blockExpr := by
  unfold blockExpr
  infer_instance

instance : Places unsafeBlock := by
  have : @Places Block _ (call .unsafeBlock) := inferInstanceAs (Places (.rule .unsafeBlock))
  exact @map_places _ _ _ _ Expr.block _ (call .unsafeBlock) this

instance : Places ifExpr := inferInstanceAs (Places (.rule .ifExpr))

instance : Places matchExpr := inferInstanceAs (Places (.rule .matchExpr))

instance : Places whileExpr := inferInstanceAs (Places (.rule .whileExpr))

instance : Places loopExpr := inferInstanceAs (Places (.rule .loopExpr))

instance : Places forExpr := inferInstanceAs (Places (.rule .forExpr))

instance : Places blockLikeRule := by
  unfold blockLikeRule
  infer_instance

/-! ## Statements -/

instance : Places letStmt := by
  have : Respects fun pat ty init els o => Stmt.letStmt o pat ty init els :=
    Makes.respects fun pat ty init els o => ⟨rfl, by simp, trivial⟩
  unfold letStmt
  infer_instance

/-- What is made over the first of some trees, with its span, in the place of the tree. -/
theorem wrapFirst_inPlace {σ τ : Type} [IsNode σ] [Solid σ] [IsNode τ] {make : Origin → τ} {inner : σ}
    {before after : Mark} {inners : List σ} {others : List Node} {built : τ} {last' : Nat}
    (placed : Node.InPlace before after (nodes (inner :: inners) ++ others))
    (succeeded : Build.node (toNode inner).span make after.number = .ok (built, last'))
    (wraps : ∀ o, (toNode (make o)).origin = o ∧ (toNode (make o)).children = [toNode inner] ∧
      (toNode (make o)).FieldsInPlace ∧ ∀ value, toNode (make o) ≠ .expr value) :
    Node.InPlace before ⟨after.offset, last'⟩ (nodes inners ++ (toNode built :: others)) := by
  obtain ⟨rfl, rfl⟩ := Build.node_eq_ok.mp succeeded
  obtain ⟨origin, children, fields, other⟩ := wraps ⟨after.number + 1, (toNode inner).span⟩
  generalize make ⟨after.number + 1, (toNode inner).span⟩ = node at *
  have front : Node.InPlace before after (toNode inner :: (nodes inners ++ others)) := by
    simpa using placed
  have filled := Solid.filled inner front.head.filled
  have wrapped := front.wrap (toNode node) children (by rw [Node.span, origin])
    (by rw [Node.id, origin]; exact Nat.lt_succ_self _) fields
    (.of_lt (by rw [Node.span, origin]; exact filled)) other
  rw [Node.id, origin] at wrapped
  exact wrapped.subperm perm_middle.subperm

/-- What is made over a tree, with its span, stands for the tree. -/
theorem wrapped_standsFor {σ τ : Type} [IsNode σ] [IsNode τ] {make : Origin → τ} {inner : σ}
    {built : τ} {last last' : Nat}
    (succeeded : Build.node (toNode inner).span make last = .ok (built, last'))
    (wraps : ∀ o, (toNode (make o)).origin = o ∧ (toNode (make o)).children = [toNode inner] ∧
      ∀ value, toNode (make o) ≠ .ty value) : (toNode built).StandsFor (toNode inner) := by
  obtain ⟨rfl, rfl⟩ := Build.node_eq_ok.mp succeeded
  obtain ⟨origin, children, other⟩ := wraps ⟨last + 1, (toNode inner).span⟩
  refine .of_below (by rw [Node.span, origin]) (fun below inside => ?_) other
  rwa [children, Node.walkAll_cons, Node.walkAll_nil, List.append_nil] at inside

/-- Statements that are built one by one over items that are all in place. -/
theorem itemStmts_inPlace {before after : Mark} {items : List Item} {others : List Node}
    {stmts : List Stmt} {last' : Nat} (placed : Node.InPlace before after (nodes items ++ others))
    (succeeded : Build.all (items.map fun item => Build.node item.origin.span (.item · item))
      after.number = .ok (stmts, last')) :
    Node.InPlace before ⟨after.offset, last'⟩ (nodes stmts ++ others) := by
  induction items generalizing after others stmts with
  | nil =>
    obtain ⟨rfl, rfl⟩ := Build.pure_eq_ok.mp succeeded
    exact placed
  | cons item items inductionHypothesis =>
    obtain ⟨first, between, made, succeeded⟩ := Build.bind_eq_ok.mp succeeded
    obtain ⟨rest, between', all, same⟩ := Build.bind_eq_ok.mp succeeded
    obtain ⟨rfl, rfl⟩ := Build.pure_eq_ok.mp same
    have wrapped := wrapFirst_inPlace placed made fun o => ⟨rfl, by simp, by trivial, by simp⟩
    have rested := inductionHypothesis wrapped all
    apply rested.subperm
    simpa using perm_middle.symm.subperm

theorem itemStmts_stand {items : List Item} {stmts : List Stmt} {last last' : Nat}
    (succeeded : Build.all (items.map fun item => Build.node item.origin.span (.item · item)) last =
      .ok (stmts, last')) :
    List.Forall₂ Node.StandsFor (nodes stmts) (nodes items) := by
  induction items generalizing last stmts with
  | nil =>
    obtain ⟨rfl, rfl⟩ := Build.pure_eq_ok.mp succeeded
    exact .nil
  | cons item items inductionHypothesis =>
    obtain ⟨first, between, made, succeeded⟩ := Build.bind_eq_ok.mp succeeded
    obtain ⟨rest, between', all, same⟩ := Build.bind_eq_ok.mp succeeded
    obtain ⟨rfl, rfl⟩ := Build.pure_eq_ok.mp same
    exact .cons (wrapped_standsFor made fun o => ⟨rfl, by simp, by simp⟩) (inductionHypothesis all)

/-- The items of a declaration are numbered before the statements over them. -/
instance : Places itemStmts := by
  refine Places.building fun {before after value built last'} carries succeeded => ?_
  have placed : Node.InPlace before after (nodes value ++ []) := by
    rw [List.append_nil]
    exact Forest.all_inPlace carries
  have wrapped := itemStmts_inPlace placed succeeded
  rw [List.append_nil] at wrapped
  have ordered := Node.pairwise_standsFor (Forest.all_inText carries).ordered
    (itemStmts_stand succeeded)
  exact ⟨wrapped, ordered⟩

instance : Places blockLikeStmt := by
  have : Respects fun value o => Stmt.expr o value false :=
    Makes.respects fun value o => ⟨rfl, by simp, trivial⟩
  unfold blockLikeStmt
  infer_instance

instance : Places semiStmt := by
  have : Respects fun value o => Stmt.expr o value true :=
    Makes.respects fun value o => ⟨rfl, by simp, trivial⟩
  unfold semiStmt
  infer_instance

instance : Places stmtRule := by
  unfold stmtRule
  infer_instance

/-! ## Control flow -/

instance : Places label := by
  unfold label
  infer_instance

instance : Places letCond := by
  have : Respects fun pat init o => Expr.letCond o pat init :=
    Makes.respects fun pat init o => ⟨rfl, by simp, trivial⟩
  unfold letCond
  infer_instance

instance : Places cond := by
  unfold cond
  infer_instance

instance : Places ifRule := by
  have : Respects fun cond onTrue onFalse o => Expr.ite o cond onTrue onFalse :=
    Makes.respects fun cond onTrue onFalse o => ⟨rfl, by simp, trivial⟩
  unfold ifRule
  infer_instance

theorem header_reads {cursor after : Cursor} {last last' : Nat} {header : Span} {test : Expr}
    (reads : (Peg.spanned (kw "while" *> ws *> cond)).Reads placedRules cursor last (header, test)
      after last') :
    header.lo = cursor.offset ∧ header.hi = after.offset ∧ header.lo < test.origin.span.lo ∧
      test.origin.span.hi ≤ header.hi := by
  obtain ⟨_, ⟨_, afterBlanks, between, _, ⟨_, _, _, _, ⟨count, scanned, rfl, rfl⟩, readsBlanks, rfl⟩,
    readsTest, rfl⟩, same⟩ := reads
  obtain ⟨rfl, rfl⟩ := Prod.mk.inj same
  have five : count = 5 := wholeWord_count scanned
  obtain ⟨_, blanks⟩ := Places.places readsBlanks
  obtain ⟨_, placed⟩ := Places.places readsTest
  have inside := placed.spans _ List.mem_cons_self
  have afterWord := (Carrier.le blanks).1
  have forward := placed.le.1
  simp only [Cursor.advance, toNode_expr, Node.span_expr] at inside afterWord forward
  have hi := Span.between_hi (show cursor.offset ≤ after.offset by omega)
  refine ⟨rfl, hi, ?_, by rw [hi]; exact inside.2⟩
  simp only [Span.between_lo]
  omega

/-- The header of a loop starts before its condition and ends before its body. -/
instance whileRule_places : Places whileRule where
  places := by
    rintro cursor last built after last' ⟨⟨span, make⟩, between, ⟨_, reads, same⟩, succeeded⟩
    obtain ⟨rfl, rfl⟩ := Prod.mk.inj same
    obtain ⟨rfl, rfl⟩ := Build.node_eq_ok.mp succeeded
    obtain ⟨_, beforeBody, numbered, body, ⟨_, afterHeader, numbered', _, readsHeader, readsBlanks, rfl⟩,
      readsBody, rfl⟩ := reads
    obtain ⟨_, afterLabel, numbered'', ⟨header, test⟩, ⟨name, _, readsLabel, named⟩, readsHeader,
      rfl⟩ := readsHeader
    obtain ⟨rfl, rfl⟩ := Build.pure_eq_ok.mp named
    obtain ⟨staysLabel, carriesLabel⟩ := Places.places readsLabel
    obtain ⟨staysHeader, carriesHeader⟩ := Places.places readsHeader
    obtain ⟨staysBlanks, carriesBlanks⟩ := Places.places readsBlanks
    obtain ⟨staysBody, carriesBody⟩ := Places.places readsBody
    obtain ⟨starts, ends, beforeTest, afterTest⟩ := header_reads readsHeader
    have labelLe := Carrier.le carriesLabel
    have blanksLe := Carrier.le carriesBlanks
    have bodyLe := Carrier.le carriesBody
    obtain ⟨headerStarts, headerEnds, headerFilled, test⟩ := carriesHeader
    have testLe := test.le
    rw [Mark.le_iff] at labelLe blanksLe bodyLe testLe
    simp only at labelLe blanksLe bodyLe testLe headerStarts headerEnds headerFilled
    have hi := Span.between_hi (show cursor.offset ≤ after.offset by omega)
    have testPlaced : Node.InPlace ⟨cursor.offset, last⟩ ⟨beforeBody.offset, numbered⟩ [.expr _] :=
      test.widen ⟨by simp only; omega, by simp only; omega⟩ ⟨by simp only; omega, by simp only; omega⟩
    have bodySpan := carriesBody.spans _ List.mem_cons_self
    simp only [toNode_block, Node.span_expr] at bodySpan
    have parts := (Node.InText.single testPlaced).append (.single carriesBody)
    have whole := parts.inPlace.node
      (.expr (.whileLoop ⟨between + 1, Span.between cursor.offset after.offset⟩ _ body header name))
      (by simp) (Nat.le_refl _) (Nat.le_of_eq hi.symm) (Nat.lt_succ_self _)
      ⟨by simp only [Span.between_lo]; omega, beforeTest, afterTest, by
        have := bodySpan.1
        simp only [Expr.origin] at this
        omega⟩ (by
        simp only [Node.Filled, Node.span_expr, Expr.origin, Span.between_lo, hi]
        omega) (by simpa using parts.ordered)
    simp only [Node.span_expr, Expr.origin, hi] at whole
    exact ⟨by omega, whole⟩

instance : Places loopRule := by
  have : Respects fun label body o => Expr.loop o body label :=
    Makes.respects fun label body o => ⟨rfl, by simp, trivial⟩
  unfold loopRule
  infer_instance

instance : Places forRule := by
  have : Respects fun label pat iter body o => Expr.forLoop o pat iter body label :=
    Makes.respects fun label pat iter body o => ⟨rfl, by simp, trivial⟩
  unfold forRule
  infer_instance

instance : Places armBody := by
  unfold armBody
  infer_instance

instance : Places matchArm := by
  have : Respects fun pat guard body o => Arm.mk o pat guard body :=
    Makes.respects fun pat guard body o => ⟨rfl, by simp, trivial⟩
  unfold matchArm
  infer_instance

instance : Places matchRule := by
  have : Respects fun scrutinee arms o => Expr.matchArms o scrutinee arms :=
    Makes.respects fun scrutinee arms o => ⟨rfl, by simp, trivial⟩
  unfold matchRule
  infer_instance

instance : Places returnExpr := by
  have : Respects fun value o => Expr.returnFn o value :=
    Makes.respects fun value o => ⟨rfl, by simp, trivial⟩
  have : Advances (kw "return") := kw_advances (by decide)
  unfold returnExpr
  infer_instance

instance : Places breakExpr := by
  have : Respects fun label value o => Expr.breakLoop o label value :=
    Makes.respects fun label value o => ⟨rfl, by simp, trivial⟩
  have : Advances (kw "break") := kw_advances (by decide)
  unfold breakExpr
  infer_instance

instance : Places continueExpr := by
  have : Respects fun label o => Expr.continueLoop o label :=
    Makes.respects fun label o => ⟨rfl, by simp, trivial⟩
  have : Advances (kw "continue") := kw_advances (by decide)
  unfold continueExpr
  infer_instance

/-! ## Closures -/

instance : Places closureParam := by
  have : Respects fun pat ty o => Param.mk o pat ty :=
    Makes.respects fun pat ty o => ⟨rfl, by simp, trivial⟩
  unfold closureParam
  infer_instance

instance : Places closureParams := by
  unfold closureParams
  infer_instance

instance : Places closureBody := by
  have : Respects fun (ret : Ty) (body : Expr) => (some ret, body) := by
    refine ⟨fun mark => ⟨Mark.le_refl mark, fun ret middle carriesRet => ?_⟩⟩
    exact ⟨Carrier.le carriesRet, fun body after carriesBody => ⟨middle, carriesRet, carriesBody⟩⟩
  have : Respects fun body : Expr => ((none : Option Ty), body) :=
    ⟨fun mark => ⟨Mark.le_refl mark, fun _ _ carries => ⟨mark, Mark.le_refl mark, carries⟩⟩⟩
  unfold closureBody
  infer_instance

instance : Advances closureBody := by
  unfold closureBody
  infer_instance

instance : Places closure := by
  have : @Respects (Bool → List Param → Option Ty × Expr → Origin → Expr) _
      fun isMove params (ret, body) o => .closure o params body ret isMove :=
    Makes.respects fun isMove params parts o => ⟨rfl, by simp, trivial⟩
  unfold closure
  infer_instance

/-! ## Struct literals, macro calls and paths -/

instance : Places pathExpr := inferInstanceAs (Places (.rule .pathExpr))

instance : Places macroBody := inferInstanceAs (Places (.rule .macroBody))

instance : Places fullField := by
  have : Respects fun name value => FieldInit.mk name value := by
    refine ⟨fun mark => ⟨Mark.le_refl mark, fun name middle carriesName => ?_⟩⟩
    exact ⟨carriesName, fun value after carries =>
      Carrier.widen carries carriesName (Mark.le_refl _)⟩
  unfold fullField
  infer_instance

instance : Places structField := by
  refine Places.building fun {before after value built last'} carries succeeded => ?_
  obtain ⟨span, name, value?⟩ := value
  obtain ⟨starts, ends, filled, middle, plain, carries⟩ := carries
  have placed : Node.InText ⟨span.lo, before.number⟩ ⟨span.hi, after.number⟩ (nodes value?) :=
    (Forest.inText carries).widen plain (Mark.le_refl _)
  cases value? with
  | some value =>
    obtain ⟨rfl, rfl⟩ := Build.pure_eq_ok.mp succeeded
    exact placed.inPlace.widen ⟨starts, Nat.le_refl _⟩ ⟨ends, Nat.le_refl _⟩
  | none =>
    obtain ⟨path, between, made, same⟩ := Build.bind_eq_ok.mp succeeded
    obtain ⟨rfl, rfl⟩ := Build.pure_eq_ok.mp same
    have makes : Makes [] fun o => Expr.path o [name] [] := fun o => ⟨rfl, by simp, trivial⟩
    have carried := Makes.node_carries _ _ makes placed starts ends filled made
    exact carried

instance : Places structBody := by
  have : Respects fun (first : FieldInit) rest (base : Option Expr) => (first :: rest, base) := by
    refine ⟨fun mark => ⟨Mark.le_refl mark, fun first next carriesFirst => ?_⟩⟩
    refine ⟨Carrier.le carriesFirst, fun rest middle carriesRest => ?_⟩
    have fields := Forest.all_cons carriesFirst carriesRest
    exact ⟨(Forest.all_inPlace fields).le, fun base after carriesBase =>
      ⟨middle, fields, carriesBase⟩⟩
  have : Respects fun base : Expr => (([] : List FieldInit), some base) :=
    ⟨fun mark => ⟨Mark.le_refl mark, fun _ _ carries =>
      ⟨mark, Forest.all_nil (Mark.le_refl mark), carries⟩⟩⟩
  unfold structBody
  infer_instance

instance : Places structLit := by
  have : @Respects (PathNode → List FieldInit × Option Expr → Origin → Expr) _
      fun path (fields, base) o => .structLit o path.segments fields base :=
    Makes.respects fun path parts o => ⟨rfl, by simp, trivial⟩
  unfold structLit
  infer_instance

instance : Places macroBodyRule := by
  have : ∀ opening closing, Places (macroArgs opening closing) := by
    intro opening closing
    have : Respects fun args => MacroBody.mk opening args none :=
      ⟨fun mark => ⟨Mark.le_refl mark, fun _ _ carries => carries⟩⟩
    unfold macroArgs
    dsimp only
    infer_instance
  have : ∀ opening closing, Places (macroTokens opening closing) := by
    intro opening closing
    have : Respects fun ((text, _) : List Char × Unit) =>
        MacroBody.mk opening [] (some (String.ofList (text.drop 1).dropLast)) :=
      ⟨fun mark => ⟨Mark.le_refl mark, fun _ _ carries => .nil (Carrier.le carries)⟩⟩
    unfold macroTokens
    infer_instance
  unfold macroBodyRule
  infer_instance

instance : Places macroCall := by
  have : Respects fun path (body : MacroBody) o =>
      Expr.macroCall o path body.args body.delimiter body.tokens :=
    Makes.respects fun path body o => ⟨rfl, by simp, trivial⟩
  unfold macroCall
  infer_instance

instance : Forest PathSegment :=
  .inRow {
    Carries before after segment := Carries before after segment.argList
    le := Carrier.le
    widen := Carrier.widen } (fun segment => nodes segment.argList)
    (fun {_ _ segment} carries =>
      Forest.inText (show Carries _ _ segment.argList from carries))

instance : Places pathExprRule := by
  have : Respects PathSegment.args := ⟨fun mark => ⟨Mark.le_refl mark, fun _ _ carries => carries⟩⟩
  have : Respects PathSegment.name :=
    ⟨fun mark => ⟨Mark.le_refl mark, fun _ _ carries => .nil carries⟩⟩
  have : Respects fun (first : String) (rest : List PathSegment) o =>
      (⟨o, first :: rest.filterMap PathSegment.name?, rest.flatMap PathSegment.argList⟩ :
        PathNode) := by
    refine Makes.respects fun first rest o => ⟨rfl, ?_, trivial⟩
    have held : (rest.flatMap PathSegment.argList).flatMap (fun ty => [Node.ty ty]) <+
        nodes rest := by
      rw [List.flatMap_assoc]
      rfl
    simpa [PathNode.expr] using held
  unfold pathExprRule
  infer_instance

instance : Places parenExpr := parenthesized_places fun values o => ⟨rfl, by simp, trivial⟩

instance : Places arrayExpr := by
  have : Respects fun elem count o => Expr.arrayRepeat o elem count :=
    Makes.respects fun elem count o => ⟨rfl, by simp, trivial⟩
  have : Respects fun elems o => Expr.array o elems :=
    Makes.respects fun elems o => ⟨rfl, by simp, trivial⟩
  unfold arrayExpr
  infer_instance

instance : Places primaryRule := by
  have : Respects PathNode.expr := ⟨fun mark => ⟨Mark.le_refl mark, fun _ _ carries => carries⟩⟩
  unfold primaryRule
  infer_instance

end DrainLint.Grammar
