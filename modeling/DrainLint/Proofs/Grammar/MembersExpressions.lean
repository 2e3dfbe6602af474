import DrainLint.Proofs.Grammar.MembersParts

/-! # Members, blocks and fields in expressions

Operators, statements, control flow and closures make no nodes with contents of their own either;
blocks have the statements that are written in their place, and the fields of a chain the names.

- `joinOperands_bears`, `foldLinks_bears`: the folds of operands, of casts and of links;
- `fieldRead_of_links`: the names that are read in a chain;
- `itemStmts`: items in the place of a statement keep the members they have.
-/

namespace DrainLint.Grammar

open Hir Peg List

set_option synthInstance.maxSize 1024

attribute [local simp] Node.children_eq Node.fields

variable {text : List Char}

/-! ## Binary operators -/

/-- Whether the expressions of operands that wait bear a text out. -/
def PendingBear (text : List Char) (pending : List (Operand × BinaryOp)) : Prop :=
  AllWritten text (pending.map fun waits => .expr waits.1.expr)

theorem joined_bears {lhs rhs whole : Operand} {op : BinaryOp} {last last' : Nat}
    (left : AllWritten text [.expr lhs.expr]) (right : AllWritten text [.expr rhs.expr])
    (succeeded : lhs.joined op rhs last = .ok (whole, last')) :
    AllWritten text [.expr whole.expr] := by
  obtain ⟨expr, between, built, same⟩ := Build.bind_eq_ok.mp succeeded
  obtain ⟨rfl, rfl⟩ := Build.pure_eq_ok.mp same
  obtain ⟨rfl, rfl⟩ := Build.node_eq_ok.mp built
  exact (allWritten_append.mpr ⟨left, right⟩).over (by simp) (.of_empty rfl)

theorem reduceWhile_bears {precedence : Nat} {pending : List (Operand × BinaryOp)}
    {operand : Operand} {reduced : List (Operand × BinaryOp) × Operand} {last last' : Nat}
    (waiting : PendingBear text pending) (right : AllWritten text [.expr operand.expr])
    (succeeded : reduceWhile precedence pending operand last = .ok (reduced, last')) :
    PendingBear text reduced.1 ∧ AllWritten text [.expr reduced.2.expr] := by
  induction pending generalizing operand last with
  | nil =>
    obtain ⟨rfl, rfl⟩ := Build.pure_eq_ok.mp succeeded
    exact ⟨waiting, right⟩
  | cons head pending inductionHypothesis =>
    obtain ⟨lhs, op⟩ := head
    have both : AllWritten text ([.expr lhs.expr] ++ pending.map fun waits => .expr waits.1.expr) :=
      waiting
    obtain ⟨left, rest⟩ := allWritten_append.mp both
    simp only [reduceWhile] at succeeded
    split at succeeded
    · obtain ⟨whole, between, joined, succeeded⟩ := Build.bind_eq_ok.mp succeeded
      exact inductionHypothesis rest (joined_bears left right joined) succeeded
    · obtain ⟨rfl, rfl⟩ := Build.pure_eq_ok.mp succeeded
      exact ⟨waiting, right⟩

theorem joinOperands_bears {pending : List (Operand × BinaryOp)} {operand whole : Operand}
    {rest : List (BinaryOp × Operand)} {last last' : Nat} (waiting : PendingBear text pending)
    (right : AllWritten text [.expr operand.expr]) (later : AllWritten text (nodes rest))
    (succeeded : joinOperands pending operand rest last = .ok (whole, last')) :
    AllWritten text [.expr whole.expr] := by
  induction rest generalizing pending operand last with
  | nil =>
    obtain ⟨reduced, between, reduces, same⟩ := Build.bind_eq_ok.mp succeeded
    obtain ⟨rfl, rfl⟩ := Build.pure_eq_ok.mp same
    exact (reduceWhile_bears waiting right reduces).2
  | cons head rest inductionHypothesis =>
    obtain ⟨op, next⟩ := head
    obtain ⟨reduced, between, reduces, succeeded⟩ := Build.bind_eq_ok.mp succeeded
    obtain ⟨stillWaiting, left⟩ := reduceWhile_bears waiting right reduces
    obtain ⟨nextBears, restBears⟩ := allWritten_append.mp later
    have both : PendingBear text ((reduced.2, op) :: reduced.1) :=
      (allWritten_append.mpr ⟨left, stillWaiting⟩ : AllWritten text ([.expr reduced.2.expr] ++ _))
    exact inductionHypothesis both nextBears restBears succeeded

instance : @Honest text Expr _ (call .operand) := inferInstanceAs (Honest text (.rule .operand))

instance : Honest text operand := by
  refine Honest.building fun {value last built last'} bears succeeded => ?_
  obtain ⟨rfl, rfl⟩ := Build.pure_eq_ok.mp succeeded
  exact bears

instance : Honest text binaryRule := by
  refine Honest.building fun {value last built last'} bears succeeded => ?_
  obtain ⟨first, rest⟩ := value
  obtain ⟨whole, joined, rfl⟩ := Build.map_eq_ok.mp succeeded
  obtain ⟨firstBears, restBears⟩ := allWritten_append.mp bears
  have none : PendingBear text [] := AllWritten.nil
  exact joinOperands_bears none firstBears restBears joined

instance : Honest text binary := inferInstanceAs (Honest text (.rule .binary))

/-! ## Ranges and assignments -/

instance : Honest text range := by
  have : Faithful text fun (start : Expr) inclusive stop o =>
      Expr.range o (some start) stop inclusive :=
    Gathers.faithful fun start inclusive stop o => ⟨by simp, rfl⟩
  have : Faithful text fun inclusive stop o => Expr.range o none stop inclusive :=
    Gathers.faithful fun inclusive stop o => ⟨by simp, rfl⟩
  unfold range
  infer_instance

instance : Honest text exprRule := by
  refine Honest.building fun {value last built last'} bears succeeded => ?_
  obtain ⟨span, target, assigned⟩ := value
  have parts : AllWritten text (nodes (target, assigned)) := bears
  simp only at succeeded
  split at succeeded
  · obtain ⟨rfl, rfl⟩ := Build.pure_eq_ok.mp succeeded
    exact parts.mono (by simp)
  · obtain ⟨rfl, rfl⟩ := Build.node_eq_ok.mp succeeded
    exact parts.over (by simp) (.of_empty rfl)

/-! ## Casts and links -/

theorem foldLinks_bears {α : Type} [Forest α] {make : Expr → α → Origin → Expr}
    (extending : Extends make) {lo : Nat} {base built : Expr} {links : List (Span × α)}
    {last last' : Nat}
    (own : ∀ read ∈ links, ∀ base id,
      AsWritten text (.expr (make base read.2 ⟨id, Span.between lo read.1.hi⟩)))
    (bears : AllWritten text (.expr base :: nodes links))
    (succeeded : foldLinks make lo base links last = .ok (built, last')) :
    AllWritten text [.expr built] := by
  induction links generalizing base last with
  | nil =>
    obtain ⟨rfl, rfl⟩ := Build.pure_eq_ok.mp succeeded
    exact bears
  | cons head rest inductionHypothesis =>
    obtain ⟨span, link⟩ := head
    rw [List.forall_mem_cons] at own
    obtain ⟨linked, between, made, succeeded⟩ := Build.bind_eq_ok.mp succeeded
    obtain ⟨rfl, rfl⟩ := Build.node_eq_ok.mp made
    have both : AllWritten text ((.expr base :: nodes link) ++ nodes rest) := bears
    obtain ⟨front, restBears⟩ := allWritten_append.mp both
    have joined : AllWritten text
        [.expr (make base link ⟨last + 1, Span.between lo span.hi⟩)] :=
      front.over (Node.children_subperm (extending.children base link _)).subset (own.1 base _)
    exact inductionHypothesis own.2 (allWritten_append.mpr ⟨joined, restBears⟩) succeeded

instance : Honest text unary := inferInstanceAs (Honest text (.rule .unary))

instance : Honest text operandRule := by
  refine Honest.building fun {value last built last'} bears succeeded => ?_
  obtain ⟨span, operand, casts⟩ := value
  have folded := congrFun (castAll_eq span.lo operand casts) last
  exact foldLinks_bears cast_extends (fun _ _ _ _ => .of_empty rfl) bears
    (folded.symm.trans succeeded)

instance : @Honest text Expr _ (call .chain) := inferInstanceAs (Honest text (.rule .chain))

instance : Honest text unaryRule := by
  have : Faithful text markedExpr := Gathers.faithful fun mark operand o => by
    cases mark with
    | borrow | op => exact ⟨by simp [markedExpr], rfl⟩
  have marked : Honest text (node (markedExpr <$> .token unaryMark <* ws <*> unary)) :=
    inferInstance
  exact @choice_honest _ _ _ _ (call .chain) marked inferInstance

instance : Honest text callArguments := by
  unfold callArguments
  infer_instance

instance : Honest text methodLink := by
  have : Faithful text fun ((nameSpan, name) : Span × String) (genericArgs : List Ty)
      (args : List Expr) => Link.method name nameSpan genericArgs args :=
    Gathers.faithful fun named genericArgs args => by simp [nodes]
  unfold methodLink
  infer_instance

instance : Honest text fieldLink := by
  have : Faithful text Link.field := Gathers.faithful fun name => by simp [nodes]
  unfold fieldLink
  infer_instance

instance : Honest text indexLink := by
  have : Faithful text Link.index := Gathers.faithful fun index => by simp [nodes]
  unfold indexLink
  infer_instance

instance : Honest text link := by
  have : Faithful text Link.call := Gathers.faithful fun args => by simp [nodes]
  have : Faithful text fun (_ : Unit) => Link.question := Gathers.faithful fun _ => by simp [nodes]
  unfold link
  infer_instance

instance : @Honest text Expr _ (call .primary) := inferInstanceAs (Honest text (.rule .primary))

theorem fieldLink_of_link {cursor after : Cursor} {last last' : Nat} {name : String}
    (reads : link.Reads (Readable rules) cursor last (.field name) after last') :
    fieldLink.Reads (Readable rules) cursor last (.field name) after last' := by
  simp only [link, methodLink, indexLink, reads_orElse_iff, reads_seq_iff, reads_seqLeft_iff,
    reads_map_iff] at reads
  rcases reads with
    ⟨_, _, _, _, ⟨_, _, _, _, ⟨_, _, _, ⟨_, _, rfl⟩, _⟩, _, rfl⟩, _, same⟩ | field | other
  · cases same
  · exact field
  · rcases other with ⟨_, _, same⟩ | ⟨_, _, same⟩ | ⟨_, _, same⟩ <;> cases same

/-- The name of every field in a chain is read right before where the link ends. -/
theorem fieldRead_of_links {cursor after : Cursor} {last last' : Nat} {links : List (Span × Link)}
    (on : cursor.On text)
    (reads : (Peg.many (ws *> .spanned link) : G _).Reads (borneRules text) cursor last links after
      last') :
    ∀ read ∈ links, cursor.offset ≤ read.1.hi ∧
      ∀ name, read.2 = .field name → FieldRead text read.1.hi name := by
  change Repeats _ cursor last links after last' at reads
  induction reads with
  | nil => nofun
  | @cons cursor middle after last between last' head links readsHead _ inductionHypothesis =>
    have onMiddle := on.of_reaches (reaches_of_borne readsHead)
    have passed := (reaches_of_borne readsHead).offset_le
    obtain ⟨start, before, _, blanks, value, readsLink, rfl⟩ := reads_seqRight_iff.mp readsHead
    have stop := Span.between_hi (reaches_of_borne readsLink).offset_le
    rw [List.forall_mem_cons]
    constructor
    · refine ⟨Nat.le_trans passed (Nat.le_of_eq stop.symm), fun name isField => ?_⟩
      obtain rfl : value = .field name := isField
      exact ⟨on.of_reaches (reaches_of_borne blanks),
        fieldLink_of_link (readable_of_borne readsLink), stop.symm⟩
    · intro read later
      obtain ⟨ends, named⟩ := inductionHypothesis onMiddle read later
      exact ⟨Nat.le_trans passed ends, named⟩

instance : Honest text chainRule where
  borne := by
    rintro cursor last built after last' ⟨_, between, reads, succeeded⟩ on
    have bears := Honest.borne reads on
    obtain ⟨_, readsChain, rfl⟩ := reads
    obtain ⟨_, middle, _, links, readsBase, readsLinks, rfl⟩ := reads_seq_iff.mp readsChain
    obtain ⟨operand, readsPrimary, rfl⟩ := reads_map_iff.mp readsBase
    have reaches := reaches_of_borne readsPrimary
    have named := fieldRead_of_links (on.of_reaches reaches) readsLinks
    refine foldLinks_bears link_extends (fun read listed base id => ?_) bears
      ((congrFun (linkAll_eq _ _ _) between).symm.trans succeeded)
    obtain ⟨ends, isName⟩ := named read listed
    cases isLink : read.2 with
    | field name =>
      have stop : (Span.between cursor.offset read.1.hi).hi = read.1.hi :=
        Span.between_hi (Nat.le_trans reaches.offset_le ends)
      exact .of_field (stop.symm ▸ isName name isLink)
    | _ => exact .of_empty rfl

instance : Honest text exprListRule := inferInstanceAs (Honest text (commaList expr))

/-! ## Blocks -/

instance : Honest text stmt := inferInstanceAs (Honest text (.rule .stmt))

/-- The tail of a block may be what its last statement holds. -/
theorem splitTail_bears {stmts : List Stmt} {tail : Option Expr}
    (bears : AllWritten text (nodes stmts ++ nodes tail)) :
    AllWritten text (nodes (splitTail stmts tail).1 ++ nodes (splitTail stmts tail).2) := by
  unfold splitTail
  split
  · exact bears
  · split
    · rename_i origin value last
      have parts : stmts = stmts.dropLast ++ [.expr origin value false] :=
        (List.dropLast_append_getLast? _ last).symm
      rw [parts] at bears
      have separate : AllWritten text
          (nodes stmts.dropLast ++ [.stmt (.expr origin value false)]) := by simpa using bears
      obtain ⟨front, final⟩ := allWritten_append.mp separate
      have inside : AllWritten text [.expr value] := by simpa using final.children
      exact allWritten_append.mpr ⟨front, inside⟩
    · exact bears

instance : Honest text blockRule where
  borne := by
    intro cursor last block after last' reads on
    have readable := readable_of_borne reads
    simp only [blockRule, reads_node_iff, reads_seqLeft_iff, reads_seq_iff, reads_map_iff] at reads
    obtain ⟨_, between, ⟨_, _, _, ⟨_, _, _, tail, ⟨found, readsFront, rfl⟩, readsTail, rfl⟩, _⟩, rfl,
      -⟩ := reads
    have front : AllWritten text (nodes found) := Honest.borne readsFront on
    have final : AllWritten text (nodes tail) :=
      Honest.borne readsTail (on.of_reaches (reaches_of_borne readsFront))
    rw [← nodes_flatten] at front
    have split := splitTail_bears (allWritten_append.mpr ⟨front, final⟩)
    have opens : blockOpening.Reads (Readable rules) cursor last () cursor last :=
      reads_map_iff.mpr ⟨none, .inr ⟨rfl, rfl, rfl⟩, rfl⟩
    exact split.over (by simp) (.of_block (.of_reads on opens readable rfl rfl rfl))

instance : Honest text unsafeBlockRule where
  borne := by
    intro cursor last built after last' reads on
    simp only [unsafeBlockRule, reads_map_iff] at reads
    obtain ⟨_, ⟨block, reads, rfl⟩, rfl⟩ := reads
    obtain ⟨brace, between, _, readsKeyword, readable, borne⟩ := reads_seqRight_iff.mp reads
    obtain ⟨o, stmts, tail, isUnsafe⟩ := block
    have inside : AllWritten text [.expr (.block (.mk o stmts tail isUnsafe))] :=
      borne (on.of_reaches (reaches_of_borne readsKeyword))
    have opens : blockOpening.Reads (Readable rules) cursor last () brace between :=
      reads_map_iff.mpr ⟨some (), .inl ⟨(), readable_of_borne readsKeyword, rfl⟩, rfl⟩
    exact inside.children.over (by simp)
      (.of_block (.of_reads on opens readable.reads rfl rfl rfl))

instance : Faithful text Expr.block := ⟨fun _ bears => bears⟩

instance : Honest text blockLike := inferInstanceAs (Honest text (.rule .blockLike))

instance : Honest text blockExpr := by
  unfold blockExpr
  infer_instance

instance : Honest text unsafeBlock := by
  have : @Honest text Block _ (call .unsafeBlock) :=
    inferInstanceAs (Honest text (.rule .unsafeBlock))
  exact @map_honest _ _ _ _ _ Expr.block _ (call .unsafeBlock) this

instance : Honest text ifExpr := inferInstanceAs (Honest text (.rule .ifExpr))

instance : Honest text matchExpr := inferInstanceAs (Honest text (.rule .matchExpr))

instance : Honest text whileExpr := inferInstanceAs (Honest text (.rule .whileExpr))

instance : Honest text loopExpr := inferInstanceAs (Honest text (.rule .loopExpr))

instance : Honest text forExpr := inferInstanceAs (Honest text (.rule .forExpr))

instance : Honest text blockLikeRule := by
  unfold blockLikeRule
  infer_instance

/-! ## Statements -/

instance : Honest text letStmt := by
  have : Faithful text fun pat ty init els o => Stmt.letStmt o pat ty init els :=
    Gathers.faithful fun pat ty init els o => ⟨by simp, rfl⟩
  unfold letStmt
  infer_instance

theorem itemStmts_bears {items : List Item} {stmts : List Stmt} {last last' : Nat}
    (bears : AllWritten text (nodes items))
    (succeeded : Build.all (items.map fun item => Build.node item.origin.span (.item · item))
      last = .ok (stmts, last')) : AllWritten text (nodes stmts) := by
  induction items generalizing last stmts with
  | nil =>
    obtain ⟨rfl, rfl⟩ := Build.pure_eq_ok.mp succeeded
    exact .nil
  | cons item items inductionHypothesis =>
    obtain ⟨first, between, made, succeeded⟩ := Build.bind_eq_ok.mp succeeded
    obtain ⟨rest, between', all, same⟩ := Build.bind_eq_ok.mp succeeded
    obtain ⟨rfl, rfl⟩ := Build.pure_eq_ok.mp same
    obtain ⟨rfl, rfl⟩ := Build.node_eq_ok.mp made
    obtain ⟨itemBears, itemsBear⟩ := allWritten_append.mp bears
    exact allWritten_append.mpr
      ⟨itemBears.over (by simp) (.of_empty rfl), inductionHypothesis itemsBear all⟩

instance : Honest text itemStmts := Honest.building itemStmts_bears

instance : Honest text continuation := inferInstanceAs (Honest text (.token _))

instance : Honest text blockLikeStmt := by
  have : Faithful text fun value o => Stmt.expr o value false :=
    Gathers.faithful fun value o => ⟨by simp, rfl⟩
  unfold blockLikeStmt
  infer_instance

instance : Honest text semiStmt := by
  have : Faithful text fun value o => Stmt.expr o value true :=
    Gathers.faithful fun value o => ⟨by simp, rfl⟩
  unfold semiStmt
  infer_instance

instance : Honest text stmtRule := by
  unfold stmtRule
  infer_instance

/-! ## Control flow -/

instance : Honest text label := by
  unfold label
  infer_instance

instance : Honest text letCond := by
  have : Faithful text fun pat init o => Expr.letCond o pat init :=
    Gathers.faithful fun pat init o => ⟨by simp, rfl⟩
  unfold letCond
  infer_instance

instance : Honest text cond := by
  unfold cond
  infer_instance

instance : Honest text ifRule := by
  have : Faithful text fun cond onTrue onFalse o => Expr.ite o cond onTrue onFalse :=
    Gathers.faithful fun cond onTrue onFalse o => ⟨by simp, rfl⟩
  unfold ifRule
  infer_instance

instance : Honest text whileRule := by
  have : @Faithful text (Option String → Span × Expr → Block → Origin → Expr) _
      fun label (header, cond) body o => .whileLoop o cond body header label :=
    Gathers.faithful fun label headed body o => ⟨by simp, rfl⟩
  unfold whileRule
  infer_instance

instance : Honest text loopRule := by
  have : Faithful text fun label body o => Expr.loop o body label :=
    Gathers.faithful fun label body o => ⟨by simp, rfl⟩
  unfold loopRule
  infer_instance

instance : Honest text forRule := by
  have : Faithful text fun label pat iter body o => Expr.forLoop o pat iter body label :=
    Gathers.faithful fun label pat iter body o => ⟨by simp, rfl⟩
  unfold forRule
  infer_instance

instance : Honest text armBody := by
  unfold armBody
  infer_instance

instance : Honest text matchArm := by
  have : Faithful text fun pat guard body o => Arm.mk o pat guard body :=
    Gathers.faithful fun pat guard body o => ⟨by simp, rfl⟩
  unfold matchArm
  infer_instance

instance : Honest text matchRule := by
  have : Faithful text fun scrutinee arms o => Expr.matchArms o scrutinee arms :=
    Gathers.faithful fun scrutinee arms o => ⟨by simp, rfl⟩
  unfold matchRule
  infer_instance

instance : Honest text returnExpr := by
  have : Faithful text fun value o => Expr.returnFn o value :=
    Gathers.faithful fun value o => ⟨by simp, rfl⟩
  unfold returnExpr
  infer_instance

instance : Honest text breakExpr := by
  have : Faithful text fun label value o => Expr.breakLoop o label value :=
    Gathers.faithful fun label value o => ⟨by simp, rfl⟩
  unfold breakExpr
  infer_instance

instance : Honest text continueExpr := by
  have : Faithful text fun label o => Expr.continueLoop o label :=
    Gathers.faithful fun label o => ⟨by simp, rfl⟩
  unfold continueExpr
  infer_instance

/-! ## Closures -/

instance : Honest text closureParam := by
  have : Faithful text fun pat ty o => Param.mk o pat ty :=
    Gathers.faithful fun pat ty o => ⟨by simp, rfl⟩
  unfold closureParam
  infer_instance

instance : Honest text closureParams := by
  unfold closureParams
  infer_instance

instance : Honest text closureBody := by
  have : Faithful text fun (ret : Ty) (body : Expr) => (some ret, body) :=
    Gathers.faithful fun ret body => by simp
  have : Faithful text fun body : Expr => ((none : Option Ty), body) :=
    Gathers.faithful fun body => by simp
  unfold closureBody
  infer_instance

instance : Honest text closure := by
  have : @Faithful text (Bool → List Param → Option Ty × Expr → Origin → Expr) _
      fun isMove params (ret, body) o => .closure o params body ret isMove :=
    Gathers.faithful fun isMove params parts o => ⟨by simp, rfl⟩
  unfold closure
  infer_instance

/-! ## Struct literals, macro calls and paths -/

instance : Honest text pathExpr := inferInstanceAs (Honest text (.rule .pathExpr))

instance : Honest text macroBody := inferInstanceAs (Honest text (.rule .macroBody))

instance : Honest text fullField := by
  have : Faithful text fun name value => FieldInit.mk name value :=
    Gathers.faithful fun name value => by simp [FieldInit.value]
  unfold fullField
  infer_instance

instance : Honest text structField := by
  refine Honest.building fun {value last built last'} bears succeeded => ?_
  obtain ⟨span, name, value?⟩ := value
  cases value? with
  | some value =>
    obtain ⟨rfl, rfl⟩ := Build.pure_eq_ok.mp succeeded
    exact bears
  | none =>
    obtain ⟨path, between, made, same⟩ := Build.bind_eq_ok.mp succeeded
    obtain ⟨rfl, rfl⟩ := Build.pure_eq_ok.mp same
    obtain ⟨rfl, rfl⟩ := Build.node_eq_ok.mp made
    have named : AllWritten text [.expr (.path ⟨last + 1, span⟩ [name] [])] :=
      AllWritten.nil.over (by simp) (.of_empty rfl)
    exact named

instance : Honest text structBody := by
  have : Faithful text fun (first : FieldInit) rest (base : Option Expr) => (first :: rest, base) :=
    Gathers.faithful fun first rest base => by simp
  have : Faithful text fun base : Expr => (([] : List FieldInit), some base) :=
    Gathers.faithful fun base => by simp
  unfold structBody
  infer_instance

instance : Honest text structLit := by
  have : @Faithful text (PathNode → List FieldInit × Option Expr → Origin → Expr) _
      fun path (fields, base) o => .structLit o path.segments fields base :=
    Gathers.faithful fun path parts o => ⟨by simp, rfl⟩
  unfold structLit
  infer_instance

instance (opening closing : String) : Honest text (macroArgs opening closing) := by
  have : Faithful text fun args => MacroBody.mk opening args none :=
    Gathers.faithful fun args => by simp
  unfold macroArgs
  dsimp only
  infer_instance

instance (opening closing : String) : Honest text (macroTokens opening closing) := by
  have : Faithful text fun ((written, _) : List Char × Unit) =>
      MacroBody.mk opening [] (some (String.ofList (written.drop 1).dropLast)) :=
    Gathers.faithful fun written => by simp
  unfold macroTokens
  infer_instance

instance : Honest text macroBodyRule := by
  unfold macroBodyRule
  infer_instance

instance : Honest text macroCall := by
  have : Faithful text fun path (body : MacroBody) o =>
      Expr.macroCall o path body.args body.delimiter body.tokens :=
    Gathers.faithful fun path body o => ⟨by simp, rfl⟩
  unfold macroCall
  infer_instance

instance : Honest text pathExprRule := by
  have : Faithful text PathSegment.args :=
    Gathers.faithful fun args => by simp [nodes, PathSegment.argList]
  have : Faithful text PathSegment.name :=
    Gathers.faithful fun name => by simp [nodes, PathSegment.argList]
  have : Faithful text fun (first : String) (rest : List PathSegment) o =>
      (⟨o, first :: rest.filterMap PathSegment.name?, rest.flatMap PathSegment.argList⟩ :
        PathNode) := by
    refine Gathers.faithful fun first rest o => ⟨?_, rfl⟩
    have held : (rest.flatMap PathSegment.argList).flatMap (fun ty => [Node.ty ty]) ⊆
        nodes rest := by
      rw [List.flatMap_assoc]
      exact List.Subset.refl _
    simpa [PathNode.expr] using held
  unfold pathExprRule
  infer_instance

instance : Honest text parenExpr := parenthesized_honest fun values o => ⟨by simp, rfl⟩

instance : Honest text arrayExpr := by
  have : Faithful text fun elem count o => Expr.arrayRepeat o elem count :=
    Gathers.faithful fun elem count o => ⟨by simp, rfl⟩
  have : Faithful text fun elems o => Expr.array o elems :=
    Gathers.faithful fun elems o => ⟨by simp, rfl⟩
  unfold arrayExpr
  infer_instance

instance : Honest text primaryRule := by
  have : Faithful text PathNode.expr := ⟨fun _ bears => bears⟩
  unfold primaryRule
  infer_instance

end DrainLint.Grammar
