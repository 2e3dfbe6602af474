import DrainLint.Proofs.Fix.Landing
import DrainLint.Proofs.Tree.Nesting

/-! # What a fix deletes

Where a `let` pops, the fix deletes the whole statement.

- `letParts`: the parts of a `let` that the fix accounts for;
- `mem_walk_letStmt`: what stands below a `let` is in these parts or in the `else` block;
- `Finding.Deletes`: which expressions a fix deletes;
- `fix_deletes_let`: the fix of a `let` that pops deletes these expressions, and no others;
- `else_block_deleted_elseFile`: an `else` block that goes away.
-/

namespace DrainLint.Lint

open Hir

/-! ## The parts of a `let` -/

/-- The parts of a `let` that a fix accounts for: the pattern, which the new header takes over, the
type and the initialiser that pops. -/
def letParts (pat : Pat) (ty : Option Ty) (init : Expr) : List Node :=
  .pat pat :: ty.toList.map .ty ++ [.expr init]

theorem mem_walk_letStmt {origin : Origin} {pat : Pat} {ty : Option Ty} {init value : Expr}
    {els : Option Block} :
    Node.expr value ∈ (Node.stmt (.letStmt origin pat ty (some init) els)).walk ↔
      Node.expr value ∈ Node.walkAll (letParts pat ty init) ∨
        ∃ block, els = some block ∧ Node.expr value ∈ (Node.expr (.block block)).walk := by
  have children : (Node.stmt (.letStmt origin pat ty (some init) els)).children =
      letParts pat ty init ++ els.toList.map fun block => .expr (.block block) := by
    cases ty <;> cases els <;> simp [Node.children_eq, Node.fields, letParts]
  rw [Node.walk_eq, children, Node.walkAll_append]
  cases els <;> simp

/-! ## A `let` with an `else` block -/

/-- A function that drains a vector of zeros and stops the program at anything else. -/
def elseFile : SourceFile := ⟨"else.rs",
  "fn f(v: Vec<u8>) { while !v.is_empty() { let 0 = v.pop().unwrap() else { exit(1) }; } }"
    |>.toList⟩

/-- Whether the body of a loop starts with a `let` whose `else` block stands in its text and is in
none of the parts that a fix accounts for. -/
def startsWithElse : Node → Bool
  | .expr (.whileLoop _ _ (.mk _ (.letStmt origin pat ty (some init) (some els) :: _) _ _) _ _) =>
    origin.span.contains els.origin.span &&
      (Node.walkAll (letParts pat ty init)).all fun node => node.id != els.origin.id
  | _ => false

theorem eq_let_of_startsWithElse {origin : Origin} {cond : Expr} {body : Block} {header : Span}
    {label : Option String}
    (starts : startsWithElse (.expr (.whileLoop origin cond body header label)) = true) :
    ∃ letOrigin pat ty init els rest,
      body.stmts = .letStmt letOrigin pat ty (some init) (some els) :: rest ∧
        Node.expr (.block els) ∈ (Node.expr (.whileLoop origin cond body header label)).walk ∧
        letOrigin.span.contains els.origin.span = true ∧
        Node.expr (.block els) ∉ Node.walkAll (letParts pat ty init) := by
  unfold startsWithElse at starts
  split at starts
  · next letOrigin pat ty init els rest _ _ _ _ shape =>
    cases shape
    obtain ⟨inside, outside⟩ := Bool.and_eq_true_iff.mp starts
    refine ⟨letOrigin, pat, ty, init, els, rest, rfl, ?_, inside, fun listed => ?_⟩
    · refine Node.mem_walk_trans ((Node.code_sublist _).subset body_mem_code) ?_
      refine Node.mem_walk_trans
        ((Node.code_sublist _).subset (mem_code_of_mem_stmts List.mem_cons_self)) ?_
      exact mem_walk_letStmt.mpr (.inr ⟨els, rfl, Node.mem_walk_self _⟩)
    · exact bne_iff_ne.mp (List.all_eq_true.mp outside _ listed) rfl
  · cases starts

theorem elseFile_found : ∃ crate tables origin cond body header label finding letOrigin pat ty init
    els rest, elseFile.parse = .ok crate ∧ (Typing.inferCrate crate).result = .ok tables ∧
      Node.expr (.whileLoop origin cond body header label) ∈ crate.walk ∧
      examine tables.resolver cond (.block body) header = .found finding ∧
      finding.form = .letStmt pat ∧ finding.popSpan = letOrigin.span ∧
      body.stmts = .letStmt letOrigin pat ty (some init) (some els) :: rest ∧
      Node.expr (.block els) ∈ crate.walk ∧ letOrigin.span.contains els.origin.span = true ∧
      Node.expr (.block els) ∉ Node.walkAll (letParts pat ty init) := by
  have evaluated : elseFile.crateNoted?.any (fun crate =>
      (Typing.inferCrate crate).fault?.isNone && crate.walk.any fun node =>
        drainsOperand (Typing.inferCrate crate).tables.resolver node && startsWithElse node) =
          true := by
    decide +kernel
  obtain ⟨crate, parsed, checked⟩ := SourceFile.parse_of_noted evaluated
  simp only [Bool.and_eq_true, Option.isNone_iff_eq_none, List.any_eq_true] at checked
  obtain ⟨faultless, node, listed, drains, starts⟩ := checked
  obtain ⟨origin, cond, body, header, label, rfl, finding, found⟩ := examine_of_drainsOperand drains
  have inferred : (Typing.inferCrate crate).result = .ok (Typing.inferCrate crate).tables := by
    rw [Typing.Inference.result, faultless]
  obtain ⟨letOrigin, pat, ty, init, els, rest, stmts, below, inside, outside⟩ :=
    eq_let_of_startsWithElse starts
  obtain ⟨_, _, first, rest', expr, stmts', takes⟩ := examine_describes found
  rw [stmts] at stmts'
  cases stmts'
  generalize isForm : finding.form = form, isSpan : finding.popSpan = span at takes
  cases takes
  exact ⟨crate, _, origin, cond, body, header, label, finding, letOrigin, pat, ty, init, els, rest,
    parsed, inferred, listed, found, isForm, isSpan, stmts, Node.mem_walk_trans listed below, inside,
    outside⟩

/-! ## The deleted expressions -/

/-- The fix of a finding deletes a `let` statement: of the expressions of the crate, those that stand
in the deleted text are the ones in the pattern, the type, the initialiser or the `else` block. -/
structure Finding.Deletes (finding : Finding) (crate : Crate) (pat : Pat) (ty : Option Ty)
    (init : Expr) (els : Option Block) : Prop where
  replacement : finding.popReplacement = ""
  deleted : ∀ value, Node.expr value ∈ crate.walk →
    (finding.popSpan.contains value.origin.span = true ↔
      Node.expr value ∈ Node.walkAll (letParts pat ty init) ∨
        ∃ block, els = some block ∧ Node.expr value ∈ (Node.expr (.block block)).walk)

/-- The fix of a loop that pops in a `let` deletes the statement, and with it the expressions of the
pattern, of the type, of the initialiser and of the `else` block: no other expression of the file
stands in the deleted text. -/
theorem fix_deletes_let {source : SourceFile} {crate : Crate} {resolver : Resolver} {origin : Origin}
    {cond : Expr} {body : Block} {header : Span} {label : Option String} {finding : Finding}
    {pat : Pat} (parsed : source.parse = .ok crate)
    (listed : Node.expr (.whileLoop origin cond body header label) ∈ crate.walk)
    (found : examine resolver cond (.block body) header = .found finding)
    (isLet : finding.form = .letStmt pat) :
    ∃ letOrigin ty init els rest, body.stmts = .letStmt letOrigin pat ty (some init) els :: rest ∧
      finding.popSpan = letOrigin.span ∧ finding.Deletes crate pat ty init els := by
  obtain ⟨_, _, first, rest, init, stmts, takes⟩ := examine_describes found
  have replacement : finding.popReplacement = "" := by
    rw [Finding.popReplacement, isLet]
  have throughout := SourceFile.parse_wellPlaced parsed
  have inBody : Node.expr (.block body) ∈ crate.walk :=
    Node.mem_walk_trans listed ((Node.code_sublist _).subset body_mem_code)
  have isFirst : first ∈ body.stmts := by
    rw [stmts]
    exact List.mem_cons_self
  -- The statement holds the expression that pops, so it takes all of its text.
  have holds : ¬ (Node.stmt first).Exprless :=
    fun exprless => exprless init ((Node.code_sublist _).subset takes.expr_mem)
  have within : ∀ value, Node.expr value ∈ crate.walk → (_ ↔ _) := fun value inside =>
    Node.mem_walk_stmt_iff throughout inBody isFirst holds inside
  rw [isLet] at takes
  generalize popSpan : finding.popSpan = span at takes
  cases takes with
  | @letStmt letOrigin _ ty _ els =>
    refine ⟨letOrigin, ty, init, els, rest, stmts, rfl, replacement, fun value inside => ?_⟩
    rw [popSpan, ← mem_walk_letStmt]
    exact (within value inside).symm

theorem fix_deletes_let_elseFile : ∃ crate tables origin cond body header label finding pat,
    elseFile.parse = .ok crate ∧
      Node.expr (.whileLoop origin cond body header label) ∈ crate.walk ∧
      examine (Typing.Tables.resolver tables) cond (.block body) header = .found finding ∧
      finding.form = .letStmt pat ∧
      ∃ letOrigin ty init els rest, body.stmts = .letStmt letOrigin pat ty (some init) els :: rest ∧
        finding.popSpan = letOrigin.span ∧ finding.Deletes crate pat ty init els := by
  obtain ⟨crate, tables, origin, cond, body, header, label, finding, _, pat, _, _, _, _, parsed, _,
    listed, found, isLet, _⟩ := elseFile_found
  exact ⟨crate, tables, origin, cond, body, header, label, finding, pat, parsed, listed, found, isLet,
    fix_deletes_let parsed listed found isLet⟩

/-- A loop is found although its `let` has an `else` block: the block stands in the text that the fix
deletes, and is in no part that the fix accounts for. -/
theorem else_block_deleted_elseFile : ∃ crate tables origin cond body header label finding letOrigin
    pat ty init els rest value, elseFile.parse = .ok crate ∧
      (Typing.inferCrate crate).result = .ok tables ∧
      Node.expr (.whileLoop origin cond body header label) ∈ crate.walk ∧
      examine tables.resolver cond (.block body) header = .found finding ∧
      finding.form = .letStmt pat ∧ finding.popSpan = letOrigin.span ∧
      body.stmts = .letStmt letOrigin pat ty (some init) els :: rest ∧
      Node.expr value ∈ crate.walk ∧ finding.popSpan.contains value.origin.span = true ∧
      Node.expr value ∉ Node.walkAll (letParts pat ty init) := by
  obtain ⟨crate, tables, origin, cond, body, header, label, finding, letOrigin, pat, ty, init, els,
    rest, parsed, inferred, listed, found, isLet, popSpan, stmts, below, inside, outside⟩ :=
    elseFile_found
  refine ⟨crate, tables, origin, cond, body, header, label, finding, letOrigin, pat, ty, init,
    some els, rest, .block els, parsed, inferred, listed, found, isLet, popSpan, stmts, below, ?_,
    outside⟩
  rw [popSpan]
  exact inside

end DrainLint.Lint
