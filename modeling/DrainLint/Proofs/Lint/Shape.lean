import DrainLint.Lint.Loop
import DrainLint.Proofs.Tree.Code

/-! # The shape of a loop that is found

What stands in the text where a loop is found, and what the resolver has to say about it.

- `Tests`: a condition that is a negated method call, with its receiver;
- `Takes`: the expression by which a first statement takes an element, in either form;
- `Finding.Describes`: the finding of a loop names the parts of that loop;
- `examine_found_iff`: a loop is found exactly where the calls of this shape are the expected ones.
-/

namespace DrainLint.Lint

open Hir

/-- The condition `!receiver.method(..)`, with the call that it negates. -/
inductive Tests : Expr → Expr → Expr → Prop
  | negated {origin callOrigin : Origin} {receiver : Expr} {method : String} {args : List Expr}
      {span : Span} {genericArgs : List Ty} :
      Tests (.unary origin .not (.methodCall callOrigin receiver method args span genericArgs))
        (.methodCall callOrigin receiver method args span genericArgs) receiver

/-- The expression by which a statement takes an element: the initialiser of a `let` or an argument
of a call, with the span that a fix replaces. -/
inductive Takes : Stmt → PopForm → Span → Expr → Prop
  | letStmt {origin : Origin} {pat : Pat} {ty : Option Ty} {init : Expr} {els : Option Block} :
      Takes (.letStmt origin pat ty (some init) els) (.letStmt pat) origin.span init
  | argument {origin : Origin} {expr arg : Expr} {semi : Bool} (listed : arg ∈ callArgs expr) :
      Takes (.expr origin expr semi) .argument arg.origin.span arg

theorem Tests.call_mem {cond call receiver : Expr} (tests : Tests cond call receiver) :
    Node.expr call ∈ (Node.expr cond).code := by
  cases tests
  exact Node.mem_code_child (by simp [Node.children_eq, Node.fields]) rfl

theorem Tests.receiver_mem {cond call receiver : Expr} (tests : Tests cond call receiver) :
    Node.expr receiver ∈ (Node.expr cond).code := by
  apply Node.mem_code_trans tests.call_mem
  cases tests
  exact Node.mem_code_child (by simp [Node.children_eq, Node.fields]) rfl

theorem mem_children_of_mem_callArgs {expr arg : Expr} (listed : arg ∈ callArgs expr) :
    Node.expr arg ∈ (Node.expr expr).children := by
  cases expr with
  | call => simp_all [callArgs, Node.children_eq, Node.fields]
  | methodCall => simp_all [callArgs, Node.children_eq, Node.fields]
  | _ => cases listed

theorem Takes.expr_mem {stmt : Stmt} {form : PopForm} {span : Span} {expr : Expr}
    (takes : Takes stmt form span expr) : Node.expr expr ∈ (Node.stmt stmt).code := by
  cases takes with
  | letStmt => exact Node.mem_code_child (by simp [Node.children_eq, Node.fields]) rfl
  | @argument origin call _ semi listed =>
    have isCall : Node.expr call ∈ (Node.stmt (.expr origin call semi)).code :=
      Node.mem_code_child (by simp [Node.children_eq, Node.fields]) rfl
    exact Node.mem_code_trans isCall
      (Node.mem_code_child (mem_children_of_mem_callArgs listed) rfl)

theorem Takes.span_mem {stmt : Stmt} {form : PopForm} {span : Span} {expr : Expr}
    (takes : Takes stmt form span expr) : ∃ node ∈ (Node.stmt stmt).code, node.span = span := by
  have inside := takes.expr_mem
  cases takes with
  | letStmt => exact ⟨_, Node.mem_code_self _, rfl⟩
  | argument => exact ⟨.expr expr, inside, rfl⟩

theorem Takes.pat_mem {stmt : Stmt} {pat : Pat} {span : Span} {expr : Expr}
    (takes : Takes stmt (.letStmt pat) span expr) : Node.pat pat ∈ (Node.stmt stmt).walk := by
  cases takes
  apply Node.mem_walk_of_child _ (Node.mem_walk_self _)
  simp [Node.children_eq, Node.fields]

theorem mem_code_of_mem_stmts {stmt : Stmt} {body : Block} (listed : stmt ∈ body.stmts) :
    Node.stmt stmt ∈ (Node.expr (.block body)).code := by
  cases body
  apply Node.mem_code_child _ rfl
  simpa [Node.children_eq, Node.fields, Block.stmts] using listed

/-- A finding names the parts of a loop. -/
structure Finding.Describes (finding : Finding) (cond : Expr) (body : Block) (header : Span) :
    Prop where
  loopSpan : finding.loopSpan = header
  checked : ∃ call receiver, Tests cond call receiver ∧
    finding.receiverSpan = receiver.origin.span
  taken : ∃ first rest expr, body.stmts = first :: rest ∧
    Takes first finding.form finding.popSpan expr

section

variable {resolver : Resolver} {checked : Expr} {stmt : Stmt}

theorem letFinding?_eq_some {header : Span} {finding : Finding}
    (found : letFinding? resolver checked header stmt = some finding) :
    ∃ expr, Takes stmt finding.form finding.popSpan expr ∧ popsFrom resolver checked expr = true ∧
      finding.loopSpan = header ∧ finding.receiverSpan = checked.origin.span := by
  unfold letFinding? at found
  split at found
  · next origin pat ty init els =>
    by_cases pops : popsFrom resolver checked init = true
    · rw [if_pos pops] at found
      cases found
      exact ⟨init, .letStmt, pops, rfl, rfl⟩
    · rw [if_neg pops] at found
      cases found
  · cases found

theorem argumentFinding?_eq_some {header : Span} {finding : Finding}
    (found : argumentFinding? resolver checked header stmt = some finding) :
    ∃ expr, Takes stmt finding.form finding.popSpan expr ∧ popsFrom resolver checked expr = true ∧
      finding.loopSpan = header ∧ finding.receiverSpan = checked.origin.span := by
  unfold argumentFinding? at found
  split at found
  · next origin expr semi =>
    obtain ⟨arg, first, rfl⟩ := Option.map_eq_some_iff.mp found
    exact ⟨arg, .argument (List.mem_of_find?_eq_some first), List.find?_some first, rfl, rfl⟩
  · cases found

theorem classifyFirst?_eq_some {header : Span} {finding : Finding}
    (found : classifyFirst? resolver checked header stmt = some finding) :
    ∃ expr, Takes stmt finding.form finding.popSpan expr ∧ popsFrom resolver checked expr = true ∧
      finding.loopSpan = header ∧ finding.receiverSpan = checked.origin.span := by
  unfold classifyFirst? at found
  cases asLet : letFinding? resolver checked header stmt with
  | none =>
    rw [asLet] at found
    exact argumentFinding?_eq_some found
  | some inner =>
    rw [asLet] at found
    cases found
    exact letFinding?_eq_some asLet

/-- A statement that takes an element of the checked receiver gives a finding. -/
theorem classifyFirst?_isSome (header : Span) {form : PopForm} {span : Span} {expr : Expr}
    (takes : Takes stmt form span expr) (pops : popsFrom resolver checked expr = true) :
    (classifyFirst? resolver checked header stmt).isSome := by
  cases takes with
  | letStmt =>
    unfold classifyFirst? letFinding?
    simp only [pops, if_true]
    rfl
  | argument listed =>
    have some := List.find?_isSome.mpr ⟨expr, listed, pops⟩
    unfold classifyFirst? letFinding? argumentFinding?
    simpa using some

end

section

variable {resolver : Resolver} {cond : Expr} {body : Block} {header : Span}

/-- What a loop that is found looks like, and what its calls are. -/
theorem examine_found {finding : Finding}
    (found : examine resolver cond (.block body) header = .found finding) :
    ∃ call receiver first rest expr, Tests cond call receiver ∧
      isMethodCallOf resolver Library.vecIsEmpty call = true ∧ body.stmts = first :: rest ∧
      Takes first finding.form finding.popSpan expr ∧ popsFrom resolver receiver expr = true ∧
      finding.loopSpan = header ∧ finding.receiverSpan = receiver.origin.span := by
  unfold examine at found
  split at found
  · next origin callOrigin receiver method args span genericArgs =>
    split at found
    · next emptiness =>
      cases listed : blockStmts (.block body) with
      | nil =>
        rw [listed] at found
        cases found
      | cons first rest =>
        rw [listed] at found
        cases classified : classifyFirst? resolver receiver header first with
        | none =>
          simp only [classified] at found
          cases found
        | some inner =>
          simp only [classified] at found
          cases found
          obtain ⟨expr, takes, pops, loopSpan, receiverSpan⟩ := classifyFirst?_eq_some classified
          exact ⟨_, receiver, first, rest, expr, .negated, emptiness, listed, takes, pops,
            loopSpan, receiverSpan⟩
    · cases found
  · cases found
  · cases found

theorem examine_describes {finding : Finding}
    (found : examine resolver cond (.block body) header = .found finding) :
    finding.Describes cond body header := by
  obtain ⟨call, receiver, first, rest, expr, tests, _, listed, takes, _, loopSpan, receiverSpan⟩ :=
    examine_found found
  exact ⟨loopSpan, ⟨call, receiver, tests, receiverSpan⟩, ⟨first, rest, expr, listed, takes⟩⟩

/-- A loop is found exactly where its condition asks whether a vector is empty and its first
statement pops from the same receiver. -/
theorem examine_found_iff :
    (∃ finding, examine resolver cond (.block body) header = .found finding) ↔
      ∃ call receiver first rest form span expr, Tests cond call receiver ∧
        isMethodCallOf resolver Library.vecIsEmpty call = true ∧ body.stmts = first :: rest ∧
        Takes first form span expr ∧ popsFrom resolver receiver expr = true := by
  constructor
  · rintro ⟨finding, found⟩
    obtain ⟨call, receiver, first, rest, expr, tests, emptiness, listed, takes, pops, _⟩ :=
      examine_found found
    exact ⟨call, receiver, first, rest, _, _, expr, tests, emptiness, listed, takes, pops⟩
  · rintro ⟨call, receiver, first, rest, form, span, expr, tests, emptiness, listed, takes, pops⟩
    cases tests
    obtain ⟨finding, classified⟩ := Option.isSome_iff_exists.mp
      (classifyFirst?_isSome header takes pops)
    refine ⟨finding, ?_⟩
    simp only [examine, emptiness, if_true, blockStmts, listed, classified]

end

end DrainLint.Lint
