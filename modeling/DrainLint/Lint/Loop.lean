import DrainLint.Hir.SameCode
import DrainLint.Lint.Match

/-! # Loops that drain a vector by hand

A `while` loop whose condition is `!R.is_empty()` and whose first statement takes
`R.pop().unwrap()`, for one vector `R`, is a `while let` loop in disguise.

- `Finding`: where the parts of such a loop stand;
- `classifyFirst?`: the two forms of the first statement;
- `examine`: what a loop comes to.
-/

namespace DrainLint.Lint

open Hir

/-- How the popped element is taken: by a `let` with a pattern, or as an argument of a call. -/
inductive PopForm where
  | letStmt (pat : Pat)
  | argument

def PopForm.name : PopForm → String
  | letStmt _ => "local"
  | argument => "anonymous"

/-- A loop that was found: the statement or argument that pops, the header of the loop, and the
receiver whose emptiness is checked. -/
structure Finding where
  popSpan : Span
  loopSpan : Span
  receiverSpan : Span
  form : PopForm

/-- Whether an expression pops and unwraps an element of the checked receiver. -/
def popsFrom (resolver : Resolver) (checked : Expr) (expr : Expr) : Bool :=
  match poppedReceiver? resolver expr with
  | none => false
  | some receiver => Comparison.sameExpr { resolver? := some resolver } receiver checked

/-- The finding where a statement is a `let` whose initialiser pops. -/
def letFinding? (resolver : Resolver) (checked : Expr) (loopSpan : Span) : Stmt → Option Finding
  | .letStmt origin pat _ (some init) _ =>
    if popsFrom resolver checked init then
      some ⟨origin.span, loopSpan, checked.origin.span, .letStmt pat⟩
    else none
  | _ => none

def callArgs : Expr → List Expr
  | .call _ _ args | .methodCall _ _ _ args _ _ => args
  | _ => []

def argumentFinding? (resolver : Resolver) (checked : Expr) (loopSpan : Span) :
    Stmt → Option Finding
  | .expr _ expr _ =>
    ((callArgs expr).find? (popsFrom resolver checked)).map fun arg =>
      ⟨arg.origin.span, loopSpan, checked.origin.span, .argument⟩
  | _ => none

def classifyFirst? (resolver : Resolver) (checked : Expr) (loopSpan : Span) (stmt : Stmt) :
    Option Finding :=
  (letFinding? resolver checked loopSpan stmt).orElse fun _ =>
    argumentFinding? resolver checked loopSpan stmt

/-- What a loop comes to. -/
inductive Verdict where
  | notNegated
  | notEmptiness
  | noStatements
  | otherStatement
  | found (finding : Finding)

namespace Verdict

def finding? : Verdict → Option Finding
  | found finding => some finding
  | _ => none

/-- Why there is no finding, where that is worth a note. -/
def reason? : Verdict → Option String
  | notEmptiness => some "condition is not `!Vec::is_empty()`"
  | noStatements => some "body has no statements"
  | otherStatement => some "first statement does not pop the checked Vec"
  | notNegated | found _ => none

end Verdict

def blockStmts : Expr → List Stmt
  | .block block => block.stmts
  | _ => []

/-- Examines a loop, given by its condition, its body and the span of its header. -/
def examine (resolver : Resolver) (cond body : Expr) (loopSpan : Span) : Verdict :=
  match cond with
  | .unary _ .not (.methodCall origin receiver method args span genericArgs) =>
    if isMethodCallOf resolver Library.vecIsEmpty
        (.methodCall origin receiver method args span genericArgs) then
      match blockStmts body with
      | [] => .noStatements
      | first :: _ =>
        match classifyFirst? resolver receiver loopSpan first with
        | some finding => .found finding
        | none => .otherStatement
    else .notEmptiness
  | .unary _ .not _ => .notEmptiness
  | _ => .notNegated

/-- Examines a `while` loop; other nodes are none. -/
def examineLoop? (resolver : Resolver) : Node → Option (Span × Verdict)
  | .expr (.whileLoop _ cond body header _) =>
    some (header, examine resolver cond (.block body) header)
  | _ => none

/-- The `while` loops of a crate with what each comes to, in the order of a walk. -/
def examineAll (resolver : Resolver) (crate : Crate) : List (Span × Verdict) :=
  crate.walk.filterMap (examineLoop? resolver)

end DrainLint.Lint
