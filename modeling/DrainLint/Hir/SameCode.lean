import DrainLint.Hir.Walk

/-! # The same code

Whether two nodes are the same code, wherever they stand.

- spans and numbers do not matter;
- literals are compared by kind and value, paths that refer to local bindings by their binding;
- an item is the same code as itself only: two declarations of one text are two definitions;
- with effects refused, a call or an assignment is not even the same code as itself.
-/

namespace DrainLint.Hir

/-- How nodes are compared: with a resolver or without one, with effects or without. -/
structure Comparison where
  resolver? : Option Resolver := none
  allowsEffects : Bool := true

namespace Comparison

/-- What decides about a node alone, its fields left aside. -/
inductive Identity where
  | literal (value : Literal)
  | binding (id : Nat)
  | item (id : Nat)
  deriving DecidableEq

def binding? (comparison : Comparison) (id : Nat) : Option Nat :=
  comparison.resolver?.bind fun resolver => resolver.binding id

def identity? (comparison : Comparison) : Node → Option Identity
  | .expr (.lit _ value _) => some (.literal value)
  | .expr (.path origin _ _) => (comparison.binding? origin.id).map .binding
  | .stmt (.item origin _) => some (.item origin.id)
  | .item item => some (.item item.origin.id)
  | _ => none

/-- Calls and assignments: what may come to something else a second time. -/
def hasEffect : Node → Bool
  | .expr (.call ..) | .expr (.methodCall ..) | .expr (.macroCall ..) | .expr (.assign ..) => true
  | _ => false

mutual

def sameNode (comparison : Comparison) (left right : Node) : Bool :=
  if left.className != right.className then false
  else if !comparison.allowsEffects && hasEffect left then false
  else
    match comparison.identity? left, comparison.identity? right with
    | none, none =>
      comparison.sameValues (left.fields.map Prod.snd) (right.fields.map Prod.snd)
    -- One that has an identity is never the same code as one that has none.
    | leftIdentity?, rightIdentity? => leftIdentity? == rightIdentity?
termination_by (left.weight, 0)
decreasing_by exact Prod.Lex.left _ _ left.fields_weight_lt

def sameValue (comparison : Comparison) (left right : Value) : Bool :=
  match left, right with
  | .absent, .absent => true
  | .node left, .node right => comparison.sameNode left right
  | .list left, .list right => comparison.sameValues left right
  | .text left, .text right => left == right
  | .flag left, .flag right => left == right
  | .literal left, .literal right => left == right
  | .symbol left, .symbol right => left == right
  | .attr left, .attr right => left == right
  | .span _, .span _ => true
  | _, _ => false
termination_by (left.weight, sizeOf left)
decreasing_by
  · exact Node.lex_of_le (by simp [Value.weight]) (by simp +arith)
  · exact Node.lex_of_le (by simp [Value.weight]) (by simp)

/-- Whether two lists of fields hold the same code, one by one. -/
def sameValues (comparison : Comparison) (left right : List Value) : Bool :=
  match left, right with
  | [], [] => true
  | left :: lefts, right :: rights =>
    comparison.sameValue left right && comparison.sameValues lefts rights
  | _, _ => false
termination_by (Value.weightAll left, sizeOf left)
decreasing_by
  · exact Node.lex_of_le (by simp [Value.weightAll]) (by simp +arith)
  · exact Node.lex_of_le (by simp [Value.weightAll]) (by simp +arith)

end

def sameExpr (comparison : Comparison) (left right : Expr) : Bool :=
  comparison.sameNode (.expr left) (.expr right)

/-- Whether two expressions that may be missing are the same code; so are two missing ones. -/
def sameExpr? (comparison : Comparison) (left right : Option Expr) : Bool :=
  comparison.sameValue (Value.ofOption .ofExpr left) (Value.ofOption .ofExpr right)

/-- Whether two lists of expressions are the same code, one by one. -/
def sameExprs (comparison : Comparison) (left right : List Expr) : Bool :=
  comparison.sameValue (Value.ofList .ofExpr left) (Value.ofList .ofExpr right)

end Comparison
end DrainLint.Hir
