import DrainLint.Grammar.Rule

/-! # Operators and chains

Flat chains of operands are folded after they are read, so that the operands are numbered before the
nodes that join them.

- `joinOperands`: operands and binary operators, by precedence and from the left;
- `castRule`, `unaryRule`: conversions and marks before an operand;
- `chainRule`: calls, fields, indices and question marks after an operand.
-/

namespace DrainLint.Grammar

open Hir Peg

/-! ## Binary operators -/

/-- An operand with the span of its text, parentheses included. -/
structure Operand where
  span : Span
  expr : Expr

def Operand.joined (lhs : Operand) (op : BinaryOp) (rhs : Operand) : Build Operand := do
  let span := Span.between lhs.span.lo rhs.span.hi
  return ⟨span, ← Build.node span (.binary · op lhs.expr rhs.expr)⟩

/-- Joins the last operand to the pending ones whose operator binds at least so tightly. -/
def reduceWhile (precedence : Nat) :
    List (Operand × BinaryOp) → Operand → Build (List (Operand × BinaryOp) × Operand)
  | [], last => pure ([], last)
  | (lhs, op) :: pending, last =>
    if precedence ≤ op.precedence then do
      let joined ← lhs.joined op last
      reduceWhile precedence pending joined
    else pure ((lhs, op) :: pending, last)

/-- The fold of a chain of operands.  An operator waits, with the operand on its left, until one
comes that binds no tighter. -/
def joinOperands (pending : List (Operand × BinaryOp)) (last : Operand) :
    List (BinaryOp × Operand) → Build Operand
  | [] => do
    let (_, whole) ← reduceWhile 0 pending last
    return whole
  | (op, next) :: rest => do
    -- What binds as tightly is joined first, so that operators of one precedence lean to the left.
    let (waiting, lhs) ← reduceWhile op.precedence pending last
    joinOperands ((lhs, op) :: waiting) next rest

def operand : G Operand :=
  (fun (span, value) => ⟨span, value⟩) <$> .spanned (call .operand : G Expr)

def binaryRule : G Expr :=
  .building (fun (first, rest) => Operand.expr <$> joinOperands [] first rest)
    (Prod.mk <$> operand
      <*> .many (Prod.mk <$> (ws *> .token binaryOp <* ws) <*> operand))

def binary : G Expr := call .binary

/-! ## Ranges and assignments -/

def range : G Expr :=
  node ((fun start inclusive stop o => .range o (some start) stop inclusive)
      <$> binary <*> (ws *> .token rangeOp) <*> .optional (ws *> binary))
    <|> node ((fun inclusive stop o => .range o none stop inclusive)
      <$> .token rangeOp <*> .optional (ws *> binary))
    <|> binary

def exprRule : G Expr :=
  .building
    (fun (span, target, assigned) =>
      match assigned with
      | none => pure target
      | some (op, value) => Build.node span (.assign · target value op))
    (.spanned (Prod.mk <$> range
      <*> .optional (Prod.mk <$> (ws *> .token assignOp <* ws) <*> expr)))

/-! ## Casts and marks -/

/-- Casts of an operand, from the left. -/
def castAll (lo : Nat) (operand : Expr) : List (Span × Ty) → Build Expr
  | [] => pure operand
  | (span, ty) :: rest => do
    let cast ← Build.node (Span.between lo span.hi) (.cast · operand ty)
    castAll lo cast rest

def unary : G Expr := call .unary

def operandRule : G Expr :=
  .building (fun (span, operand, casts) => castAll span.lo operand casts)
    (.spanned (Prod.mk <$> unary <*> .many (.spanned (ws *> kw "as" *> ws *> ty))))

def unaryRule : G Expr :=
  node ((fun mark operand o =>
      match mark with
      | .borrow isMut => .addrOf o isMut operand
      | .op op => .unary o op operand)
    <$> .token unaryMark <* ws <*> unary)
    <|> call .chain

/-! ## Chains -/

/-- A link of a chain: what is done to the value of the part before it. -/
inductive Link where
  | method (name : String) (nameSpan : Span) (genericArgs : List Ty) (args : List Expr)
  | field (name : String)
  | call (args : List Expr)
  | index (index : Expr)
  | question

def Link.expr (base : Expr) (o : Origin) : Link → Expr
  | method name nameSpan genericArgs args => .methodCall o base name args nameSpan genericArgs
  | field name => .field o base name
  | call args => .call o base args
  | index i => .index o base i
  | question => .question o base

def linkAll (lo : Nat) (base : Expr) : List (Span × Link) → Build Expr
  | [] => pure base
  | (span, link) :: rest => do
    let linked ← Build.node (Span.between lo span.hi) fun o => link.expr base o
    linkAll lo linked rest

def callArguments : G (List Expr) := delimited "(" ")" exprList

def methodLink : G Link :=
  (fun (nameSpan, name) genericArgs args => .method name nameSpan genericArgs args)
    <$> (sym "." *> ws *> .spanned ident) <* ws
    <*> optionalList (sym "::" *> ws *> genericArgs <* ws)
    <*> callArguments

def fieldLink : G Link := Link.field <$> (sym "." *> ws *> (ident <|> .token position))

def indexLink : G Link := Link.index <$> (sym "[" *> ws *> expr <* ws <* sym "]")

def link : G Link :=
  methodLink <|> fieldLink <|> Link.call <$> callArguments <|> indexLink
    <|> (fun _ => Link.question) <$> sym "?"

def chainRule : G Expr :=
  .building (fun (span, base, links) => linkAll span.lo base links)
    (.spanned (Prod.mk <$> (call .primary : G Expr) <*> .many (ws *> .spanned link)))

def exprListRule : G (List Expr) := commaList expr

end DrainLint.Grammar
