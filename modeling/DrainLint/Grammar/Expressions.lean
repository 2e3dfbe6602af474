import DrainLint.Grammar.Rule

/-! # Expressions

The rules of blocks, statements, control flow and the expressions that operators join.
-/

namespace DrainLint.Grammar

open Hir Peg

/-! ## Blocks and statements -/

/-- The value of a block: its tail, or else a last statement that is an expression without a
semicolon, which then is no statement. -/
def splitTail (stmts : List Stmt) : Option Expr → List Stmt × Option Expr
  | some tail => (stmts, some tail)
  | none =>
    match stmts.getLast? with
    | some (.expr _ value false) => (stmts.dropLast, some value)
    | _ => (stmts, none)

def stmt : G (List Stmt) := call .stmt

def blockRule : G Block :=
  node <| (fun stmts tail o =>
      let (stmts, tail) := splitTail stmts.flatten tail
      .mk o stmts tail false)
    <$> (sym "\x7b" *> ws *> .many (stmt <* ws)) <*> .optional (expr <* ws) <* sym "\x7d"

/-- A block marked unsafe; it keeps the number of the block and takes the span of the whole. -/
def unsafeBlockRule : G Block :=
  (fun (span, .mk o stmts tail _) => .mk ⟨o.id, span⟩ stmts tail true) <$>
    .spanned (kw "unsafe" *> ws *> block)

def blockLike : G Expr := call .blockLike

def blockExpr : G Expr := Expr.block <$> block

def unsafeBlock : G Expr := Expr.block <$> (call .unsafeBlock : G Block)

def ifExpr : G Expr := call .ifExpr

def matchExpr : G Expr := call .matchExpr

def whileExpr : G Expr := call .whileExpr

def loopExpr : G Expr := call .loopExpr

def forExpr : G Expr := call .forExpr

def blockLikeRule : G Expr :=
  ifExpr <|> matchExpr <|> whileExpr <|> loopExpr <|> forExpr <|> unsafeBlock <|> blockExpr

def letStmt : G Stmt :=
  node <| (fun pat ty init els o => .letStmt o pat ty init els)
    <$> (kw "let" *> ws *> pat)
    <*> .optional (ws *> colon *> ws *> ty)
    <*> .optional (ws *> equalsSign *> ws *> expr)
    <*> .optional (ws *> kw "else" *> ws *> block) <* ws <* sym ";"

/-- The items of a declaration, as statements.  Attributes in front of them are read and dropped. -/
def itemStmts : G (List Stmt) :=
  .building
    (fun items => Build.all (items.map fun item => Build.node item.origin.span (.item · item)))
    (outerAttrs *> declaration)

def continuation : G Unit := .token fun cs =>
  if startsWith (fun c => c == '.' || c == '?') cs then some ((), 1) else none

/-- A block as a statement, unless the expression goes on after it. -/
def blockLikeStmt : G Stmt :=
  node ((fun value o => .expr o value false) <$> blockLike) <* .notAhead (ws *> continuation)

def semiStmt : G Stmt := node <| (fun value o => .expr o value true) <$> expr <* ws <* sym ";"

def stmtRule : G (List Stmt) :=
  (fun s => [s]) <$> letStmt
    <|> itemStmts
    <|> (fun s => [s]) <$> blockLikeStmt
    <|> (fun s => [s]) <$> semiStmt
    <|> (fun _ => []) <$> sym ";"

/-! ## Control flow -/

/-- The name of a loop, with the blanks after it. -/
def label : G (Option String) := .optional (lifetimeName <* ws <* colon <* ws)

def letCond : G Expr :=
  node <| (fun pat init o => .letCond o pat init)
    <$> (kw "let" *> ws *> armPat) <* ws <* equalsSign <* ws <*> expr

def cond : G Expr := letCond <|> expr

def ifRule : G Expr :=
  node <| (fun cond onTrue onFalse o => .ite o cond onTrue onFalse)
    <$> (kw "if" *> ws *> cond <* ws) <*> block
    <*> .optional (ws *> kw "else" *> ws *> (ifExpr <|> blockExpr))

/-- A while loop; its header reaches from the keyword to the end of the condition. -/
def whileRule : G Expr :=
  node <| (fun label (header, cond) body o => .whileLoop o cond body header label)
    <$> label <*> .spanned (kw "while" *> ws *> cond) <* ws <*> block

def loopRule : G Expr :=
  node <| (fun label body o => .loop o body label) <$> label <*> (kw "loop" *> ws *> block)

def forRule : G Expr :=
  node <| (fun label pat iter body o => .forLoop o pat iter body label)
    <$> label <*> (kw "for" *> ws *> pat <* ws) <*> (kw "in" *> ws *> expr <* ws) <*> block

def armBody : G Expr :=
  blockLike <* .optional (ws *> sym ",") <|> expr <* .optional (ws *> sym ",")

def matchArm : G Arm :=
  node <| (fun pat guard body o => .mk o pat guard body)
    <$> armPat <* ws <*> .optional (kw "if" *> ws *> expr <* ws) <* sym "=>" <* ws <*> armBody

def matchRule : G Expr :=
  node <| (fun scrutinee arms o => .matchArms o scrutinee arms)
    <$> (kw "match" *> ws *> expr <* ws)
    <*> (sym "\x7b" *> ws *> .many (matchArm <* ws) <* sym "\x7d")

def returnExpr : G Expr :=
  node <| (fun value o => .returnFn o value) <$> (kw "return" *> .optional (ws *> expr))

def breakExpr : G Expr :=
  node <| (fun label value o => .breakLoop o label value)
    <$> (kw "break" *> .optional (ws *> lifetimeName)) <*> .optional (ws *> expr)

def continueExpr : G Expr :=
  node <| (fun label o => .continueLoop o label)
    <$> (kw "continue" *> .optional (ws *> lifetimeName))

/-! ## Closures -/

def closureParam : G Param :=
  node <| (fun pat ty o => .mk o pat ty) <$> pat <*> .optional (ws *> colon *> ws *> ty)

def closureParams : G (List Param) :=
  (fun _ => []) <$> sym "||" <|> delimited "|" "|" (commaList closureParam)

/-- The result type of a closure, which then has a block for its body, and the body. -/
def closureBody : G (Option Ty × Expr) :=
  (fun ret body => (some ret, body)) <$> (arrow *> ws *> ty <* ws) <*> blockExpr
    <|> (fun body => (none, body)) <$> expr

def closure : G Expr :=
  node <| (fun isMove params (ret, body) o => .closure o params body ret isMove)
    <$> present (kw "move" <* ws) <*> closureParams <* ws <*> closureBody

/-! ## Struct literals, macro calls and paths -/

def pathExpr : G PathNode := call .pathExpr

def fullField : G FieldInit :=
  (fun name value => .mk name value) <$> ident <* ws <* colon <* ws <*> expr

def structField : G FieldInit :=
  .building
    (fun (span, name, value?) => do
      match value? with
      | some value => return .mk name value
      | none => return .mk name (← Build.node span (.path · [name] [])))
    (.spanned (Prod.mk <$> ident <*> .optional (ws *> colon *> ws *> expr)))

/-- The fields of a struct literal and the struct that gives the others.  The first field has its
value written, so that a block after a condition is not taken for fields. -/
def structBody : G (List FieldInit × Option Expr) :=
  (fun first rest base => (first :: rest, base)) <$> fullField
      <*> .many (ws *> sym "," *> ws *> structField)
      <*> .optional (ws *> sym "," *> ws *> sym ".." *> ws *> expr)
      <* .optional (ws *> sym ",")
    <|> (fun base => ([], some base)) <$> (sym ".." *> ws *> expr)

def structLit : G Expr :=
  node <| (fun path (fields, base) o => .structLit o path.segments fields base)
    <$> pathExpr <* ws <*> (sym "\x7b" *> ws *> structBody <* ws <* sym "\x7d")

def macroArgs (opening closing : String) : G MacroBody :=
  let separated : G (List Expr) :=
    List.cons <$> expr <*> .many (ws *> (sym "," <|> sym ";") *> ws *> expr)
      <* .optional (ws *> sym ",")
  (fun args => ⟨opening, args, none⟩) <$> delimited opening closing separated

def macroTokens (opening closing : String) : G MacroBody :=
  (fun (text, _) => ⟨opening, [], some (String.ofList (text.drop 1).dropLast)⟩) <$>
    .captured (sym opening *> tokenTrees *> sym closing)

def macroBodyRule : G MacroBody :=
  macroArgs "(" ")" <|> macroArgs "[" "]" <|> macroArgs "\x7b" "\x7d"
    <|> macroTokens "(" ")" <|> macroTokens "[" "]" <|> macroTokens "\x7b" "\x7d"

def macroBody : G MacroBody := call .macroBody

def macroCall : G Expr :=
  node <| (fun path body o => .macroCall o path body.args body.delimiter body.tokens)
    <$> simplePath <* sym "!" <* ws <*> macroBody

/-- A segment of a path in an expression: a name or generic arguments. -/
inductive PathSegment where
  | args (args : List Ty)
  | name (name : String)

def PathSegment.name? : PathSegment → Option String
  | name n => some n
  | args _ => none

def PathSegment.argList : PathSegment → List Ty
  | name _ => []
  | args a => a

def pathExprRule : G PathNode :=
  node <| (fun first rest o =>
      ⟨o, first :: rest.filterMap PathSegment.name?, rest.flatMap PathSegment.argList⟩)
    <$> (.optional (sym "::") *> ident)
    <*> .many
      (ws *> sym "::" *> ws *> (PathSegment.args <$> genericArgs <|> PathSegment.name <$> ident))

def parenExpr : G Expr := parenthesized .tuple exprList

def arrayExpr : G Expr :=
  node ((fun elem count o => .arrayRepeat o elem count)
      <$> (sym "[" *> ws *> expr <* ws <* sym ";" <* ws) <*> expr <* ws <* sym "]")
    <|> node ((fun elems o => .array o elems) <$> delimited "[" "]" exprList)

def primaryRule : G Expr :=
  literal <|> closure <|> whileExpr <|> loopExpr <|> forExpr <|> ifExpr <|> matchExpr
    <|> unsafeBlock <|> blockExpr <|> returnExpr <|> breakExpr <|> continueExpr <|> structLit
    <|> macroCall <|> PathNode.expr <$> pathExpr <|> parenExpr <|> arrayExpr

end DrainLint.Grammar
