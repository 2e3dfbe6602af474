import DrainLint.Grammar.Literal

/-! # The rules of the grammar

The names of the rules, the type of the value of each, and the expressions that all rules share.
Blanks stand between the parts of a rule and never at its ends, so that the span of a rule is the
text of the construct.
-/

namespace DrainLint.Grammar

open Hir Peg

inductive Rule where
  | crate
  | item
  | declaration
  | useTree
  | genericParams
  | bounds
  | ty
  | tyPath
  | genericArgs
  | pat
  | armPat
  | simplePath
  | block
  | unsafeBlock
  | stmt
  | blockLike
  | expr
  | operand
  | binary
  | unary
  | chain
  | primary
  | literal
  | stringLit
  | charLit
  | pathExpr
  | exprList
  | ifExpr
  | matchExpr
  | whileExpr
  | loopExpr
  | forExpr
  | macroBody
  | tokenTrees
  deriving DecidableEq, Hashable

def ruleCount : Nat := 34

/-- One leaf of the tree of a `use` declaration. -/
structure UseLeaf where
  path : Path
  newName : Option String
  glob : Bool

/-- A path in an expression, before it is known what it names. -/
structure PathNode where
  origin : Origin
  segments : Path
  genericArgs : List Ty

def PathNode.expr (node : PathNode) : Expr := .path node.origin node.segments node.genericArgs

/-- What stands between the delimiters of a macro call: expressions, or else the bare text. -/
structure MacroBody where
  delimiter : String
  args : List Expr
  tokens : Option String

def Val : Rule → Type
  | .crate => Crate
  | .item | .declaration => List Item
  | .useTree => List UseLeaf
  | .genericParams => List String
  | .bounds | .genericArgs => List Ty
  | .ty | .tyPath => Ty
  | .pat | .armPat => Pat
  | .simplePath => Path
  | .block | .unsafeBlock => Block
  | .stmt => List Stmt
  | .blockLike | .expr | .operand | .binary | .unary | .chain | .primary | .literal | .stringLit
  | .charLit | .ifExpr | .matchExpr | .whileExpr | .loopExpr | .forExpr => Expr
  | .pathExpr => PathNode
  | .exprList => List Expr
  | .macroBody => MacroBody
  | .tokenTrees => Unit

abbrev G := Peg Rule Val

/-! ## Shared expressions -/

/-- Blanks and comments, if any. -/
def ws : G Unit := .token fun cs => some ((), blankLength cs)

def sym (sign : String) : G Unit := .token (word sign.toList)

def kw (name : String) : G Unit := .token (wholeWord name.toList)

def ident : G String := .token identifier

def lifetimeName : G String := .token lifetime

def colon : G Unit := .token (wordNotBefore [':'] (· == ':'))

def equalsSign : G Unit := .token equals

def arrow : G Unit := sym "->"

def underscore : G Unit := .token (wordNotBefore ['_'] isNameRest)

def call (name : Rule) : G (Val name) := .rule name

def ty : G Ty := call .ty

def tyPath : G Ty := call .tyPath

def pat : G Pat := call .pat

def expr : G Expr := call .expr

def block : G Block := call .block

def tokenTrees : G Unit := call .tokenTrees

def literal : G Expr := call .literal

def stringLiteral : G Expr := call .stringLit

def exprList : G (List Expr) := call .exprList

def genericArgs : G (List Ty) := call .genericArgs

def simplePath : G Path := call .simplePath

def armPat : G Pat := call .armPat

def declaration : G (List Item) := call .declaration

/-- Pieces between commas, at least one; a comma may follow the last. -/
def commaList {α : Type} (piece : G α) : G (List α) :=
  List.cons <$> piece <*> .many (ws *> sym "," *> ws *> piece) <* .optional (ws *> sym ",")

/-- Pieces between commas, or none, between two delimiters. -/
def delimited {α : Type} (opening closing : String) (pieces : G (List α)) : G (List α) :=
  sym opening *> ws *> optionalList (pieces <* ws) <* sym closing

def pathOf (first : G String) : G Path :=
  List.cons <$> first <*> .many (ws *> sym "::" *> ws *> ident)

/-- Whether a text between delimiters ends in a comma, trailing spaces aside. -/
def endsInComma (text : List Char) : Bool :=
  (Text.trimEnd (text.drop 1).dropLast).getLast? == some ','

/-- A list between parentheses: the one piece itself, unless a comma follows it. -/
def parenthesized {α : Type} (tuple : Origin → List α → α) (pieces : G (List α)) : G α :=
  .building
    (fun (span, text, values) =>
      match values with
      | [value] =>
        if endsInComma text then Build.node span (tuple · [value]) else pure value
      | values => Build.node span (tuple · values))
    (.spanned (.captured (delimited "(" ")" pieces)))

/-- An attribute that starts with a mark, kept as its text. -/
def attributeAfter (mark : String) : G Attribute :=
  (fun (span, text, _) => ⟨text, span⟩) <$>
    .spanned (.captured (sym mark *> sym "[" *> tokenTrees *> sym "]"))

def outerAttr : G Attribute := attributeAfter "#"

def innerAttr : G Attribute := attributeAfter "#!"

def outerAttrs : G (List Attribute) := .many (outerAttr <* ws)

/-- A visibility with the blanks after it, if it is there. -/
def visibility : G Unit :=
  (fun _ => ()) <$>
    .optional (kw "pub" <* .optional (ws *> sym "(" *> tokenTrees *> sym ")") <* ws)

end DrainLint.Grammar
