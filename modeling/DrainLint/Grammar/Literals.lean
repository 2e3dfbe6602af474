import DrainLint.Grammar.Rule

/-! # Literals and token trees

The rules of literals, and of the bracketed runs of tokens that the grammar does not look into.  The
strings and characters in such a run are built like any other literal.
-/

namespace DrainLint.Grammar

open Hir Peg

def literalNode (word : List Char → Option Nat)
    (read : List Char → Except LiteralFault (Literal × String)) : G Expr :=
  .building
    (fun (span, spelling) => do
      let (value, suffix) ← Build.ofExcept (read spelling)
      Build.node span (.lit · value suffix))
    (.spanned (.token (Scanner.ofLength word)))

def stringLitRule : G Expr :=
  literalNode stringLit fun spelling => (readString spelling).map (·, "")

def charLitRule : G Expr := literalNode charLit fun spelling => (readChar spelling).map (·, "")

def charLiteral : G Expr := call .charLit

def literalRule : G Expr :=
  literalNode floatLit (fun spelling => (readFloat spelling).map fun (bits, suffix) =>
      (.float bits, suffix))
    <|> literalNode intLit (fun spelling => (readInt spelling).map fun (value, suffix) =>
      (.int value, suffix))
    <|> stringLiteral
    <|> charLiteral
    <|> node ((fun value o => .lit o (.bool value) "") <$> .token boolLit)

def tokenTree : G Unit :=
  .token plainTokens
    <|> (fun _ => ()) <$> .token (Scanner.ofLength comment)
    <|> (fun _ => ()) <$> stringLiteral
    <|> (fun _ => ()) <$> charLiteral
    <|> sym "'"
    <|> sym "/"
    <|> sym "(" *> tokenTrees *> sym ")"
    <|> sym "[" *> tokenTrees *> sym "]"
    <|> sym "\x7b" *> tokenTrees *> sym "\x7d"

def tokenTreesRule : G Unit := (fun _ => ()) <$> .many tokenTree

end DrainLint.Grammar
