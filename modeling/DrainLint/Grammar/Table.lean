import DrainLint.Grammar.Items
import DrainLint.Grammar.Literals
import DrainLint.Grammar.Operators
import DrainLint.Grammar.Patterns
import DrainLint.Peg.Run

/-! # The grammar

The expression of every rule, and the run of the grammar on a text.
-/

namespace DrainLint.Grammar

open Hir Peg

def rules : (name : Rule) → G (Val name)
  | .crate => crateRule
  | .item => itemRule
  | .declaration => declarationRule
  | .useTree => useTreeRule
  | .genericParams => genericParamsRule
  | .bounds => boundsRule
  | .ty => tyRule
  | .tyPath => tyPathRule
  | .genericArgs => genericArgsRule
  | .pat => patRule
  | .armPat => armPatRule
  | .simplePath => simplePathRule
  | .block => blockRule
  | .unsafeBlock => unsafeBlockRule
  | .stmt => stmtRule
  | .blockLike => blockLikeRule
  | .expr => exprRule
  | .operand => operandRule
  | .binary => binaryRule
  | .unary => unaryRule
  | .chain => chainRule
  | .primary => primaryRule
  | .literal => literalRule
  | .stringLit => stringLitRule
  | .charLit => charLitRule
  | .pathExpr => pathExprRule
  | .exprList => exprListRule
  | .ifExpr => ifRule
  | .matchExpr => matchRule
  | .whileExpr => whileRule
  | .loopExpr => loopRule
  | .forExpr => forRule
  | .macroBody => macroBodyRule
  | .tokenTrees => tokenTreesRule

def matchCrate? (text : List Char) : Outcome Crate := match? rules ruleCount .crate text

end DrainLint.Grammar
