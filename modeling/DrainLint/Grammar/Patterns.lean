import DrainLint.Grammar.Rule

/-! # Patterns

The rules of patterns.  A capitalised name by itself is a path, and no binding.
-/

namespace DrainLint.Grammar

open Hir Peg

def refPat : G Pat :=
  node <| (fun isMut inner o => .ref o isMut inner)
    <$> ((sym "&&" <|> sym "&") *> ws *> present (kw "mut" <* ws)) <*> pat

def tuplePat : G Pat := parenthesized .tuple (commaList pat)

def slicePat : G Pat :=
  node <| (fun elems o => .slice o elems) <$> delimited "[" "]" (commaList pat)

def restPat : G Pat := node <| (fun _ o => .rest o) <$> sym ".."

def wildPat : G Pat := node <| (fun _ o => .wild o) <$> underscore

/-- A literal, with or without a minus in front of it. -/
def litPat : G Pat :=
  .building
    (fun (span, isNegative, value) => do
      let signed ← if isNegative then Build.node span (.unary · .neg value) else pure value
      Build.node span (.lit · signed))
    (.spanned (Prod.mk <$> present (sym "-" <* ws) <*> literal))

def tupleStructPat : G Pat :=
  node <| (fun path elems o => .tupleStruct o path elems)
    <$> simplePath <* ws <*> delimited "(" ")" (commaList pat)

def structPat : G Pat :=
  node <| (fun path o => .struct o path)
    <$> simplePath <* ws <* sym "\x7b" <* tokenTrees <* sym "\x7d"

def pathPat : G Pat :=
  node <| (fun first second rest o => .path o (first :: second :: rest))
    <$> ident <*> (ws *> sym "::" *> ws *> ident) <*> .many (ws *> sym "::" *> ws *> ident)

def isCapitalised (name : String) : Bool :=
  match name.toList with
  | c :: _ => c.isUpper
  | [] => false

def identPat : G Pat :=
  node <| (fun byRef isMut name sub o =>
      if !(byRef || isMut || sub.isSome) && isCapitalised name then .path o [name]
      else .binding o name isMut byRef sub)
    <$> present (kw "ref" <* ws) <*> present (kw "mut" <* ws) <*> ident
    <*> .optional (ws *> sym "@" *> ws *> pat)

def patRule : G Pat :=
  refPat <|> tuplePat <|> slicePat <|> restPat <|> wildPat <|> litPat <|> tupleStructPat
    <|> structPat <|> pathPat <|> identPat

/-- Alternatives; a single one stands for itself. -/
def armPatRule : G Pat :=
  .building
    (fun (span, first, rest) =>
      match rest with
      | [] => pure first
      | rest => Build.node span (.or · (first :: rest)))
    (.spanned
      (Prod.mk <$> (.optional (sym "|" <* ws) *> pat) <*> .many (ws *> sym "|" *> ws *> pat)))

def simplePathRule : G Path := pathOf ident

end DrainLint.Grammar
