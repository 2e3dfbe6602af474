import DrainLint.Grammar.Rule

/-! # Types and generics

The rules of types, of bounds, and of generic parameters and arguments.
-/

namespace DrainLint.Grammar

open Hir Peg

/-! ## Generic parameters and bounds -/

/-- The name at the front of a text, with the quote of a lifetime. -/
def leadingName (cs : List Char) : Option String :=
  let quote := if startsWith (· == '\'') cs then 1 else 0
  let name := cs.drop quote
  if startsWith isNameStart name then
    some (String.ofList (cs.take (quote + lengthWhile isNameRest name)))
  else none

/-- The name of a generic parameter from its text; a constant parameter has its keyword and spaces
in front of the name. -/
def genericParamName (text : List Char) : String :=
  let afterConst :=
    if "const".toList.isPrefixOf text && startsWith Text.isSpace (text.drop 5) then
      (text.drop 5).dropWhile Text.isSpace
    else text
  ((leadingName afterConst).orElse fun _ => leadingName text).getD ""

def bounds : G (List Ty) := call .bounds

/-- A generic parameter; its bounds and its default are read and dropped. -/
def genericParam : G String :=
  let lifetimeParam : G Unit := (fun _ _ => ()) <$> lifetimeName
    <*> .optional (ws *> colon *> ws *> bounds)
  let constParam : G Unit := (fun _ _ => ())
    <$> (kw "const" *> ws *> ident *> ws *> colon *> ws *> ty)
    <*> .optional (ws *> equalsSign *> ws *> expr)
  let typeParam : G Unit := (fun _ _ _ => ()) <$> ident
    <*> .optional (ws *> colon *> ws *> bounds)
    <*> .optional (ws *> equalsSign *> ws *> ty)
  (fun (text, _) => genericParamName text) <$>
    .captured (lifetimeParam <|> constParam <|> typeParam)

def genericParamsRule : G (List String) := delimited "<" ">" (commaList genericParam)

/-- Generic parameters with the blanks after them, if they are there. -/
def generics : G (List String) := optionalList (call .genericParams <* ws)

/-- A bound; a lifetime is no type. -/
def bound : G (Option Ty) :=
  ((fun _ => none) <$> lifetimeName)
    <|> some <$> (sym "?" *> ws *> tyPath)
    <|> some <$> (sym "(" *> ws *> tyPath <* ws <* sym ")")
    <|> some <$> (kw "for" *> ws *> call .genericParams *> ws *> tyPath)
    <|> some <$> tyPath

def boundsRule : G (List Ty) :=
  (fun first rest => (first :: rest).filterMap id)
    <$> bound <*> .many (ws *> sym "+" *> ws *> bound)

def wherePredicate : G Unit :=
  ((fun _ => ()) <$> lifetimeName <|> (fun _ => ()) <$> ty) <* ws <* colon <* ws <* bounds

/-- A where clause with the blanks after it, if it is there; it is read and dropped. -/
def whereClause : G Unit :=
  (fun _ => ()) <$> .optional (kw "where" *> ws *> commaList wherePredicate <* ws)

/-! ## Types -/

def refTy : G Ty :=
  node <| (fun isMut inner o => .ref o isMut inner)
    <$> (sym "&" *> ws *> .optional (lifetimeName <* ws) *> present (kw "mut" <* ws)) <*> ty

def ptrTy : G Ty :=
  node <| (fun isMut inner o => .ptr o isMut inner)
    <$> (sym "*" *> ws *> ((fun _ => false) <$> kw "const" <|> (fun _ => true) <$> kw "mut") <* ws)
    <*> ty

def tupleTy : G Ty := parenthesized .tuple (commaList ty)

def sliceTy : G Ty :=
  node <| (fun inner length o => .slice o inner length)
    <$> (sym "[" *> ws *> ty) <*> .optional (ws *> sym ";" *> ws *> expr) <* ws <* sym "]"

def neverTy : G Ty := node <| (fun _ o => .never o) <$> sym "!"

def inferTy : G Ty := node <| (fun _ o => .infer o) <$> underscore

/-- A type known by its bounds; the first bound is kept. -/
def boundedTy : G Ty :=
  node <| (fun keyword found o => .bounded o keyword found.head?)
    <$> ((fun _ => "impl") <$> kw "impl" <|> (fun _ => "dyn") <$> kw "dyn") <* ws <*> bounds

def fnPtrTy : G Ty :=
  node <| (fun params ret o => .fnPtr o params ret)
    <$> (.optional (kw "unsafe" <* ws)
      *> .optional (kw "extern" *> ws *> .optional (stringLiteral <* ws))
      *> kw "fn" *> ws *> delimited "(" ")" (commaList ty))
    <*> .optional (ws *> arrow *> ws *> ty)

def tyRule : G Ty :=
  refTy <|> ptrTy <|> tupleTy <|> sliceTy <|> neverTy <|> inferTy <|> boundedTy <|> fnPtrTy
    <|> tyPath

/-- A binding of an associated type; it is no argument of its own. -/
def assocBinding : G (Option Ty) :=
  (fun _ _ => none) <$> ident <* ws <* (equalsSign <|> colon) <* ws <*> ty

def genericArg : G (Option Ty) :=
  (fun _ => none) <$> lifetimeName
    <|> assocBinding
    <|> some <$> ty
    <|> (fun _ => none) <$> block
    <|> (fun _ => none) <$> literal

/-- Generic arguments; those that are types are kept. -/
def genericArgsRule : G (List Ty) :=
  (List.filterMap id) <$> delimited "<" ">" (commaList genericArg)

/-- The arguments of a callable bound; its result is read and dropped. -/
def callArgs : G (List Ty) :=
  delimited "(" ")" (commaList ty) <* .optional (ws *> arrow *> ws *> ty)

def tyPathSegment : G (String × List Ty) :=
  Prod.mk <$> ident
    <*> optionalList (ws *> .optional (sym "::") *> ws *> (genericArgs <|> callArgs))

/-- The arguments of a path: those of the last segment that has any. -/
def lastArgs (segments : List (String × List Ty)) : List Ty :=
  segments.foldl (fun kept (_, args) => if args.isEmpty then kept else args) []

def tyPathRule : G Ty :=
  node <| (fun first rest o =>
      .path o ((first :: rest).map Prod.fst) (lastArgs (first :: rest)))
    <$> (.optional (sym "::") *> tyPathSegment)
    <*> .many (ws *> sym "::" *> ws *> tyPathSegment)

end DrainLint.Grammar
