import DrainLint.Grammar.Types
import DrainLint.Grammar.Expressions

/-! # Items

The rules of declarations, of the trees of `use`, and of a whole file.
-/

namespace DrainLint.Grammar

open Hir Peg

def items : G (List Item) := List.flatten <$> .many ((call .item : G (List Item)) <* ws)

/-! ## Functions -/

/-- A word in front of `fn`. -/
def fnQualifier : G Unit :=
  kw "const" <|> kw "async" <|> kw "unsafe" <|> kw "extern" <* .optional (ws *> stringLiteral)

/-- How `self` is taken. -/
inductive SelfForm where
  | byRef (isMut : Bool)
  | byValue (isMut : Bool) (ty : Option Ty)

/-- A `self` parameter.  Its type is `Self`, a reference to it, or the type written. -/
def SelfForm.param (span : Span) (form : SelfForm) : Build Param := do
  let selfTy ← Build.node span (Ty.path · ["Self"] [])
  match form with
  | byRef isMut =>
    let ty ← Build.node span (Ty.ref · isMut selfTy)
    let pat ← Build.node span (Pat.binding · "self" false false none)
    Build.node span (.mk · pat (some ty))
  | byValue isMut ty =>
    let pat ← Build.node span (Pat.binding · "self" isMut false none)
    Build.node span (.mk · pat (some (ty.getD selfTy)))

def selfParam : G Param :=
  .building (fun (span, form) => SelfForm.param span form)
    (.spanned (
      SelfForm.byRef
          <$> (sym "&" *> ws *> .optional (lifetimeName <* ws) *> present (kw "mut" <* ws)
            <* kw "self")
        <|> SelfForm.byValue <$> present (kw "mut" <* ws) <* kw "self"
          <*> .optional (ws *> colon *> ws *> ty)))

def typedParam : G Param :=
  node <| (fun pat ty o => .mk o pat (some ty)) <$> pat <* ws <* colon <* ws <*> ty

def fnParam : G Param := outerAttrs *> (selfParam <|> typedParam)

def fnDef : G Item :=
  node <| (fun name generics params ret body o => .fnDef o name generics params ret body [])
    <$> (.many (fnQualifier <* ws) *> kw "fn" *> ws *> ident <* ws)
    <*> generics
    <*> delimited "(" ")" (commaList fnParam) <* ws
    <*> .optional (arrow *> ws *> ty <* ws) <* whereClause
    <*> (some <$> block <|> (fun _ => none) <$> sym ";")

/-! ## Structs and enums -/

def fieldDef : G FieldDef :=
  node <| (fun name ty o => .mk o name ty)
    <$> (outerAttrs *> visibility *> ident) <* ws <* colon <* ws <*> ty

def namedFields : G (List FieldDef) := delimited "\x7b" "\x7d" (commaList fieldDef)

/-- Fields without names are named by their position; each has the span of its type. -/
def numberFields (index : Nat) : List Ty → Build (List FieldDef)
  | [] => pure []
  | ty :: rest => do
    let field ← Build.node ty.origin.span (.mk · (toString index) ty)
    return field :: (← numberFields (index + 1) rest)

def tupleFields : G (List FieldDef) :=
  .building (numberFields 0) (delimited "(" ")" (commaList (outerAttrs *> visibility *> ty)))

def structDef : G Item :=
  node <| (fun name generics fields o => .structDef o name generics fields [])
    <$> (kw "struct" *> ws *> ident <* ws) <*> generics <* whereClause
    <*> (namedFields
      <|> tupleFields <* ws <* whereClause <* sym ";"
      <|> (fun _ => []) <$> sym ";")

/-- An enum; its variants are not looked into. -/
def enumDef : G Item :=
  node <| (fun name o => .enumDef o name [])
    <$> (kw "enum" *> ws *> ident <* ws) <* generics <* whereClause
    <* sym "\x7b" <* tokenTrees <* sym "\x7d"

/-! ## Implementations and traits -/

def implBlock : G Item :=
  node <| (fun generics traitRef selfTy items o => .implBlock o generics selfTy traitRef items [])
    <$> (.optional (kw "unsafe" <* ws) *> kw "impl" *> ws *> generics)
    <*> .optional (.optional (sym "!") *> tyPath <* ws <* kw "for" <* ws)
    <*> ty <* ws <* whereClause
    <*> (sym "\x7b" *> ws *> items <* sym "\x7d")

def traitDef : G Item :=
  node <| (fun name generics items o => .traitDef o name generics items [])
    <$> (.optional (kw "unsafe" <* ws) *> kw "trait" *> ws *> ident <* ws)
    <*> generics <* .optional (colon *> ws *> bounds <* ws) <* whereClause
    <*> (sym "\x7b" *> ws *> items <* sym "\x7d")

/-! ## Use declarations -/

def useTree : G (List UseLeaf) := call .useTree

def usePath : G Path := .optional (sym "::") *> pathOf ident

def useGroup : G (List UseLeaf) :=
  List.flatten <$> delimited "\x7b" "\x7d" (commaList useTree)

def UseLeaf.under (path : Path) (leaf : UseLeaf) : UseLeaf :=
  { leaf with path := path ++ leaf.path }

def useTreeRule : G (List UseLeaf) :=
  (fun path leaves => leaves.map (UseLeaf.under path))
      <$> usePath <* ws <* sym "::" <* ws <*> useGroup
    <|> useGroup
    <|> (fun path => [⟨path, none, true⟩]) <$> usePath <* ws <* sym "::" <* ws <* sym "*"
    <|> (fun path newName => [⟨path, newName, false⟩])
      <$> usePath
      <*> .optional (ws *> kw "as" *> ws *> (ident <|> (fun _ => "_") <$> sym "_"))

/-- The leaves of a `use` declaration, each with the span of the declaration. -/
def useDecl : G (List Item) :=
  .building
    (fun (span, leaves) => Build.all <| leaves.map fun leaf =>
      Build.node span (.useDecl · leaf.path leaf.newName leaf.glob []))
    (.spanned (kw "use" *> ws *> useTree <* ws <* sym ";"))

/-! ## Aliases, constants, modules and macros -/

def typeAlias : G Item :=
  node <| (fun name generics ty o => .typeAlias o name generics ty [])
    <$> (kw "type" *> ws *> ident <* ws) <*> generics
    <* .optional (colon *> ws *> bounds <* ws) <* whereClause
    <*> .optional (equalsSign *> ws *> ty <* ws) <* sym ";"

def constItem : G Item :=
  node <| (fun name ty value o => .constItem o name ty value [])
    <$> ((kw "const" <|> kw "static") *> ws *> .optional (kw "mut" <* ws)
      *> (ident <|> (fun _ => "_") <$> sym "_"))
    <* ws <* colon <* ws <*> ty <* ws
    <*> .optional (equalsSign *> ws *> expr <* ws) <* sym ";"

def modDef : G Item :=
  node <| (fun name items o => .modDef o name items [])
    <$> (kw "mod" *> ws *> ident <* ws)
    <*> ((fun _ => []) <$> sym ";" <|> sym "\x7b" *> ws *> items <* sym "\x7d")

/-- A macro call in the place of an item; its body is read and dropped. -/
def macroItem : G Item :=
  node <| (fun path o => .macroItem o path [])
    <$> simplePath <* sym "!" <* ws <* .optional (ident <* ws) <* macroBody
    <* .optional (ws *> sym ";")

def single : G Item → G (List Item) := fun item => (fun i => [i]) <$> item

def declarationRule : G (List Item) :=
  single fnDef <|> single structDef <|> single enumDef <|> single implBlock <|> single traitDef
    <|> useDecl <|> single typeAlias <|> single constItem <|> single modDef

def itemRule : G (List Item) :=
  (fun attrs found => if attrs.isEmpty then found else found.map (Item.withAttrs attrs))
    <$> outerAttrs <* visibility
    <*> (declaration <|> single macroItem)

def crateRule : G Crate :=
  node <| (fun attrs items o => ⟨o, items, attrs⟩)
    <$> (ws *> .many (innerAttr <* ws)) <*> items

end DrainLint.Grammar
