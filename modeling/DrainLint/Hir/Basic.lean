import DrainLint.Source.Span

/-! # The high-level representation of a crate

What a parsed file is: types, patterns, expressions, statements and items, each with its origin.
Parentheses are gone, and a last expression without a semicolon is the value of its block.

- `Origin`: the number and the span of a node;
- `Ty`, `Pat`, `Expr`, `Block`, `Stmt`, `Item` and the parts they share;
- `Crate`: the items of one file with its inner attributes;
- `Resolver`: what is known about the names of a crate, by the numbers of the nodes that use them.
-/

namespace DrainLint.Hir

/-- Where a node comes from: its number, unique in the crate, and its place in the text. -/
structure Origin where
  id : Nat
  span : Span
  deriving DecidableEq

abbrev Path := List String

def Path.text (path : Path) : String := "::".intercalate path

/-- An outer or inner attribute, kept as its source text. -/
structure Attribute where
  text : List Char
  span : Span
  deriving DecidableEq

inductive UnaryOp where
  | not
  | neg
  | deref
  deriving DecidableEq

def UnaryOp.symbol : UnaryOp → String
  | not => "!"
  | neg => "-"
  | deref => "*"

inductive BinaryOp where
  | or
  | and
  | eq
  | ne
  | lt
  | gt
  | le
  | ge
  | bitOr
  | bitXor
  | bitAnd
  | shl
  | shr
  | add
  | sub
  | mul
  | div
  | rem
  deriving DecidableEq

namespace BinaryOp

def symbol : BinaryOp → String
  | or => "||"
  | and => "&&"
  | eq => "=="
  | ne => "!="
  | lt => "<"
  | gt => ">"
  | le => "<="
  | ge => ">="
  | bitOr => "|"
  | bitXor => "^"
  | bitAnd => "&"
  | shl => "<<"
  | shr => ">>"
  | add => "+"
  | sub => "-"
  | mul => "*"
  | div => "/"
  | rem => "%"

def precedence : BinaryOp → Nat
  | or => 1
  | and => 2
  | eq | ne | lt | gt | le | ge => 3
  | bitOr => 4
  | bitXor => 5
  | bitAnd => 6
  | shl | shr => 7
  | add | sub => 8
  | mul | div | rem => 9

def isComparison : BinaryOp → Bool
  | or | and | eq | ne | lt | gt | le | ge => true
  | _ => false

end BinaryOp

/-- The value of a literal.  Texts are lists of code points, surrogates included; a floating point
number is given by the bits of its double. -/
inductive Literal where
  | int (value : Nat)
  | float (bits : Nat)
  | str (points : List Nat)
  | byteStr (points : List Nat)
  | char (points : List Nat)
  | byte (points : List Nat)
  | bool (value : Bool)
  deriving DecidableEq

def Literal.kind : Literal → String
  | int _ => "int"
  | float _ => "float"
  | str _ => "str"
  | byteStr _ => "byte_str"
  | char _ => "char"
  | byte _ => "byte"
  | bool _ => "bool"

mutual

/-- Types as written. -/
inductive Ty where
  | path (origin : Origin) (segments : Path) (args : List Ty)
  | ref (origin : Origin) (isMut : Bool) (inner : Ty)
  | ptr (origin : Origin) (isMut : Bool) (inner : Ty)
  | tuple (origin : Origin) (elems : List Ty)
  | slice (origin : Origin) (inner : Ty) (length : Option Expr)
  | fnPtr (origin : Origin) (params : List Ty) (ret : Option Ty)
  | bounded (origin : Origin) (keyword : String) (bound : Option Ty)
  | never (origin : Origin)
  | infer (origin : Origin)

/-- Patterns.  A struct pattern keeps its path only. -/
inductive Pat where
  | binding (origin : Origin) (name : String) (isMut byRef : Bool) (sub : Option Pat)
  | wild (origin : Origin)
  | rest (origin : Origin)
  | tuple (origin : Origin) (elems : List Pat)
  | slice (origin : Origin) (elems : List Pat)
  | tupleStruct (origin : Origin) (path : Path) (elems : List Pat)
  | struct (origin : Origin) (path : Path)
  | path (origin : Origin) (path : Path)
  | lit (origin : Origin) (value : Expr)
  | ref (origin : Origin) (isMut : Bool) (inner : Pat)
  | or (origin : Origin) (alts : List Pat)

/-- Expressions. -/
inductive Expr where
  | lit (origin : Origin) (value : Literal) (suffix : String)
  | path (origin : Origin) (segments : Path) (genericArgs : List Ty)
  | methodCall (origin : Origin) (receiver : Expr) (method : String) (args : List Expr)
      (methodSpan : Span) (genericArgs : List Ty)
  | call (origin : Origin) (func : Expr) (args : List Expr)
  | macroCall (origin : Origin) (path : Path) (args : List Expr) (delimiter : String)
      (tokens : Option String)
  | field (origin : Origin) (base : Expr) (name : String)
  | index (origin : Origin) (base index : Expr)
  | unary (origin : Origin) (op : UnaryOp) (operand : Expr)
  | addrOf (origin : Origin) (isMut : Bool) (operand : Expr)
  | binary (origin : Origin) (op : BinaryOp) (lhs rhs : Expr)
  | assign (origin : Origin) (target value : Expr) (op : Option BinaryOp)
  | cast (origin : Origin) (expr : Expr) (ty : Ty)
  | question (origin : Origin) (expr : Expr)
  | range (origin : Origin) (start stop : Option Expr) (inclusive : Bool)
  | tuple (origin : Origin) (elems : List Expr)
  | array (origin : Origin) (elems : List Expr)
  | arrayRepeat (origin : Origin) (elem count : Expr)
  | structLit (origin : Origin) (path : Path) (fields : List FieldInit) (base : Option Expr)
  | block (block : Block)
  | letCond (origin : Origin) (pat : Pat) (init : Expr)
  | ite (origin : Origin) (cond : Expr) (onTrue : Block) (onFalse : Option Expr)
  | whileLoop (origin : Origin) (cond : Expr) (body : Block) (header : Span) (label : Option String)
  | loop (origin : Origin) (body : Block) (label : Option String)
  | forLoop (origin : Origin) (pat : Pat) (iter : Expr) (body : Block) (label : Option String)
  | matchArms (origin : Origin) (scrutinee : Expr) (arms : List Arm)
  | closure (origin : Origin) (params : List Param) (body : Expr) (ret : Option Ty) (isMove : Bool)
  | breakLoop (origin : Origin) (label : Option String) (expr : Option Expr)
  | continueLoop (origin : Origin) (label : Option String)
  | returnFn (origin : Origin) (expr : Option Expr)

/-- A field of a struct literal with its value. -/
inductive FieldInit where
  | mk (name : String) (value : Expr)

/-- A block: its statements and, after them, the expression that is its value. -/
inductive Block where
  | mk (origin : Origin) (stmts : List Stmt) (tail : Option Expr) (isUnsafe : Bool)

/-- An arm of a match. -/
inductive Arm where
  | mk (origin : Origin) (pat : Pat) (guard : Option Expr) (body : Expr)

/-- A parameter of a function or closure. -/
inductive Param where
  | mk (origin : Origin) (pat : Pat) (ty : Option Ty)

/-- Statements. -/
inductive Stmt where
  | letStmt (origin : Origin) (pat : Pat) (ty : Option Ty) (init : Option Expr) (els : Option Block)
  | expr (origin : Origin) (expr : Expr) (semi : Bool)
  | item (origin : Origin) (item : Item)

/-- A field of a struct; the fields of a tuple struct are named by their position. -/
inductive FieldDef where
  | mk (origin : Origin) (name : String) (ty : Ty)

/-- Items.  A `use` declaration has one item for every leaf of its tree. -/
inductive Item where
  | fnDef (origin : Origin) (name : String) (generics : List String) (params : List Param)
      (ret : Option Ty) (body : Option Block) (attrs : List Attribute)
  | structDef (origin : Origin) (name : String) (generics : List String) (fields : List FieldDef)
      (attrs : List Attribute)
  | enumDef (origin : Origin) (name : String) (attrs : List Attribute)
  | typeAlias (origin : Origin) (name : String) (generics : List String) (ty : Option Ty)
      (attrs : List Attribute)
  | constItem (origin : Origin) (name : String) (ty : Ty) (value : Option Expr)
      (attrs : List Attribute)
  | useDecl (origin : Origin) (path : Path) (newName : Option String) (glob : Bool)
      (attrs : List Attribute)
  | implBlock (origin : Origin) (generics : List String) (selfTy : Ty) (traitRef : Option Ty)
      (items : List Item) (attrs : List Attribute)
  | traitDef (origin : Origin) (name : String) (generics : List String) (items : List Item)
      (attrs : List Attribute)
  | modDef (origin : Origin) (name : String) (items : List Item) (attrs : List Attribute)
  | macroItem (origin : Origin) (path : Path) (attrs : List Attribute)

end

/-- The items of one file with its inner attributes. -/
structure Crate where
  origin : Origin
  items : List Item
  attrs : List Attribute

def Ty.origin : Ty → Origin
  | .path o .. | .ref o .. | .ptr o .. | .tuple o .. | .slice o .. | .fnPtr o .. | .bounded o ..
  | .never o | .infer o => o

def Pat.origin : Pat → Origin
  | .binding o .. | .wild o | .rest o | .tuple o .. | .slice o .. | .tupleStruct o .. | .struct o ..
  | .path o .. | .lit o .. | .ref o .. | .or o .. => o

def Block.origin : Block → Origin
  | .mk o .. => o

def Block.stmts : Block → List Stmt
  | .mk _ stmts .. => stmts

def Block.tail : Block → Option Expr
  | .mk _ _ tail _ => tail

def Expr.origin : Expr → Origin
  | .lit o .. | .path o .. | .methodCall o .. | .call o .. | .macroCall o .. | .field o ..
  | .index o .. | .unary o .. | .addrOf o .. | .binary o .. | .assign o .. | .cast o ..
  | .question o .. | .range o .. | .tuple o .. | .array o .. | .arrayRepeat o ..
  | .structLit o .. | .letCond o .. | .ite o .. | .whileLoop o .. | .loop o .. | .forLoop o ..
  | .matchArms o .. | .closure o .. | .breakLoop o .. | .continueLoop o .. | .returnFn o .. => o
  | .block b => b.origin

def FieldInit.name : FieldInit → String
  | .mk name _ => name

def FieldInit.value : FieldInit → Expr
  | .mk _ value => value

def Arm.origin : Arm → Origin
  | .mk o .. => o

def Param.origin : Param → Origin
  | .mk o .. => o

def Param.pat : Param → Pat
  | .mk _ pat _ => pat

def Stmt.origin : Stmt → Origin
  | .letStmt o .. | .expr o .. | .item o .. => o

def FieldDef.origin : FieldDef → Origin
  | .mk o .. => o

namespace Item

def origin : Item → Origin
  | .fnDef o .. | .structDef o .. | .enumDef o .. | .typeAlias o .. | .constItem o ..
  | .useDecl o .. | .implBlock o .. | .traitDef o .. | .modDef o .. | .macroItem o .. => o

def attrs : Item → List Attribute
  | .fnDef _ _ _ _ _ _ attrs | .structDef _ _ _ _ attrs | .enumDef _ _ attrs
  | .typeAlias _ _ _ _ attrs | .constItem _ _ _ _ attrs | .useDecl _ _ _ _ attrs
  | .implBlock _ _ _ _ _ attrs | .traitDef _ _ _ _ attrs | .modDef _ _ _ attrs
  | .macroItem _ _ attrs => attrs

/-- The item with other attributes; its origin stays. -/
def withAttrs (attrs : List Attribute) : Item → Item
  | .fnDef o name generics params ret body _ => .fnDef o name generics params ret body attrs
  | .structDef o name generics fields _ => .structDef o name generics fields attrs
  | .enumDef o name _ => .enumDef o name attrs
  | .typeAlias o name generics ty _ => .typeAlias o name generics ty attrs
  | .constItem o name ty value _ => .constItem o name ty value attrs
  | .useDecl o path newName glob _ => .useDecl o path newName glob attrs
  | .implBlock o generics selfTy traitRef items _ =>
    .implBlock o generics selfTy traitRef items attrs
  | .traitDef o name generics items _ => .traitDef o name generics items attrs
  | .modDef o name items _ => .modDef o name items attrs
  | .macroItem o path _ => .macroItem o path attrs

end Item

/-! ## Resolvers -/

/-- The function that a call calls and the local binding that a path refers to, where known. -/
structure Resolver where
  callee : Nat → Option Path
  binding : Nat → Option Nat

def Resolver.unknowing : Resolver := ⟨fun _ => none, fun _ => none⟩

end DrainLint.Hir
