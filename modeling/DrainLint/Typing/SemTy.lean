import DrainLint.Library.Paths

/-! # Resolved types

The types that the inference computes: a definition with arguments, a reference, a tuple and so on,
or unknown.  All kinds share one shape, so that types are compared and changed in one way.

- `SemTy`: a kind, a path, arguments and mutability;
- `SemTy.text?`: how a type is shown;
- `SemTy.withoutRefs`: the type below all references.
-/

namespace DrainLint.Typing

open Hir (Path)

inductive TyKind where
  | adt
  | ref
  | ptr
  | tuple
  | slice
  | array
  | prim
  | param
  | never
  | unknown
  deriving DecidableEq

def TyKind.name : TyKind → String
  | adt => "adt"
  | ref => "ref"
  | ptr => "ptr"
  | tuple => "tuple"
  | slice => "slice"
  | array => "array"
  | prim => "prim"
  | param => "param"
  | never => "never"
  | unknown => "unknown"

def TyKind.ofName? (name : String) : Option TyKind :=
  [adt, ref, ptr, tuple, slice, array, prim, param, never, unknown].find? (·.name == name)

/-- A resolved type.  The path is that of the definition, or the name of a primitive type or of a
generic parameter.  The arguments are those of the definition, the elements of a tuple, or the one
type below a reference, a pointer, a slice or an array. -/
inductive SemTy where
  | mk (kind : TyKind) (path : Path) (args : List SemTy) (isMut : Bool)

namespace SemTy

mutual

/-- Types are equal where kind, path, arguments and mutability are. -/
def decEq (left right : SemTy) : Decidable (left = right) :=
  match left, right with
  | mk kind path args isMut, mk kind' path' args' isMut' =>
    match decEqAll args args' with
    | isTrue sameArgs =>
      if same : kind = kind' ∧ path = path' ∧ isMut = isMut' then
        isTrue (by rw [same.1, same.2.1, same.2.2, sameArgs])
      else isFalse fun equal => by injection equal; simp_all
    | isFalse otherArgs => isFalse fun equal => by injection equal; contradiction

/-- Lists of types are equal where their types are, one by one. -/
def decEqAll (left right : List SemTy) : Decidable (left = right) :=
  match left, right with
  | [], [] => isTrue rfl
  | [], _ :: _ => isFalse nofun
  | _ :: _, [] => isFalse nofun
  | ty :: tys, ty' :: tys' =>
    match decEq ty ty', decEqAll tys tys' with
    | isTrue same, isTrue sameRest => isTrue (by rw [same, sameRest])
    | isFalse other, _ => isFalse fun equal => by injection equal; contradiction
    | _, isFalse otherRest => isFalse fun equal => by injection equal; contradiction

end

instance : DecidableEq SemTy := decEq

def kind : SemTy → TyKind
  | mk kind .. => kind

def path : SemTy → Path
  | mk _ path .. => path

def args : SemTy → List SemTy
  | mk _ _ args _ => args

def isMut : SemTy → Bool
  | mk _ _ _ isMut => isMut

def unknown : SemTy := mk .unknown [] [] false

def never : SemTy := mk .never [] [] false

def adt (path : Path) (args : List SemTy) : SemTy := mk .adt path args false

def ref (inner : SemTy) (isMut : Bool := false) : SemTy := mk .ref [] [inner] isMut

def ptr (inner : SemTy) (isMut : Bool) : SemTy := mk .ptr [] [inner] isMut

def prim (name : String) : SemTy := mk .prim [name] [] false

def param (name : String) : SemTy := mk .param [name] [] false

def tuple (elems : List SemTy) : SemTy := mk .tuple [] elems false

def slice (elem : SemTy) : SemTy := mk .slice [] [elem] false

def array (elem : SemTy) : SemTy := mk .array [] [elem] false

def unit : SemTy := tuple []

def bool : SemTy := prim "bool"

def usize : SemTy := prim "usize"

def char : SemTy := prim "char"

def integer : SemTy := prim "\x7binteger\x7d"

def float : SemTy := prim "\x7bfloat\x7d"

def str : SemTy := prim "str"

def byte : SemTy := prim "u8"

def option (inner : SemTy) : SemTy := adt Library.option [inner]

/-- The first argument: what a reference refers to, what a container holds. -/
def inner (ty : SemTy) : SemTy := ty.args.headD unknown

/-- The second argument: the error of a result. -/
def second (ty : SemTy) : SemTy := (ty.args.drop 1).headD unknown

def isKnown (ty : SemTy) : Bool := ty.kind != .unknown

def isAdt (ty : SemTy) (path : Path) : Bool := ty.kind == .adt && ty.path == path

def isSequence (ty : SemTy) : Bool := ty.kind == .slice || ty.kind == .array

def withoutRefs : SemTy → SemTy
  | mk .ref _ (inner :: _) _ => inner.withoutRefs
  | mk .ref _ [] _ => unknown
  | ty => ty

mutual

/-- How a type is shown.  A definition, a primitive type and a parameter are shown by name, and
without a name by nothing. -/
def text? : SemTy → Option String
  | mk .adt path args _ => do
    let name ← path.getLast?
    let args ← texts? args
    return if args.isEmpty then name else name ++ "<" ++ ", ".intercalate args ++ ">"
  | mk .ref _ args isMut => return "&" ++ (if isMut then "mut " else "") ++ (← innerText? args)
  | mk .ptr _ args isMut => return (if isMut then "*mut " else "*const ") ++ (← innerText? args)
  | mk .tuple _ args _ => return "(" ++ ", ".intercalate (← texts? args) ++ ")"
  | mk .slice _ args _ => return "[" ++ (← innerText? args) ++ "]"
  | mk .array _ args _ => return "[" ++ (← innerText? args) ++ "; _]"
  | mk .prim path _ _ | mk .param path _ _ => path.head?
  | mk .never _ _ _ => some "!"
  | mk .unknown _ _ _ => some "?"

def texts? : List SemTy → Option (List String)
  | [] => some []
  | ty :: tys => return (← ty.text?) :: (← texts? tys)

def innerText? : List SemTy → Option String
  | [] => some "?"
  | ty :: _ => ty.text?

end

end SemTy
end DrainLint.Typing
