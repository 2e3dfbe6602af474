import DrainLint.Hir.Basic

/-! # Library definitions

The definition paths of the library items that the lint and the inference know, and the paths by
which source text names them.

- `canonicalType?`: the definition that a type path names;
- `variant?`: the enum variant that a prelude name stands for;
- `isDefinition`: whether a resolved call is the call of a definition.
-/

namespace DrainLint.Library

open Hir (Path)

def vec : Path := ["alloc", "vec", "Vec"]

def vecDeque : Path := ["alloc", "collections", "vec_deque", "VecDeque"]

def option : Path := ["core", "option", "Option"]

def result : Path := ["core", "result", "Result"]

def box : Path := ["alloc", "boxed", "Box"]

def string : Path := ["alloc", "string", "String"]

def vecPop : Path := vec ++ ["pop"]

def vecIsEmpty : Path := vec ++ ["is_empty"]

def optionUnwrap : Path := option ++ ["unwrap"]

def optionExpect : Path := option ++ ["expect"]

def sliceMethods : Path := ["core", "slice", "<impl [T]>"]

def sliceIter : Path := ["core", "slice", "iter", "Iter"]

def sliceIterMut : Path := ["core", "slice", "iter", "IterMut"]

def vecIntoIter : Path := ["alloc", "vec", "into_iter", "IntoIter"]

def vecDrain : Path := ["alloc", "vec", "drain", "Drain"]

def range : Path := ["core", "ops", "range", "Range"]

def iterator : Path := ["core", "iter", "traits", "iterator", "Iterator"]

def cloneClone : Path := ["core", "clone", "Clone", "clone"]

def iteratorTypes : List Path := [sliceIter, sliceIterMut, vecIntoIter, vecDrain, range]

/-- The paths that name a library type, with its definition: the names of the prelude and the full
paths. -/
def typePaths : List (Path × Path) :=
  [(["Vec"], vec), (["std", "vec", "Vec"], vec), (vec, vec),
    (["Option"], option), (["std", "option", "Option"], option), (option, option),
    (["Result"], result), (["std", "result", "Result"], result), (result, result),
    (["Box"], box), (["std", "boxed", "Box"], box), (box, box),
    (["String"], string), (["std", "string", "String"], string), (string, string),
    (["std", "collections", "VecDeque"], vecDeque),
    (["std", "collections", "vec_deque", "VecDeque"], vecDeque),
    (["alloc", "collections", "VecDeque"], vecDeque), (vecDeque, vecDeque)]

def canonicalType? (segments : Path) : Option Path := typePaths.lookup segments

/-- The enum variants of the prelude. -/
inductive Variant where
  | some
  | none
  | ok
  | err
  deriving DecidableEq

def variant? : String → Option Variant
  | "Some" => .some .some
  | "None" => .some .none
  | "Ok" => .some .ok
  | "Err" => .some .err
  | _ => .none

namespace Variant

def owner : Variant → Path
  | some | none => option
  | ok | err => result

def name : Variant → String
  | some => "Some"
  | none => "None"
  | ok => "Ok"
  | err => "Err"

def path (variant : Variant) : Path := variant.owner ++ [variant.name]

end Variant

def isDefinition (callee? : Option Path) (definition : Path) : Bool := callee? == some definition

def primitives : List String :=
  ["bool", "char", "str", "i8", "i16", "i32", "i64", "i128", "isize", "u8", "u16", "u32", "u64",
    "u128", "usize", "f32", "f64"]

def externRoots : List String := ["std", "core", "alloc"]

end DrainLint.Library
