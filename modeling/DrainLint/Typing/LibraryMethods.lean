import DrainLint.Typing.SemTy

/-! # Methods of the library

The result types of the library methods that the inference follows, as functions of the type of the
receiver.

- `libraryMethod?`: the methods of a library type;
- `sliceMethod?`, `iteratorMethod?`: the methods of slices and of iterators.
-/

namespace DrainLint.Typing

open Hir (Path)
open SemTy

abbrev ReturnType := SemTy → SemTy

def vecMethod? : String → Option ReturnType
  | "pop" => some fun ty => option ty.inner
  | "is_empty" => some fun _ => bool
  | "len" | "capacity" => some fun _ => usize
  | "push" | "clear" | "insert" | "truncate" | "reserve" | "retain" | "dedup" | "append" | "extend"
  | "extend_from_slice" => some fun _ => unit
  | "remove" | "swap_remove" => some inner
  | "split_off" => some id
  | "drain" => some fun ty => adt Library.vecDrain [ty.inner]
  | "into_iter" => some fun ty => adt Library.vecIntoIter [ty.inner]
  | "as_slice" => some fun ty => ref (slice ty.inner)
  | "as_mut_slice" => some fun ty => ref (slice ty.inner) true
  | _ => none

def vecDequeMethod? : String → Option ReturnType
  | "pop_back" | "pop_front" => some fun ty => option ty.inner
  | "push_back" | "push_front" | "clear" => some fun _ => unit
  | "is_empty" => some fun _ => bool
  | "len" => some fun _ => usize
  | "front" | "back" => some fun ty => option (ref ty.inner)
  | _ => none

def optionMethod? : String → Option ReturnType
  | "unwrap" | "expect" | "unwrap_or" | "unwrap_or_default" | "unwrap_or_else"
  | "unwrap_unchecked" => some inner
  | "is_some" | "is_none" => some fun _ => bool
  | "take" => some id
  | "as_ref" => some fun ty => option (ref ty.inner)
  | "as_mut" => some fun ty => option (ref ty.inner true)
  | "cloned" | "copied" => some fun ty => option ty.inner.withoutRefs
  | "ok_or" => some fun ty => adt Library.result [ty.inner, unknown]
  | _ => none

def resultMethod? : String → Option ReturnType
  | "unwrap" | "expect" | "unwrap_or" | "unwrap_or_default" => some inner
  | "unwrap_err" => some second
  | "is_ok" | "is_err" => some fun _ => bool
  | "ok" => some fun ty => option ty.inner
  | "err" => some fun ty => option ty.second
  | _ => none

def stringMethod? : String → Option ReturnType
  | "pop" => some fun _ => option char
  | "push" | "push_str" | "clear" => some fun _ => unit
  | "is_empty" => some fun _ => bool
  | "len" => some fun _ => usize
  | "as_str" => some fun _ => ref str
  | _ => none

def sliceMethod? : String → Option ReturnType
  | "iter" => some fun ty => adt Library.sliceIter [ref ty.inner]
  | "iter_mut" => some fun ty => adt Library.sliceIterMut [ref ty.inner true]
  | "first" | "last" | "get" => some fun ty => option (ref ty.inner)
  | "first_mut" | "last_mut" | "get_mut" => some fun ty => option (ref ty.inner true)
  | "is_empty" | "contains" => some fun _ => bool
  | "len" => some fun _ => usize
  | "sort" | "sort_unstable" | "reverse" | "swap" => some fun _ => unit
  | "to_vec" => some fun ty => adt Library.vec [ty.inner]
  | _ => none

def iteratorMethod? : String → Option ReturnType
  | "next" => some fun ty => option ty.inner
  | "rev" => some id
  | "count" => some fun _ => usize
  | _ => none

def libraryMethod? (owner : Path) (name : String) : Option ReturnType :=
  if owner = Library.vec then vecMethod? name
  else if owner = Library.vecDeque then vecDequeMethod? name
  else if owner = Library.option then optionMethod? name
  else if owner = Library.result then resultMethod? name
  else if owner = Library.string then stringMethod? name
  else none

end DrainLint.Typing
