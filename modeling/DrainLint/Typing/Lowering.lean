import DrainLint.Typing.Declarations
import DrainLint.Typing.SemTy

/-! # Lowering

From types as written to resolved types: imports are followed, aliases replaced by what they stand
for, and generic parameters by what the environment says about them.

- `followImports`: a path with its imports followed;
- `namedType`: the type that a path with arguments names;
- `lower`: the type that a written type denotes;
- `deepChains`: the paths at which an expansion of aliases was given up.
-/

namespace DrainLint.Typing

open Hir

/-- What generic parameters stand for; the first entry of a name counts. -/
abbrev TypeEnv := Named SemTy

namespace TypeEnv

def ofParams (generics : List String) : TypeEnv :=
  ((typeParams generics).map fun name => (name, SemTy.param name)).reverse

def unknownParams (generics : List String) : TypeEnv :=
  (typeParams generics).map fun name => (name, SemTy.unknown)

/-- The environment that gives generic parameters their arguments, in order; of two parameters of
one name the last counts. -/
def ofArgs (generics : List String) (args : List SemTy) : TypeEnv :=
  ((typeParams generics).zip args).reverse

end TypeEnv

/-- The number of alias expansions inside each other after which a type is given up. -/
def maxAliasDepth : Nat := 16

def expansionsLeft (depth : Int) : Nat := ((maxAliasDepth : Int) + 1 - depth).toNat

namespace Declarations

/-! ## Paths -/

def pathRoots : List String := ["crate", "self", "super"]

/-- A path without the roots in front of it; its last segment stays. -/
def dropRoots : Path → Path
  | first :: second :: rest =>
    if pathRoots.contains first then dropRoots (second :: rest) else first :: second :: rest
  | segments => segments

def followSteps (decls : Declarations) : Nat → Path → Path
  | 0, segments => segments
  | steps + 1, segments =>
    match dropRoots segments with
    | [] => []
    | first :: rest =>
      match decls.uses.lookup first with
      | none => first :: rest
      | some target =>
        -- An import under its own name leads back to itself.
        if target = [first] then first :: rest else decls.followSteps steps (target ++ rest)

/-- A path with the import of its first segment followed, again and again, but only so often. -/
def followImports (decls : Declarations) (segments : Path) : Path :=
  decls.followSteps maxAliasDepth segments

/-! ## Types -/

mutual

/-- The type that a written type denotes in an environment, given what paths with arguments name. -/
def lowerWith (resolve : Path → List SemTy → SemTy) (env : TypeEnv) : Ty → SemTy
  | .ref _ isMut inner => .ref (lowerWith resolve env inner) isMut
  | .ptr _ isMut inner => .ptr (lowerWith resolve env inner) isMut
  | .tuple _ elems => .tuple (lowerAllWith resolve env elems)
  | .slice _ inner none => .slice (lowerWith resolve env inner)
  | .slice _ inner (some _) => .array (lowerWith resolve env inner)
  | .never _ => .never
  | .path _ [segment] args =>
    match env.lookup segment with
    | some ty => ty
    | none =>
      if Library.primitives.contains segment then .prim segment
      else resolve [segment] (lowerAllWith resolve env args)
  | .path _ segments args => resolve segments (lowerAllWith resolve env args)
  | .fnPtr .. | .bounded .. | .infer _ => .unknown

def lowerAllWith (resolve : Path → List SemTy → SemTy) (env : TypeEnv) : List Ty → List SemTy
  | [] => []
  | ty :: tys => lowerWith resolve env ty :: lowerAllWith resolve env tys

end

def aliasOf? (decls : Declarations) (segments : Path) : Option AliasInfo :=
  match segments with
  | [] => none
  | [name] => decls.aliases.lookup name
  | first :: rest =>
    if Library.externRoots.contains first then none else decls.aliases.lookup (rest.getLastD "")

/-- The type that a path names after its imports were followed, if it is no alias: an item of the
crate, a library type, a primitive type or else an item of another crate. -/
def resolveItem (decls : Declarations) (segments : Path) (args : List SemTy) : SemTy :=
  match segments with
  | [] => .unknown
  | first :: rest =>
    let name := segments.getLastD ""
    let isLocal := rest.isEmpty || !Library.externRoots.contains first
    if isLocal && ((decls.structs.lookup name).isSome || decls.enums.contains name) then
      .adt ["crate", name] args
    else
      match Library.canonicalType? segments with
      | some path => .adt path args
      | none =>
        if !rest.isEmpty then .adt ("extern" :: segments) args
        else if Library.primitives.contains name then .prim name
        else .unknown

/-- The type that a path with arguments names, with so many expansions of aliases left. -/
def namedTypeWithin (decls : Declarations) : Nat → Path → List SemTy → SemTy
  | 0, _, _ => .unknown
  | left + 1, segments, args =>
    let target := decls.followImports segments
    match decls.aliasOf? target with
    | none => decls.resolveItem target args
    | some info =>
      match info.ty with
      | none => .unknown
      | some ty => lowerWith (decls.namedTypeWithin left) (TypeEnv.ofArgs info.generics args) ty

/-- The type that a path with arguments names at a depth of alias expansions. -/
def namedType (decls : Declarations) (segments : Path) (args : List SemTy) (depth : Int := 0) :
    SemTy :=
  decls.namedTypeWithin (expansionsLeft depth) segments args

def lower (decls : Declarations) (env : TypeEnv) (ty : Ty) (depth : Int := 0) : SemTy :=
  lowerWith (decls.namedTypeWithin (expansionsLeft depth)) env ty

/-- The type that a written type denotes, if there is one. -/
def lower? (decls : Declarations) (env : TypeEnv) : Option Ty → SemTy
  | none => .unknown
  | some ty => decls.lower env ty

/-! ## Chains that are too deep -/

mutual

/-- The paths given up below a written type, given those given up at a path with so many arguments
and the names that the environment knows. -/
def deepWith (deep : Path → Nat → List Path) (known : List String) : Ty → List Path
  | .ref _ _ inner | .ptr _ _ inner | .slice _ inner _ => deepWith deep known inner
  | .tuple _ elems => deepAllWith deep known elems
  | .path _ [segment] args =>
    if known.contains segment || Library.primitives.contains segment then []
    else deepAllWith deep known args ++ deep [segment] args.length
  | .path _ segments args => deepAllWith deep known args ++ deep segments args.length
  | .never _ | .fnPtr .. | .bounded .. | .infer _ => []

def deepAllWith (deep : Path → Nat → List Path) (known : List String) : List Ty → List Path
  | [] => []
  | ty :: tys => deepWith deep known ty ++ deepAllWith deep known tys

end

def deepWithin (decls : Declarations) : Nat → Path → Nat → List Path
  | 0, segments, _ => [segments]
  | left + 1, segments, argCount =>
    match decls.aliasOf? (decls.followImports segments) with
    | none => []
    | some info =>
      match info.ty with
      | none => []
      | some ty => deepWith (decls.deepWithin left) ((typeParams info.generics).take argCount) ty

/-- The paths at which the resolution of a path with so many arguments gives up. -/
def deepPaths (decls : Declarations) (segments : Path) (argCount : Nat) : List Path :=
  decls.deepWithin (expansionsLeft 0) segments argCount

def deepChains (decls : Declarations) (env : TypeEnv) (ty : Ty) : List Path :=
  deepWith (decls.deepWithin (expansionsLeft 0)) (env.map Prod.fst) ty

end Declarations
end DrainLint.Typing
