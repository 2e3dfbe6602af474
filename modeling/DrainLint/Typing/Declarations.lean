import DrainLint.Hir.Item
import DrainLint.Hir.Walk

/-! # Declarations

The items of a crate by name.  Items are found at the root, in inline modules and in blocks, and all
of them share one namespace: of two items of one kind and name the one found last is known.

- `FnInfo`, `StructInfo`, `AliasInfo`, `ImplInfo`: what is kept of an item;
- `Declarations`: the items by kind and name;
- `declaredItems`: the items of a crate in the order in which they are declared.
-/

namespace DrainLint.Typing

open Hir

/-- Things by name; the first entry of a name counts. -/
abbrev Named (α : Type) := List (String × α)

/-- What is kept of a function. -/
structure FnInfo where
  id : Nat
  name : String
  generics : List String
  ret : Option Ty

/-- What is kept of a struct: its fields in order. -/
structure StructInfo where
  id : Nat
  generics : List String
  fields : List (String × Ty)

/-- What is kept of a type alias. -/
structure AliasInfo where
  id : Nat
  generics : List String
  ty : Option Ty

/-- What is kept of a constant. -/
structure ConstInfo where
  id : Nat
  ty : Ty

/-- What is kept of an implementation: its functions in order. -/
structure ImplInfo where
  id : Nat
  span : Span
  generics : List String
  selfTy : Ty
  traitRef : Option Ty
  fns : List FnInfo

/-- The items of a crate by kind and name, the last one first.  Traits are known by their number,
imports by the path that they import. -/
structure Declarations where
  structs : Named StructInfo := []
  enums : List String := []
  traits : Named Nat := []
  aliases : Named AliasInfo := []
  uses : Named Path := []
  fns : Named FnInfo := []
  consts : Named ConstInfo := []
  impls : List ImplInfo := []

def FnInfo.ofItem? : Item → Option FnInfo
  | .fnDef origin name generics _ ret _ _ => some ⟨origin.id, name, generics, ret⟩
  | _ => none

def StructInfo.field : FieldDef → String × Ty
  | .mk _ name ty => (name, ty)

namespace Declarations

def isNamedImport (name : String) (glob : Bool) : Bool := !glob && name != "" && name != "_"

def add (decls : Declarations) : Item → Declarations
  | .fnDef origin name generics _ ret _ _ =>
    { decls with fns := (name, ⟨origin.id, name, generics, ret⟩) :: decls.fns }
  | .structDef origin name generics fields _ =>
    { decls with
      structs := (name, ⟨origin.id, generics, fields.map StructInfo.field⟩) :: decls.structs }
  | .enumDef _ name _ => { decls with enums := name :: decls.enums }
  | .typeAlias origin name generics ty _ =>
    { decls with aliases := (name, ⟨origin.id, generics, ty⟩) :: decls.aliases }
  | .constItem origin name ty _ _ =>
    { decls with consts := (name, ⟨origin.id, ty⟩) :: decls.consts }
  | .useDecl _ path newName glob _ =>
    let name := localName path newName
    if isNamedImport name glob then { decls with uses := (name, path) :: decls.uses } else decls
  | .implBlock origin generics selfTy traitRef items _ =>
    let impl : ImplInfo :=
      ⟨origin.id, origin.span, generics, selfTy, traitRef, items.filterMap FnInfo.ofItem?⟩
    { decls with impls := impl :: decls.impls }
  | .traitDef origin name _ _ _ => { decls with traits := (name, origin.id) :: decls.traits }
  | .modDef .. | .macroItem .. => decls

/-- The items from a stack of pending items: those of an inline module follow their module, the last
one first. -/
def declaredFrom (found : Array Item) : List Item → Array Item
  | [] => found
  | item :: pending => declaredFrom (found.push item) (item.moduleItems.reverse ++ pending)
termination_by pending => Item.totalSize pending
decreasing_by
  have := item.moduleItems_size_lt
  rw [Item.totalSize_append, Item.totalSize_reverse, Item.totalSize_cons]
  omega

def blockItems (crate : Crate) : List Item :=
  crate.walk.filterMap fun node => match node with
    | .stmt (.item _ item) => some item
    | _ => none

/-- The items of a crate in the order in which they are declared: the last item of the last block
first, the first item of the root last. -/
def declaredItems (crate : Crate) : List Item :=
  (declaredFrom #[] (crate.items ++ blockItems crate).reverse).toList

def ofCrate (crate : Crate) : Declarations := (declaredItems crate).foldl add {}

end Declarations
end DrainLint.Typing
