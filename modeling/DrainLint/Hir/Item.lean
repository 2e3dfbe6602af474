import DrainLint.Hir.Basic

/-! # Questions about items

- `Item.takesSelf`: whether a function is called on a receiver;
- `localName`: the name under which an import is known;
- `typeParams`: the generic parameters that are not lifetimes.
-/

namespace DrainLint.Hir

def Param.isSelf : Param → Bool
  | .mk _ (.binding _ name _ _ _) _ => name == "self"
  | _ => false

/-- Whether an item is a function whose first parameter is `self`. -/
def Item.takesSelf : Item → Bool
  | .fnDef _ _ _ (first :: _) _ _ _ => first.isSelf
  | _ => false

/-- The name of the thing that a path without an alias imports: its last segment, or the module
before a last segment `self`. -/
def importedName (path : Path) : String :=
  match path.reverse with
  | [] => ""
  | "self" :: enclosing :: _ => enclosing
  | last :: _ => last

def localName (path : Path) (newName : Option String) : String :=
  newName.getD (importedName path)

def typeParams (generics : List String) : List String :=
  generics.filter fun name => name.toList.head? != some '\''

/-- The name of a type as written: the last segment of its path. -/
def Ty.name : Ty → String
  | .path _ segments _ => segments.getLastD ""
  | _ => ""

/-- The path of a single segment that a type is, as its segment. -/
def Ty.single? : Ty → Option String
  | .path _ [segment] _ => some segment
  | _ => none

end DrainLint.Hir
