import DrainLint.Hir.Node

/-! # Handlers

Functions for the nodes of some classes.  A handler for a family of nodes sees every node of the
family that no handler for its own class claims.

- `Node.classNames`: the classes of a node, the most specific one first;
- `dispatch`: what the handlers make of a node.
-/

namespace DrainLint.Hir

/-- The name of the family of a node, if it belongs to one. -/
def Node.family? : Node → Option String
  | .ty _ => some "Ty"
  | .pat _ => some "Pat"
  | .expr _ => some "Expr"
  | .stmt _ => some "Stmt"
  | .item _ => some "Item"
  | .arm _ | .param _ | .fieldDef _ | .crate _ => none

/-- The names of the classes of a node, the most specific one first. -/
def Node.classNames (node : Node) : List String :=
  node.className :: node.family?.toList ++ ["Node"]

/-- Functions on nodes, by the name of the class that each handles. -/
abbrev Handlers (α : Type) := List (String × (Node → α))

def Handlers.dispatch {α : Type} (handlers : Handlers α) (node : Node) : Option α :=
  (node.classNames.findSome? fun name => List.lookup name handlers).map fun handle => handle node

end DrainLint.Hir
