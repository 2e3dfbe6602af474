import DrainLint.Hir.Basic
import DrainLint.Library.Paths

/-! # Matching calls

What a call resolves to.  A call that could not be resolved matches nothing, and a call by path is
no method call.

- `methodCallee?`: the function that a method call calls;
- `poppedReceiver?`: what is popped and unwrapped.
-/

namespace DrainLint.Lint

open Hir

/-- The function that an expression calls, if it is a resolved method call. -/
def methodCallee? (resolver : Resolver) : Expr → Option Path
  | .methodCall origin .. => resolver.callee origin.id
  | _ => none

def isMethodCallOf (resolver : Resolver) (definition : Path) (expr : Expr) : Bool :=
  Library.isDefinition (methodCallee? resolver expr) definition

def isMethodCallOfAny (resolver : Resolver) (definitions : List Path) (expr : Expr) : Bool :=
  definitions.any fun definition => isMethodCallOf resolver definition expr

def unwrapMethods : List Path := [Library.optionUnwrap, Library.optionExpect]

/-- The receiver of the `pop` where an expression pops from a vector and unwraps what it gets. -/
def poppedReceiver? (resolver : Resolver) (expr : Expr) : Option Expr :=
  match expr with
  | .methodCall _ (.methodCall origin receiver method args span genericArgs) _ _ _ _ =>
    if isMethodCallOfAny resolver unwrapMethods expr
        && isMethodCallOf resolver Library.vecPop
          (.methodCall origin receiver method args span genericArgs) then
      some receiver
    else none
  | _ => none

end DrainLint.Lint
