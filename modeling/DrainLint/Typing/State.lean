import DrainLint.Typing.MethodTable

/-! # The state of the inference

What the inference writes down and the scopes that it works in.

- `Tables`: types, callees and bindings by the number of the node, as they were written down;
- `Check`: a step of the inference;
- `inScope`, `inBody`: the scope of a construct and the scopes of a body.
-/

namespace DrainLint.Typing

open Hir

/-- What is found out about the nodes of a crate, by their numbers, the last entry first. -/
structure Tables where
  types : List (Nat × SemTy) := []
  callees : List (Nat × Path) := []
  bindings : List (Nat × Nat) := []

namespace Tables

/-- The type of an expression, if one was written down. -/
def type? (tables : Tables) (id : Nat) : Option SemTy := tables.types.lookup id

def typeOf (tables : Tables) (id : Nat) : SemTy := (tables.type? id).getD .unknown

def resolver (tables : Tables) : Resolver :=
  ⟨fun id => tables.callees.lookup id, fun id => tables.bindings.lookup id⟩

end Tables

/-- A local variable: the number of the pattern that binds it and its type. -/
structure Local where
  id : Nat
  ty : SemTy

/-- The variables of one scope; the first entry of a name counts. -/
abbrev Scope := Named Local

/-- The state of the inference: the tables, the open scopes from the inside out, what came to light,
the last note first, and the first fault. -/
structure State where
  tables : Tables := {}
  scopes : List Scope := []
  notes : List Note := []
  fault? : Option IndexFault := none

abbrev Check := StateM State

namespace Check

def recordType (id : Nat) (ty : SemTy) : Check Unit := modify fun state =>
  { state with tables := { state.tables with types := (id, ty) :: state.tables.types } }

def recordCallee (id : Nat) (path : Path) : Check Unit := modify fun state =>
  { state with tables := { state.tables with callees := (id, path) :: state.tables.callees } }

def recordBinding (id binding : Nat) : Check Unit := modify fun state =>
  { state with tables := { state.tables with bindings := (id, binding) :: state.tables.bindings } }

def typed (id : Nat) (step : Check SemTy) : Check SemTy := do
  let ty ← step
  recordType id ty
  return ty

def noteDeep (paths : List Path) : Check Unit := modify fun state =>
  { state with notes := (paths.map Note.aliasChainTooDeep).reverse ++ state.notes }

/-- Notes a fault; the first one counts. -/
def noteFault (fault : IndexFault) : Check Unit := modify fun state =>
  { state with fault? := state.fault?.orElse fun _ => some fault }

def inScope {α : Type} (step : Check α) : Check α := do
  modify fun state => { state with scopes := [] :: state.scopes }
  let value ← step
  modify fun state => { state with scopes := state.scopes.drop 1 }
  return value

def inBody {α : Type} (step : Check α) : Check α := do
  let outer := (← get).scopes
  modify fun state => { state with scopes := [[]] }
  let value ← step
  modify fun state => { state with scopes := outer }
  return value

def declare (name : String) (known : Local) : Check Unit := modify fun state =>
  match state.scopes with
  | [] => { state with scopes := [[(name, known)]] }
  | scope :: outer => { state with scopes := ((name, known) :: scope) :: outer }

/-- The variable that a name refers to: that of the innermost scope that has one. -/
def findLocal (name : String) : Check (Option Local) := do
  return (← get).scopes.findSome? fun scope => List.lookup name scope

def lower (table : MethodTable) (env : TypeEnv) (ty : Ty) : Check SemTy := do
  noteDeep (table.decls.deepChains env ty)
  return table.decls.lower env ty

/-- The type that a written type denotes, if there is one. -/
def lower? (table : MethodTable) (env : TypeEnv) : Option Ty → Check SemTy
  | none => return .unknown
  | some ty => lower table env ty

def lowerAll (table : MethodTable) (env : TypeEnv) : List Ty → Check (List SemTy)
  | [] => return []
  | ty :: tys => return (← lower table env ty) :: (← lowerAll table env tys)

def namedType (table : MethodTable) (segments : Path) (args : List SemTy) : Check SemTy := do
  noteDeep (table.decls.deepPaths segments args.length)
  return table.decls.namedType segments args

def resultType (table : MethodTable) (result : ResultTy) : Check SemTy := do
  noteDeep (table.resultDeepChains result)
  return table.resultType result

end Check
end DrainLint.Typing
