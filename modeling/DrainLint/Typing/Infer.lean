import DrainLint.Typing.State

/-! # Type inference

Forward inference over every function body and constant of a crate, with lexical scopes.  What
cannot be resolved is left out of the tables or has an unknown type.

- `bindPattern`: the variables that a pattern binds;
- `inferExpr`, `inferBlock`, `inferStmt`, `inferItem`: the inference, node by node;
- `inferCrate`: the tables of a crate and what came to light.
-/

namespace DrainLint.Typing

open Hir Check

/-! ## Patterns -/

/-- The type of a part of a matched value: below a reference, parts are references too. -/
def partOf (whole part : SemTy) : SemTy :=
  if whole.kind = .ref then .ref part whole.isMut else part

/-- The type of what a variant holds, for the type of the matched value. -/
def payloadType (table : MethodTable) (path : Path) (ty : SemTy) : SemTy :=
  match Library.variant? ((table.decls.followImports path).getLastD "") with
  | none => .unknown
  | some variant =>
    if !ty.isAdt variant.owner then .unknown
    else if variant = .err then ty.second
    else ty.inner

mutual

def bindPattern (table : MethodTable) (ty : SemTy) : Pat → Check Unit
  | .binding origin name isMut byRef sub => do
    declare name ⟨origin.id, if byRef then .ref ty isMut else ty⟩
    match sub with
    | none => return
    | some sub => bindPattern table ty sub
  | .ref _ _ inner => bindPattern table (if ty.kind = .ref then ty.inner else .unknown) inner
  | .tuple _ elems =>
    let whole := ty.withoutRefs
    bindPatterns table (if whole.kind = .tuple then whole.args.map (partOf ty) else []) elems
  | .tupleStruct _ path elems =>
    bindPatterns table [partOf ty (payloadType table path ty.withoutRefs)] elems
  | .slice _ elems =>
    let whole := ty.withoutRefs
    let elem := if whole.isAdt Library.vec || whole.isSequence then whole.inner else .unknown
    bindPatterns table
      (List.replicate elems.length (if elem.isKnown then partOf ty elem else .unknown)) elems
  | .or _ alts => bindPatterns table (List.replicate alts.length ty) alts
  | .wild _ | .rest _ | .struct .. | .path .. | .lit .. => return

/-- Binds the variables of patterns that are matched against types, one by one; what is left over is
matched against the unknown type. -/
def bindPatterns (table : MethodTable) (tys : List SemTy) : List Pat → Check Unit
  | [] => return
  | pat :: pats => do
    bindPattern table (tys.headD .unknown) pat
    bindPatterns table (tys.drop 1) pats

end

/-! ## Types of expressions -/

/-- The type of a literal, for its suffix. -/
def literalType (value : Literal) (suffix : String) : SemTy :=
  match value with
  | .int _ => if suffix.isEmpty then .integer else .prim suffix
  | .float _ => if suffix.isEmpty then .float else .prim suffix
  | .str _ => .ref .str
  | .byteStr _ => .ref (.slice .byte)
  | .char _ => .char
  | .byte _ => .byte
  | .bool _ => .bool

/-- The type of a variable with a declared type and an initialiser: the declared one, unless it says
less. -/
def variableType (declared inferred : SemTy) : SemTy :=
  if !declared.isKnown then inferred
  else if declared.kind = .adt ∧ inferred.kind = .adt ∧ declared.path = inferred.path
      ∧ !declared.args.any SemTy.isKnown then inferred
  else declared

def elementType (ty : SemTy) : SemTy :=
  if ty.kind = .ref then
    if ty.inner.isAdt Library.vec || ty.inner.isSequence then .ref ty.inner.inner ty.isMut
    else .unknown
  else if ty.isAdt Library.vec || ty.kind = .array then ty.inner
  else if ty.kind = .adt && Library.iteratorTypes.contains ty.path then ty.inner
  else .unknown

def dereferenced (ty : SemTy) : SemTy :=
  if ty.kind = .ref ∨ ty.kind = .ptr ∨ ty.isAdt Library.box then ty.inner else .unknown

/-- The type of an element, or of a part where the index is a range. -/
def indexed (base index : SemTy) : SemTy :=
  match (autoderef base).find? fun ty => ty.isAdt Library.vec || ty.isSequence with
  | none => .unknown
  | some ty => if index.isAdt Library.range then .slice ty.inner else ty.inner

def divergingMacros : List String := ["panic", "unreachable", "todo", "unimplemented"]

/-- The type of a macro call, for the types of its arguments. -/
def macroType (path : Path) (args : List SemTy) : SemTy :=
  let name := path.getLastD ""
  if name = "vec" then .adt Library.vec [args.headD .unknown]
  else if name = "format" then .adt Library.string []
  else if divergingMacros.contains name then .never
  else .unknown

/-- What `Self` stands for. -/
def selfType (env : TypeEnv) : SemTy := (env.lookup "Self").getD .unknown

/-- The type of a path of one segment that is no variable, or of a longer path. -/
def constantType (table : MethodTable) (env : TypeEnv) : Path → Check SemTy
  | [name] =>
    if Library.variant? name = some .none then return .option .unknown
    else
      match table.decls.consts.lookup name with
      | none => return .unknown
      | some info => lower table env info.ty
  | _ => return .unknown

def pathType (table : MethodTable) (env : TypeEnv) (id : Nat) (segments : Path) : Check SemTy := do
  match segments with
  | [name] =>
    match ← findLocal name with
    | some known =>
      recordBinding id known.id
      return known.ty
    | none => constantType table env segments
  | _ => return .unknown

/-- The function of the prelude or of the crate that a name calls, with the type of the first
argument. -/
def namedCallee? (table : MethodTable) (name : String) (first : SemTy) : Option Callee :=
  match Library.variant? name with
  | some variant =>
    let ty := match variant with
      | .some | .none => SemTy.option first
      | .ok => .adt Library.result [first, .unknown]
      | .err => .adt Library.result [.unknown, first]
    some ⟨variant.path, .known ty⟩
  | none =>
    if (table.decls.structs.lookup name).isSome then
      some ⟨["crate", name], .known (.adt ["crate", name] [])⟩
    else none

def freeCallee? (table : MethodTable) (name : String) : Option Callee :=
  (table.decls.fns.lookup name).map fun fn =>
    let result := match fn.ret with
      | none => ResultTy.known .unit
      | some ret => .written ret (TypeEnv.unknownParams fn.generics)
    ⟨["crate", fn.name], result⟩

def ownerType (table : MethodTable) (env : TypeEnv) (segments : Path) (genericArgs : List Ty) :
    Check SemTy := do
  if segments = ["Self"] then return selfType env
  else namedType table segments (← lowerAll table env genericArgs)

/-- The function that a path calls; a path that refers to a variable calls none. -/
def pathCallee? (table : MethodTable) (env : TypeEnv) (id : Nat) (segments : Path)
    (genericArgs : List Ty) (args : List SemTy) : Check (Option Callee) := do
  match segments with
  | [name] =>
    match ← findLocal name with
    | some known =>
      recordBinding id known.id
      return none
    | none =>
      return (namedCallee? table name (args.headD .unknown)).orElse fun _ => freeCallee? table name
  | segments =>
    let name := segments.getLastD ""
    let owner ← ownerType table env segments.dropLast genericArgs
    if owner.isKnown then return table.findAssociated? owner name args
    else return freeCallee? table name

/-- The type of a method call, for the type of the receiver. -/
def methodType (table : MethodTable) (env : TypeEnv) (id : Nat) (receiver : SemTy) (method : String)
    (genericArgs : List Ty) : Check SemTy := do
  match table.findMethod? receiver method with
  | none => return .unknown
  | some callee =>
    let ty ← resultType table callee.result
    recordCallee id callee.path
    match genericArgs with
    | first :: _ => if method = "collect" then lower table env first else return ty
    | [] => return ty

/-- The type of a field: that of the first type that has it. -/
def fieldType (table : MethodTable) (base : SemTy) (name : String) : Check SemTy :=
  match (autoderef base).findSomeM? fun ty => table.fieldResult? ty name with
  | .error fault => do
    noteFault fault
    return .unknown
  | .ok none => return .unknown
  | .ok (some result) => resultType table result

/-! ## The inference -/

mutual

/-- Infers the type of an expression and of all below it.  A `let` binds its pattern only where it
is the condition itself. -/
def inferExpr (table : MethodTable) (env : TypeEnv) (isCondition : Bool) : Expr → Check SemTy
  | .lit origin value suffix => typed origin.id (return literalType value suffix)
  | .path origin segments _ => typed origin.id (pathType table env origin.id segments)
  | .methodCall origin receiver method args _ genericArgs => typed origin.id do
    let receiverTy ← inferExpr table env false receiver
    let _ ← inferExprs table env args
    methodType table env origin.id receiverTy method genericArgs
  | .call origin func args => typed origin.id do
    let argTys ← inferExprs table env args
    match func with
    | .path pathOrigin segments genericArgs =>
      let callee? ← pathCallee? table env pathOrigin.id segments genericArgs argTys
      -- The called path has no value of its own: what it calls is known, its type is not.
      recordType pathOrigin.id .unknown
      match callee? with
      | none => return .unknown
      | some callee =>
        recordCallee origin.id callee.path
        resultType table callee.result
    | func =>
      let _ ← inferExpr table env false func
      return .unknown
  | .macroCall origin path args _ _ => typed origin.id do
    return macroType path (← inferExprs table env args)
  | .field origin base name => typed origin.id do
    fieldType table (← inferExpr table env false base) name
  | .index origin base index => typed origin.id do
    let baseTy ← inferExpr table env false base
    let indexTy ← inferExpr table env false index
    return indexed baseTy indexTy
  | .unary origin op operand => typed origin.id do
    let ty ← inferExpr table env false operand
    return if op = .deref then dereferenced ty else ty
  | .addrOf origin isMut operand => typed origin.id do
    return .ref (← inferExpr table env false operand) isMut
  | .binary origin op lhs rhs => typed origin.id do
    let ty ← inferExpr table env false lhs
    let _ ← inferExpr table env false rhs
    return if op.isComparison then .bool else ty
  | .assign origin target value _ => typed origin.id do
    let _ ← inferExpr table env false target
    let _ ← inferExpr table env false value
    return .unit
  | .cast origin value ty => typed origin.id do
    let _ ← inferExpr table env false value
    lower table env ty
  | .question origin value => typed origin.id do
    let ty ← inferExpr table env false value
    return if ty.isAdt Library.option || ty.isAdt Library.result then ty.inner else .unknown
  | .range origin start stop _ => typed origin.id do
    let startTy ← inferOption table env start
    let stopTy ← inferOption table env stop
    return .adt Library.range [if startTy.isKnown then startTy else stopTy]
  | .tuple origin elems => typed origin.id do
    return .tuple (← inferExprs table env elems)
  | .array origin elems => typed origin.id do
    return .array ((← inferExprs table env elems).headD .unknown)
  | .arrayRepeat origin elem count => typed origin.id do
    let ty ← inferExpr table env false elem
    let _ ← inferExpr table env false count
    return .array ty
  | .structLit origin path inits base => typed origin.id do
    inferInits table env inits
    let _ ← inferOption table env base
    if path = ["Self"] then return selfType env else namedType table path []
  | .block block => inferBlock table env block
  | .letCond origin pat init => typed origin.id do
    let ty ← inferExpr table env false init
    if isCondition then bindPattern table ty pat
    return .bool
  | .ite origin cond onTrue onFalse => typed origin.id do
    let ty ← inScope do
      let _ ← inferExpr table env true cond
      inferBlock table env onTrue
    match onFalse with
    | none => return ty
    | some onFalse =>
      -- What the condition binds is not seen here: its scope is left.
      let otherTy ← inferExpr table env false onFalse
      return if ty = .never then otherTy else ty
  | .whileLoop origin cond body _ _ => typed origin.id do
    inScope do
      let _ ← inferExpr table env true cond
      let _ ← inferBlock table env body
    return .unit
  | .loop origin body _ => typed origin.id do
    let _ ← inferBlock table env body
    return .unknown
  | .forLoop origin pat iter body _ => typed origin.id do
    let ty ← inferExpr table env false iter
    inScope do
      bindPattern table (elementType ty) pat
      let _ ← inferBlock table env body
    return .unit
  | .matchArms origin scrutinee arms => typed origin.id do
    let ty ← inferExpr table env false scrutinee
    inferArms table env ty .unknown arms
  | .closure origin params body _ _ => typed origin.id do
    inScope do
      bindParams table env params
      let _ ← inferExpr table env false body
    return .unknown
  | .breakLoop origin _ value | .returnFn origin value => typed origin.id do
    let _ ← inferOption table env value
    return .never
  | .continueLoop origin _ => typed origin.id (return .never)

def inferOption (table : MethodTable) (env : TypeEnv) : Option Expr → Check SemTy
  | none => return .unknown
  | some value => inferExpr table env false value

/-- Infers the types of some expressions, in order. -/
def inferExprs (table : MethodTable) (env : TypeEnv) : List Expr → Check (List SemTy)
  | [] => return []
  | value :: values => do
    let ty ← inferExpr table env false value
    return ty :: (← inferExprs table env values)

def inferInits (table : MethodTable) (env : TypeEnv) : List FieldInit → Check Unit
  | [] => return
  | .mk _ value :: inits => do
    let _ ← inferExpr table env false value
    inferInits table env inits

/-- Infers the type of a match: that of the first arm which is known and comes back.  Each arm has a
scope of its own. -/
def inferArms (table : MethodTable) (env : TypeEnv) (scrutinee result : SemTy) :
    List Arm → Check SemTy
  | [] => return result
  | .mk _ pat guard body :: arms => do
    let ty ← inScope do
      bindPattern table scrutinee pat
      -- A `let` in a guard binds nothing, since a guard is not inferred as a condition.
      let _ ← inferOption table env guard
      inferExpr table env false body
    let result := if !result.isKnown && ty != .never then ty else result
    inferArms table env scrutinee result arms

/-- Binds parameters, each against its written type. -/
def bindParams (table : MethodTable) (env : TypeEnv) : List Param → Check Unit
  | [] => return
  | .mk _ pat ty :: params => do
    bindPattern table (← lower? table env ty) pat
    bindParams table env params

def inferBlock (table : MethodTable) (env : TypeEnv) : Block → Check SemTy
  | .mk origin stmts tail _ => typed origin.id <| inScope do
    inferStmts table env stmts
    match tail with
    | none => return .unit
    | some value => inferExpr table env false value

/-- Checks statements, in order. -/
def inferStmts (table : MethodTable) (env : TypeEnv) : List Stmt → Check Unit
  | [] => return
  | stmt :: stmts => do
    inferStmt table env stmt
    inferStmts table env stmts

/-- Checks a statement.  A `let` binds only after its initialiser and what is done without one. -/
def inferStmt (table : MethodTable) (env : TypeEnv) : Stmt → Check Unit
  | .letStmt _ pat ty init els => do
    let inferred ← inferOption table env init
    let declared ← lower? table env ty
    match els with
    | none => pure ()
    | some els =>
      let _ ← inferBlock table env els
    bindPattern table (variableType declared inferred) pat
  | .expr _ value _ => do
    let _ ← inferExpr table env false value
  | .item _ item => inferItem table [] item

/-- Checks the bodies and values of an item.  A body sees no variable from outside. -/
def inferItem (table : MethodTable) (env : TypeEnv) : Item → Check Unit
  | .fnDef _ _ generics params _ (some body) _ => inBody do
    let env := TypeEnv.ofParams generics ++ env
    bindParams table env params
    let _ ← inferBlock table env body
  | .constItem _ _ _ (some value) _ => inBody do
    let _ ← inferExpr table env false value
  | .implBlock _ generics selfTy _ items _ => do
    let env := TypeEnv.ofParams generics
    let self ← lower table env selfTy
    inferItems table (("Self", self) :: env) items
  | .traitDef _ _ generics items _ =>
    inferItems table (("Self", .param "Self") :: TypeEnv.ofParams generics) items
  | .modDef _ _ items _ => inferItems table [] items
  | _ => return

/-- Checks items, in order. -/
def inferItems (table : MethodTable) (env : TypeEnv) : List Item → Check Unit
  | [] => return
  | item :: items => do
    inferItem table env item
    inferItems table env items

end

/-- The inference over a crate: its tables, what came to light, in order, and the first fault. 
After a fault the tables are not relied on. -/
structure Inference where
  tables : Tables
  notes : List Note
  fault? : Option IndexFault

def inferCrate (crate : Crate) : Inference :=
  let table := MethodTable.ofCrate crate
  let state := ((inferItems table [] crate.items).run {}).2
  ⟨state.tables, table.notes ++ state.notes.reverse, state.fault?⟩

def Inference.result (inference : Inference) : Except IndexFault Tables :=
  match inference.fault? with
  | some fault => .error fault
  | none => .ok inference.tables

end DrainLint.Typing
