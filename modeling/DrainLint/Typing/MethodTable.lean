import DrainLint.Keyed
import DrainLint.Text.Digit
import DrainLint.Text.Quoted
import DrainLint.Typing.LibraryMethods
import DrainLint.Typing.Lowering

/-! # The method table

The declarations of a crate with the methods of its implementations, and the look-up of methods,
associated functions and fields.

- `MethodTable.ofCrate`: the table of a crate;
- `autoderef`: the types at which a method is looked for;
- `findMethod?`: inherent, then library, then trait methods, type by type;
- `findAssociated?`: constructors and methods called by path;
- `fieldResult?`: the type of a field.
-/

namespace DrainLint.Typing

open Hir

/-- What comes to light while a crate is checked. -/
inductive Note where
  | aliasChainTooDeep (segments : Path)
  | unresolvedImpl (span : Span)

def Note.text : Note → String
  | aliasChainTooDeep segments => s!"type alias chain too deep at {segments.text}"
  | unresolvedImpl span => s!"impl for unresolved type at {span.text} skipped"

/-- A function with the implementation that declares it. -/
structure Method where
  impl : ImplInfo
  fn : FnInfo

/-- The result of a function: a known type, or a written type in an environment. -/
inductive ResultTy where
  | known (ty : SemTy)
  | written (ty : Ty) (env : TypeEnv)

/-- A function that was found: its definition path and its result. -/
structure Callee where
  path : Path
  result : ResultTy

/-- The declarations of a crate with its methods by the key of their type and their name.  The first
entry counts. -/
structure MethodTable where
  decls : Declarations := {}
  inherent : List ((Path × String) × Method) := []
  traitMethods : List ((Path × String) × Method) := []
  notes : List Note := []

def methodKey? (ty : SemTy) : Option Path :=
  match ty.kind with
  | .adt => some ty.path
  | .prim => some ("prim" :: ty.path)
  | .slice | .array => some ["slice"]
  | _ => none

def ImplInfo.traitName (impl : ImplInfo) : String :=
  match impl.traitRef with
  | some ty => ty.name
  | none => ""

namespace MethodTable

def addImpl (table : MethodTable) (impl : ImplInfo) : MethodTable :=
  let env := TypeEnv.ofParams impl.generics
  let deep := (table.decls.deepChains env impl.selfTy).map Note.aliasChainTooDeep
  match methodKey? (table.decls.lower env impl.selfTy) with
  | none => { table with notes := table.notes ++ deep ++ [.unresolvedImpl impl.span] }
  | some key =>
    let methods := (impl.fns.map fun fn => ((key, fn.name), (⟨impl, fn⟩ : Method))).reverse
    let table := { table with notes := table.notes ++ deep }
    match impl.traitRef with
    | none => { table with inherent := methods ++ table.inherent }
    | some _ => { table with traitMethods := methods ++ table.traitMethods }

def ofDeclarations (decls : Declarations) : MethodTable :=
  decls.impls.reverse.foldl addImpl { decls }

def ofCrate (crate : Crate) : MethodTable := ofDeclarations (Declarations.ofCrate crate)

def enumNames (table : MethodTable) : List String := Text.sortedDistinct table.decls.enums

def resultType (table : MethodTable) : ResultTy → SemTy
  | .known ty => ty
  | .written ty env => table.decls.lower env ty

def resultDeepChains (table : MethodTable) : ResultTy → List Path
  | .known _ => []
  | .written ty env => table.decls.deepChains env ty

end MethodTable

/-! ## Implicit dereferences -/

def deref? (ty : SemTy) : Option SemTy :=
  if ty.kind = .ref || ty.isAdt Library.box then some ty.inner
  else if ty.isAdt Library.vec then some (.slice ty.inner)
  else if ty.isAdt Library.string then some .str
  else none

/-- A known type and those reached from it, no more than so many. -/
def autoderefWithin : Nat → SemTy → List SemTy
  | 0, _ => []
  | left + 1, ty =>
    if ty.isKnown then
      ty :: match deref? ty with
        | some next => autoderefWithin left next
        | none => []
    else []

/-- The types at which a method is looked for: a type, then each one reached by one more implicit
dereference, up to eight. -/
def autoderef (ty : SemTy) : List SemTy := autoderefWithin 8 ty

/-! ## Methods -/

/-- The argument that a parameter of an implementation gets from the type of the receiver, where the
implementation lists the parameter as an argument of its type. -/
def implArgs (impl : ImplInfo) (known : List String) (selfTy : SemTy) : TypeEnv :=
  match impl.selfTy with
  | .path _ _ args =>
    (args.zip selfTy.args).filterMap fun (arg, actual) =>
      match arg.single? with
      | some name => if known.contains name then some (name, actual) else none
      | none => none
  | _ => []

def Method.result (method : Method) (selfTy : SemTy) : ResultTy :=
  match method.fn.ret with
  | none => .known .unit
  | some ret =>
    let params :=
      TypeEnv.unknownParams method.impl.generics ++ TypeEnv.unknownParams method.fn.generics
    let args := implArgs method.impl (params.map Prod.fst) selfTy
    -- The first entry of a name counts: `Self`, then the last argument of a name, then the unknown.
    .written ret (("Self", selfTy) :: args.reverse ++ params)

namespace MethodTable

def inherentMethod? (table : MethodTable) (ty : SemTy) (name : String) : Option Callee :=
  if ty.kind = .adt then
    (table.inherent.lookup (ty.path, name)).map fun method =>
      ⟨ty.path ++ [name], method.result ty⟩
  else none

def builtinMethod? (ty : SemTy) (name : String) : Option Callee :=
  if ty.kind = .adt then
    match libraryMethod? ty.path name with
    | some returned => some ⟨ty.path ++ [name], .known (returned ty)⟩
    | none =>
      if Library.iteratorTypes.contains ty.path then
        (iteratorMethod? name).map fun returned =>
          ⟨Library.iterator ++ [name], .known (returned ty)⟩
      else none
  else if ty.isSequence then
    (sliceMethod? name).map fun returned => ⟨Library.sliceMethods ++ [name], .known (returned ty)⟩
  else none

def traitMethod? (table : MethodTable) (ty : SemTy) (name : String) : Option Callee := do
  let key ← methodKey? ty
  let method ← table.traitMethods.lookup (key, name)
  return ⟨["crate", method.impl.traitName, name], method.result ty⟩

def cloneMethod? (ty : SemTy) (name : String) : Option Callee :=
  if name = "clone" && ty.kind != .ref then some ⟨Library.cloneClone, .known ty⟩ else none

/-- The method of a type, without any dereference. -/
def methodOn? (table : MethodTable) (ty : SemTy) (name : String) : Option Callee :=
  (table.inherentMethod? ty name)
    |>.orElse (fun _ => builtinMethod? ty name)
    |>.orElse (fun _ => table.traitMethod? ty name)
    |>.orElse (fun _ => cloneMethod? ty name)

/-- The method that a call on a receiver calls: that of the first type that has one. -/
def findMethod? (table : MethodTable) (receiver : SemTy) (name : String) : Option Callee :=
  (autoderef receiver).findSome? fun ty => table.methodOn? ty name

/-- The associated function of a library type, for the types of the arguments. -/
def builtinAssociated? (owner : SemTy) (name : String) (args : List SemTy) : Option SemTy :=
  let first := (args.headD .unknown).withoutRefs
  if owner.path = Library.vec && (name = "new" || name = "with_capacity") then
    some (.adt Library.vec [owner.inner])
  else if owner.path = Library.vec && name = "from" then some (.adt Library.vec [first.inner])
  else if owner.path = Library.box && name = "new" then
    some (.adt Library.box [args.headD .unknown])
  else if owner.path = Library.string
      && (name = "new" || name = "from" || name = "with_capacity") then
    some (.adt Library.string [])
  else
    (libraryMethod? owner.path name).map fun returned =>
      returned (if first.isAdt owner.path then first else owner)

/-- The function that a call by path calls, given the type that owns it and the types of the
arguments. -/
def findAssociated? (table : MethodTable) (owner : SemTy) (name : String) (args : List SemTy) :
    Option Callee :=
  if owner.kind = .adt then
    (table.inherentMethod? owner name).orElse fun _ =>
      (builtinAssociated? owner name args).map fun ty => ⟨owner.path ++ [name], .known ty⟩
  else none

end MethodTable

/-! ## Fields -/

/-- Why the digits that name a field of a tuple are no number. -/
inductive IndexFault where
  | tooManyDigits (count : Nat)
  | notDecimal (name : String)
  deriving DecidableEq

def IndexFault.message : IndexFault → String
  | tooManyDigits count =>
    s!"Exceeds the limit ({Text.maxDecimalDigits} digits) for integer string conversion: " ++
      s!"value has {count} digits; use sys.set_int_max_str_digits() to increase the limit"
  | notDecimal name =>
    "invalid literal for int() with base 10: " ++
      String.ofList ((Text.quoted name).toList.take 200)

/-- The place that the name of a field of a tuple denotes, if it is made of digits. -/
def tupleIndex? (name : String) : Except IndexFault (Option Nat) :=
  let digits := name.toList
  let values := (digits.map Text.decimalDigit?).takeWhile Option.isSome |>.reduceOption
  if digits.isEmpty || !digits.all Text.isDigit then .ok none
  else if Text.maxDecimalDigits < values.length then .error (.tooManyDigits values.length)
  else if values.length < digits.length then .error (.notDecimal name)
  else .ok (some (Text.ofDigits 10 values))

namespace MethodTable

/-- The type of a field of a struct, as written. -/
def structField? (table : MethodTable) (ty : SemTy) (name : String) : Option ResultTy := do
  let info ← table.decls.structs.lookup (ty.path.getLastD "")
  let (_, written) ← info.fields.find? fun field => field.1 == name
  let env := TypeEnv.ofArgs info.generics ty.args ++ TypeEnv.unknownParams info.generics
  return .written written env

/-- The type of a field, if the type has it. -/
def fieldResult? (table : MethodTable) (ty : SemTy) (name : String) :
    Except IndexFault (Option ResultTy) :=
  match ty.kind with
  | .tuple => return (← tupleIndex? name).bind fun index => ty.args[index]?.map .known
  | .adt => return if ty.path.head? = some "crate" then table.structField? ty name else none
  | _ => return none

end MethodTable
end DrainLint.Typing
