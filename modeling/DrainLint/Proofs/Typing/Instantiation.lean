import DrainLint.Proofs.Typing.Expansion

/-! # Instances of generic types

Types for generic parameters may be put in before a type is lowered, into what the environment says,
or afterwards, into the result: the lowered type is the same, because no alias sees the parameters of
another one or those of the place where it is used.

- `SemTy.instantiate`, `TypeEnv.instantiate`: types put in for parameters;
- `lowerWith_instantiate`: lowering in two environments, one an instance of the other;
- `namedTypeWithin_instantiate`: paths, through aliases of every depth;
- `lower_generic`: lowered with parameters and then instantiated, a type is what it is when it is
  lowered with what the parameters stand for;
- `lowering_instantiates`: types, paths, fields and methods.
-/

namespace DrainLint.Typing

open Hir

/-! ## Types put in for parameters -/

namespace SemTy

mutual

/-- A type with other types in the place of its parameters; a parameter that none is given for
stays. -/
def instantiate (given : String → Option SemTy) : SemTy → SemTy
  | mk .param [name] args isMut =>
    (given name).getD (mk .param [name] (instantiateAll given args) isMut)
  | mk kind path args isMut => mk kind path (instantiateAll given args) isMut

def instantiateAll (given : String → Option SemTy) : List SemTy → List SemTy
  | [] => []
  | ty :: tys => ty.instantiate given :: instantiateAll given tys

end

variable (given : String → Option SemTy)

theorem instantiateAll_eq (tys : List SemTy) :
    instantiateAll given tys = tys.map (instantiate given) := by
  induction tys with
  | nil => rw [instantiateAll, List.map_nil]
  | cons ty tys inductionHypothesis => rw [instantiateAll, inductionHypothesis, List.map_cons]

@[simp]
theorem instantiate_param (name : String) :
    (param name).instantiate given = (given name).getD (param name) := by
  rw [param, instantiate, instantiateAll]

/-- All types but parameters keep their kind and path. -/
theorem instantiate_mk {kind : TyKind} (other : kind ≠ .param) (path : Path) (args : List SemTy)
    (isMut : Bool) : (mk kind path args isMut).instantiate given =
      mk kind path (args.map (instantiate given)) isMut := by
  rw [instantiate, instantiateAll_eq]
  rintro name rfl
  exact absurd rfl other

@[simp]
theorem instantiate_adt (path : Path) (args : List SemTy) :
    (adt path args).instantiate given = adt path (args.map (instantiate given)) := by
  simp [adt, instantiate_mk]

@[simp]
theorem instantiate_tuple (elems : List SemTy) :
    (tuple elems).instantiate given = tuple (elems.map (instantiate given)) := by
  simp [tuple, instantiate_mk]

@[simp]
theorem instantiate_ref (inner : SemTy) (isMut : Bool) :
    (ref inner isMut).instantiate given = ref (inner.instantiate given) isMut := by
  simp [ref, instantiate_mk]

@[simp]
theorem instantiate_ptr (inner : SemTy) (isMut : Bool) :
    (ptr inner isMut).instantiate given = ptr (inner.instantiate given) isMut := by
  simp [ptr, instantiate_mk]

@[simp]
theorem instantiate_slice (elem : SemTy) :
    (slice elem).instantiate given = slice (elem.instantiate given) := by
  simp [slice, instantiate_mk]

@[simp]
theorem instantiate_array (elem : SemTy) :
    (array elem).instantiate given = array (elem.instantiate given) := by
  simp [array, instantiate_mk]

@[simp]
theorem instantiate_prim (name : String) : (prim name).instantiate given = prim name := by
  simp [prim, instantiate_mk]

@[simp]
theorem instantiate_never : never.instantiate given = never := by
  simp [never, instantiate_mk]

@[simp]
theorem instantiate_unknown : unknown.instantiate given = unknown := by
  simp [unknown, instantiate_mk]

end SemTy

namespace TypeEnv

/-- An environment with other types in the place of the parameters in its types. -/
def instantiate (given : String → Option SemTy) (env : TypeEnv) : TypeEnv :=
  env.map fun (name, ty) => (name, ty.instantiate given)

@[simp]
theorem instantiate_cons (given : String → Option SemTy) (name : String) (ty : SemTy)
    (env : TypeEnv) : instantiate given ((name, ty) :: env) =
      (name, ty.instantiate given) :: env.instantiate given := rfl

@[simp]
theorem instantiate_append (given : String → Option SemTy) (env env' : TypeEnv) :
    instantiate given (env ++ env') = env.instantiate given ++ env'.instantiate given :=
  List.map_append

@[simp]
theorem instantiate_reverse (given : String → Option SemTy) (env : TypeEnv) :
    instantiate given env.reverse = (env.instantiate given).reverse := List.map_reverse

@[simp]
theorem unknownParams_instantiate (given : String → Option SemTy) (generics : List String) :
    (unknownParams generics).instantiate given = unknownParams generics := by
  simp [unknownParams, instantiate]

/-- An environment that says of the same names as another one what it says, with other types in the
place of parameters. -/
def IsInstance (given : String → Option SemTy) (env env' : TypeEnv) : Prop :=
  ∀ name, env'.lookup name = (env.lookup name).map (SemTy.instantiate given)

theorem isInstance_instantiate (given : String → Option SemTy) (env : TypeEnv) :
    IsInstance given env (env.instantiate given) := by
  intro name
  induction env with
  | nil => rfl
  | cons entry env inductionHypothesis =>
    rw [instantiate, List.map_cons, List.lookup_cons, List.lookup_cons]
    cases name == entry.1 with
    | true => rfl
    | false => exact inductionHypothesis

theorem ofArgs_instantiate (given : String → Option SemTy) (generics : List String)
    (args : List SemTy) : ofArgs generics (args.map (SemTy.instantiate given)) =
      (ofArgs generics args).instantiate given := by
  rw [ofArgs, ofArgs, instantiate_reverse, List.zip_map_right]
  rfl

end TypeEnv

/-! ## Lowering under an instance of an environment -/

namespace Declarations

variable {given : String → Option SemTy} {env env' : TypeEnv}

mutual

/-- Where the look-up of paths respects instances, so does lowering. -/
theorem lowerWith_instantiate {resolve : Path → List SemTy → SemTy}
    (respects : ∀ segments args, resolve segments (args.map (SemTy.instantiate given)) =
      (resolve segments args).instantiate given)
    (isInstance : TypeEnv.IsInstance given env env') (ty : Ty) :
    lowerWith resolve env' ty = (lowerWith resolve env ty).instantiate given := by
  cases ty with
  | ref origin isMut inner =>
    rw [lowerWith, lowerWith, lowerWith_instantiate respects isInstance inner,
      SemTy.instantiate_ref]
  | ptr origin isMut inner =>
    rw [lowerWith, lowerWith, lowerWith_instantiate respects isInstance inner,
      SemTy.instantiate_ptr]
  | tuple origin elems =>
    rw [lowerWith, lowerWith, lowerAllWith_instantiate respects isInstance elems,
      SemTy.instantiate_tuple]
  | slice origin inner length =>
    cases length with
    | none =>
      rw [lowerWith, lowerWith, lowerWith_instantiate respects isInstance inner,
        SemTy.instantiate_slice]
    | some length =>
      rw [lowerWith, lowerWith, lowerWith_instantiate respects isInstance inner,
        SemTy.instantiate_array]
  | never => rw [lowerWith, lowerWith, SemTy.instantiate_never]
  | fnPtr | bounded | infer => rw [lowerWith, lowerWith, SemTy.instantiate_unknown]
  | path origin segments args =>
    obtain ⟨name, ty, rfl, known⟩ | ⟨name, rfl, noParam, isPrimitive⟩ | free :=
      known_or_free env segments
    · have known' : env'.lookup name = some (ty.instantiate given) := by rw [isInstance, known]; rfl
      rw [lowerWith, lowerWith, known, known']
    · have noParam' : env'.lookup name = none := by rw [isInstance, noParam]; rfl
      rw [lowerWith, lowerWith, noParam, noParam']
      simp only [isPrimitive, if_true, SemTy.instantiate_prim]
    · have free' : Free env' segments := by
        intro name single
        obtain ⟨noParam, noPrimitive⟩ := free name single
        exact ⟨by rw [isInstance, noParam]; rfl, noPrimitive⟩
      rw [lowerWith_free free, lowerWith_free free',
        lowerAllWith_instantiate respects isInstance args, respects]

theorem lowerAllWith_instantiate {resolve : Path → List SemTy → SemTy}
    (respects : ∀ segments args, resolve segments (args.map (SemTy.instantiate given)) =
      (resolve segments args).instantiate given)
    (isInstance : TypeEnv.IsInstance given env env') (tys : List Ty) :
    lowerAllWith resolve env' tys =
      (lowerAllWith resolve env tys).map (SemTy.instantiate given) := by
  cases tys with
  | nil => rw [lowerAllWith, lowerAllWith, List.map_nil]
  | cons ty tys =>
    rw [lowerAllWith, lowerAllWith, List.map_cons, lowerWith_instantiate respects isInstance ty,
      lowerAllWith_instantiate respects isInstance tys]

end

/-! ## Aliases of every depth -/

theorem resolveItem_instantiate (decls : Declarations) (segments : Path) (args : List SemTy) :
    decls.resolveItem segments (args.map (SemTy.instantiate given)) =
      (decls.resolveItem segments args).instantiate given := by
  unfold resolveItem
  split
  · exact (SemTy.instantiate_unknown given).symm
  · dsimp only
    split
    · exact (SemTy.instantiate_adt given _ _).symm
    · split
      · exact (SemTy.instantiate_adt given _ _).symm
      · split
        · exact (SemTy.instantiate_adt given _ _).symm
        · split
          · exact (SemTy.instantiate_prim given _).symm
          · exact (SemTy.instantiate_unknown given).symm

/-- What a path names with arguments is instantiated with them: the type of an alias sees the
arguments only, so nothing else is put in. -/
theorem namedTypeWithin_instantiate (decls : Declarations) (left : Nat) (segments : Path)
    (args : List SemTy) :
    decls.namedTypeWithin left segments (args.map (SemTy.instantiate given)) =
      (decls.namedTypeWithin left segments args).instantiate given := by
  induction left generalizing segments args with
  | zero => exact (SemTy.instantiate_unknown given).symm
  | succ left inductionHypothesis =>
    rw [namedTypeWithin, namedTypeWithin]
    cases decls.aliasOf? (decls.followImports segments) with
    | none => exact resolveItem_instantiate decls _ args
    | some info =>
      obtain ⟨id, generics, ty⟩ := info
      cases ty with
      | none => exact (SemTy.instantiate_unknown given).symm
      | some ty =>
        dsimp only
        rw [TypeEnv.ofArgs_instantiate]
        exact lowerWith_instantiate inductionHypothesis (TypeEnv.isInstance_instantiate given _) ty

theorem namedType_instantiate (decls : Declarations) (segments : Path) (args : List SemTy)
    (depth : Int) : decls.namedType segments (args.map (SemTy.instantiate given)) depth =
      (decls.namedType segments args depth).instantiate given :=
  decls.namedTypeWithin_instantiate (expansionsLeft depth) segments args

theorem lower_isInstance (decls : Declarations) (isInstance : TypeEnv.IsInstance given env env')
    (ty : Ty) (depth : Int) :
    decls.lower env' ty depth = (decls.lower env ty depth).instantiate given :=
  lowerWith_instantiate (decls.namedTypeWithin_instantiate (expansionsLeft depth)) isInstance ty

end Declarations

/-! ## Parameters that stand for themselves -/

namespace TypeEnv

/-- The environment in which parameters stand for themselves. -/
def ofNames (names : List String) : TypeEnv := names.map fun name => (name, SemTy.param name)

theorem lookup_ofNames (names : List String) (name : String) :
    (ofNames names).lookup name = if names.contains name then some (.param name) else none := by
  induction names with
  | nil => rfl
  | cons other names inductionHypothesis =>
    rw [ofNames, List.map_cons, List.lookup_cons, List.contains_cons]
    cases same : name == other with
    | true => rw [beq_iff_eq.mp same]; rfl
    | false => exact inductionHypothesis

/-- What an environment says that a parameter stands for. -/
def standsFor (env : TypeEnv) (name : String) : Option SemTy := env.lookup name

/-- Every environment is an instance of the one in which its parameters stand for themselves. -/
theorem isInstance_ofNames (env : TypeEnv) :
    IsInstance env.standsFor (ofNames (env.map Prod.fst)) env := by
  intro name
  rw [lookup_ofNames, ← isSome_lookup]
  cases known : env.lookup name with
  | none => rfl
  | some ty => simp [standsFor, known]

end TypeEnv

/-- Lowered with parameters and then instantiated, a type is what the environment makes of it at
once. -/
theorem Declarations.lower_generic (decls : Declarations) (env : TypeEnv) (ty : Ty) (depth : Int) :
    decls.lower env ty depth =
      (decls.lower (.ofNames (env.map Prod.fst)) ty depth).instantiate env.standsFor :=
  decls.lower_isInstance (TypeEnv.isInstance_ofNames env) ty depth

/-! ## Fields and methods -/

/-- A result with other types in the place of the parameters that it knows. -/
def ResultTy.instantiate (given : String → Option SemTy) : ResultTy → ResultTy
  | known ty => known (ty.instantiate given)
  | written ty env => written ty (env.instantiate given)

section

variable (given : String → Option SemTy) {ty : SemTy} (noParam : ty.kind ≠ .param)

include noParam

theorem implArgs_instantiate (impl : ImplInfo) (known : List String) :
    implArgs impl known (ty.instantiate given) =
      (implArgs impl known ty).instantiate given := by
  obtain ⟨kind, path, args, isMut⟩ := ty
  have other : kind ≠ .param := noParam
  rw [SemTy.instantiate_mk given other]
  unfold implArgs
  split
  · rw [SemTy.args, SemTy.args, TypeEnv.instantiate, List.zip_map_right, List.filterMap_map,
      List.map_filterMap]
    congr 1
    funext entry
    obtain ⟨arg, actual⟩ := entry
    cases single : arg.single? with
    | none => simp [single]
    | some name => by_cases isKnown : name ∈ known <;> simp [single, isKnown]
  · rfl

/-- What a method of an instance comes to is the instance of what the method comes to. -/
theorem Method.result_instantiate (method : Method) :
    method.result (ty.instantiate given) = (method.result ty).instantiate given := by
  unfold Method.result
  cases method.fn.ret with
  | none => simp [ResultTy.instantiate, SemTy.unit]
  | some ret =>
    dsimp only
    rw [implArgs_instantiate given noParam, ResultTy.instantiate]
    simp

namespace MethodTable

variable (table : MethodTable) (name : String)

theorem structField?_instantiate : table.structField? (ty.instantiate given) name =
    (table.structField? ty name).map (ResultTy.instantiate given) := by
  obtain ⟨kind, path, args, isMut⟩ := ty
  have other : kind ≠ .param := noParam
  rw [SemTy.instantiate_mk given other]
  simp only [structField?, SemTy.path, SemTy.args, TypeEnv.ofArgs_instantiate]
  cases table.decls.structs.lookup (path.getLastD "") with
  | none => rfl
  | some info =>
    cases found : info.fields.find? fun field => field.1 == name with
    | none => simp [found]
    | some field =>
      simp [found, ResultTy.instantiate]

/-- A field of an instance is the instance of the field. -/
theorem fieldResult?_instantiate : table.fieldResult? (ty.instantiate given) name =
    (table.fieldResult? ty name).map (Option.map (ResultTy.instantiate given)) := by
  have structs := structField?_instantiate given noParam table name
  obtain ⟨kind, path, args, isMut⟩ := ty
  have other : kind ≠ .param := noParam
  rw [SemTy.instantiate_mk given other] at structs ⊢
  simp only [fieldResult?, SemTy.kind, SemTy.path, SemTy.args]
  cases kind with
  | param => exact absurd rfl other
  | tuple =>
    cases tupleIndex? name with
    | error fault => rfl
    | ok index? =>
      cases index? with
      | none => rfl
      | some index =>
        refine congrArg Except.ok ?_
        cases inside : args[index]? with
        | none => simp [inside]
        | some arg => simp [inside, ResultTy.instantiate]
  | adt =>
    by_cases inCrate : path.head? = some "crate"
    · simp only [inCrate, if_true, structs]
      rfl
    · simp only [inCrate, if_false]
      rfl
  | ref | ptr | slice | array | prim | never | unknown => rfl

end MethodTable

end

namespace MethodTable

theorem resultType_instantiate (given : String → Option SemTy) (table : MethodTable)
    (result : ResultTy) :
    table.resultType (result.instantiate given) = (table.resultType result).instantiate given := by
  cases result with
  | known ty => rfl
  | written ty env =>
    exact table.decls.lower_isInstance (TypeEnv.isInstance_instantiate given env) ty 0

/-- The type of a field, if the type has it. -/
def fieldType? (table : MethodTable) (ty : SemTy) (name : String) :
    Except IndexFault (Option SemTy) :=
  (table.fieldResult? ty name).map (Option.map table.resultType)

theorem fieldType?_instantiate (given : String → Option SemTy) (table : MethodTable) {ty : SemTy}
    (noParam : ty.kind ≠ .param) (name : String) :
    table.fieldType? (ty.instantiate given) name =
      (table.fieldType? ty name).map (Option.map (SemTy.instantiate given)) := by
  rw [fieldType?, fieldType?, fieldResult?_instantiate given noParam]
  cases table.fieldResult? ty name with
  | error fault => rfl
  | ok result? =>
    cases result? with
    | none => rfl
    | some result => exact congrArg (Except.ok ∘ some) (resultType_instantiate given table result)

/-- Types may be put in for parameters before the lowering or afterwards.  To lower a type in an
instance of an environment gives the instance of the type that it has in the environment, and so it is
with paths and their arguments, at every depth.  The type of a field or a method, lowered with its
parameters and then instantiated, is the one that it has with what the parameters stand for; fields
and methods of an instance have the instances of their types. -/
theorem lowering_instantiates (table : MethodTable) (given : String → Option SemTy) :
    (∀ env ty depth, table.decls.lower (env.instantiate given) ty depth =
      (table.decls.lower env ty depth).instantiate given) ∧
    (∀ segments args depth,
      table.decls.namedType segments (args.map (SemTy.instantiate given)) depth =
        (table.decls.namedType segments args depth).instantiate given) ∧
    (∀ written env, table.resultType (.written written env) =
      (table.resultType (.written written (.ofNames (env.map Prod.fst)))).instantiate
        env.standsFor) ∧
    (∀ (ty : SemTy) name, ty.kind ≠ .param → table.fieldType? (ty.instantiate given) name =
      (table.fieldType? ty name).map (Option.map (SemTy.instantiate given))) ∧
    (∀ (method : Method) (ty : SemTy), ty.kind ≠ .param →
      table.resultType (method.result (ty.instantiate given)) =
        (table.resultType (method.result ty)).instantiate given) := by
  refine ⟨fun env ty depth => ?_, fun segments args depth => ?_, fun written env => ?_,
    fun ty name noParam => ?_, fun method ty noParam => ?_⟩
  · exact table.decls.lower_isInstance (TypeEnv.isInstance_instantiate given env) ty depth
  · exact table.decls.namedType_instantiate segments args depth
  · exact table.decls.lower_generic env written 0
  · exact fieldType?_instantiate given table noParam name
  · rw [method.result_instantiate given noParam, resultType_instantiate]

/-- A file with a generic struct whose field and method have a type with an alias in it. -/
def pairFile : SourceFile := ⟨"pair.rs",
  ("type Both<A> = (Vec<A>, &'static A); struct S<T> { f: [Both<T>] } " ++
    "impl<U> S<U> { fn m(self) -> Option<Both<U>>; }").toList⟩

/-- With a string for the parameter of the struct. -/
theorem lowering_instantiates_pairFile : ∃ crate method, pairFile.parse = .ok crate ∧
    (ofCrate crate).inherent.lookup (["crate", "S"], "m") = some method ∧
    (ofCrate crate).fieldType? (.adt ["crate", "S"] [.adt Library.string []]) "f" =
      .ok (some (.slice (.tuple
        [.adt Library.vec [.adt Library.string []], .ref (.adt Library.string [])]))) ∧
    (ofCrate crate).resultType (method.result (.adt ["crate", "S"] [.adt Library.string []])) =
      .option (.tuple
        [.adt Library.vec [.adt Library.string []], .ref (.adt Library.string [])]) := by
  let both : SemTy := .tuple [.adt Library.vec [.param "T"], .ref (.param "T")]
  let given : TypeEnv := [("T", .adt Library.string [])]
  have evaluated : pairFile.crateNoted?.any (fun crate =>
      decide ((ofCrate crate).fieldType? (.adt ["crate", "S"] [.param "T"]) "f" =
        .ok (some (.slice both))) &&
      ((ofCrate crate).inherent.lookup (["crate", "S"], "m")).any fun method =>
        decide ((ofCrate crate).resultType (method.result (.adt ["crate", "S"] [.param "T"])) =
          .option both)) = true := by
    decide +kernel
  obtain ⟨crate, parsed, checked⟩ := SourceFile.parse_of_noted evaluated
  simp only [Bool.and_eq_true, decide_eq_true_eq, Option.any_eq_true] at checked
  obtain ⟨field, method, isMethod, returns⟩ := checked
  obtain ⟨-, -, -, fields, methods⟩ := lowering_instantiates (ofCrate crate) given.standsFor
  refine ⟨crate, method, parsed, isMethod, ?_, ?_⟩
  · have instantiated := fields (.adt ["crate", "S"] [.param "T"]) "f" nofun
    rw [field] at instantiated
    exact instantiated
  · have instantiated := methods method (.adt ["crate", "S"] [.param "T"]) nofun
    rw [returns] at instantiated
    exact instantiated

end MethodTable

end DrainLint.Typing
