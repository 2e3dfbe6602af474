import DrainLint.Proofs.Grammar.PlacedItems
import DrainLint.Proofs.Peg.Noted
import DrainLint.Typing.MethodTable
import Mathlib.Data.List.Basic
import Mathlib.Data.List.Forall2

/-! # Generic arguments

The parameters of a struct lose their lifetimes, its arguments lose all that is no type, and what is
left is paired one by one.  An argument reaches the parameter in its place where, up to this place,
arguments are types exactly where parameters are no lifetimes.

- `writtenArgs`: the arguments of a type, from all that are written;
- `NamesStruct`, `lower_names`: a path that names a struct, and the type that it gives;
- `lookup_ofArgs`, `lookup_implArgs`: what a parameter of a struct and one of an implementation
  stands for;
- `argument_reaches_parameter`: fields and methods whose type is a parameter;
- `argument_shifts_constFile`: a constant parameter moves the arguments after it.
-/

namespace DrainLint.Typing

open Hir

/-! ## Arguments as written -/

/-- The arguments of a type, from all that are written: lifetimes, constants that are no types and
bindings are dropped. -/
def writtenArgs (written : List (Option Ty)) : List Ty := written.filterMap id

theorem writtenArgs_append (first second : List (Option Ty)) :
    writtenArgs (first ++ second) = writtenArgs first ++ writtenArgs second :=
  List.filterMap_append

theorem writtenArgs_split (before after : List (Option Ty)) (ty : Ty) :
    writtenArgs (before ++ some ty :: after) = writtenArgs before ++ ty :: writtenArgs after := by
  rw [writtenArgs_append]
  rfl

def isLifetime (name : String) : Bool := name.toList.head? == some '\''

theorem typeParams_eq (generics : List String) :
    typeParams generics = generics.filter fun name => !isLifetime name := rfl

theorem typeParams_split (before after : List String) {name : String}
    (isType : isLifetime name = false) :
    typeParams (before ++ name :: after) = typeParams before ++ name :: typeParams after := by
  simp only [typeParams_eq, List.filter_append, List.filter_cons, isType, Bool.not_false, if_true]

/-- Arguments that are types exactly where parameters are no lifetimes. -/
def Fits (generics : List String) (written : List (Option Ty)) : Prop :=
  List.Forall₂ (fun name arg => arg.isNone = isLifetime name) generics written

theorem Fits.length_eq {generics : List String} {written : List (Option Ty)}
    (fits : Fits generics written) :
    (typeParams generics).length = (writtenArgs written).length := by
  induction fits with
  | nil => rfl
  | @cons name arg generics written same fits inductionHypothesis =>
    rw [typeParams_eq] at inductionHypothesis ⊢
    cases arg with
    | none =>
      have lifetime : isLifetime name = true := same.symm
      simpa [List.filter_cons, lifetime, writtenArgs] using inductionHypothesis
    | some ty =>
      have noLifetime : isLifetime name = false := same.symm
      simpa [List.filter_cons, noLifetime, writtenArgs] using inductionHypothesis

/-- Arguments of two types that are types in the same places. -/
def SamePlaces (written others : List (Option Ty)) : Prop :=
  List.Forall₂ (fun arg other => arg.isNone = other.isNone) written others

theorem SamePlaces.length_eq {written others : List (Option Ty)}
    (same : SamePlaces written others) :
    (writtenArgs written).length = (writtenArgs others).length := by
  induction same with
  | nil => rfl
  | @cons arg other written others same rest inductionHypothesis =>
    cases arg <;> cases other <;> simp_all [writtenArgs]

/-! ## Types that name a struct -/

theorem lowerAllWith_eq_map (resolve : Path → List SemTy → SemTy) (env : TypeEnv) (tys : List Ty) :
    Declarations.lowerAllWith resolve env tys = tys.map (Declarations.lowerWith resolve env) := by
  induction tys with
  | nil => rw [Declarations.lowerAllWith, List.map_nil]
  | cons ty tys inductionHypothesis =>
    rw [Declarations.lowerAllWith, inductionHypothesis, List.map_cons]

/-- A path that names a struct of the crate in an environment: its name is no parameter, no primitive
type and no alias, and imports do not lead out of the crate. -/
structure NamesStruct (decls : Declarations) (env : TypeEnv) (segments : Path) (name : String) :
    Prop where
  declared : (decls.structs.lookup name).isSome = true
  noAlias : decls.aliases.lookup name = none
  free : ∀ segment, segments = [segment] →
    env.lookup segment = none ∧ Library.primitives.contains segment = false
  leads : (decls.followImports segments).getLast? = some name
  inCrate : ∀ first second rest, decls.followImports segments = first :: second :: rest →
    Library.externRoots.contains first = false

section

variable {decls : Declarations} {env : TypeEnv} {segments : Path} {name : String}

theorem namedTypeWithin_names (names : NamesStruct decls env segments name) (left : Nat)
    (args : List SemTy) :
    decls.namedTypeWithin (left + 1) segments args = .adt ["crate", name] args := by
  have leads := names.leads
  have inCrate := names.inCrate
  unfold Declarations.namedTypeWithin
  match target : decls.followImports segments with
  | [] => simp [target] at leads
  | [last] =>
    obtain rfl : last = name := by simpa [target] using leads
    simp [Declarations.aliasOf?, Declarations.resolveItem, names.noAlias, names.declared]
  | first :: second :: rest =>
    have last : (second :: rest).getLastD "" = name := by
      rw [target, List.getLast?_cons_cons] at leads
      rw [List.getLastD_eq_getLast?, leads, Option.getD_some]
    have isLocal := inCrate _ _ _ target
    have noAlias : decls.aliasOf? (first :: second :: rest) = none := by
      simp only [Declarations.aliasOf?, isLocal, last, names.noAlias, Bool.false_eq_true, if_false]
    have item : decls.resolveItem (first :: second :: rest) args = .adt ["crate", name] args := by
      have last : (first :: second :: rest).getLastD "" = name := last
      simp only [Declarations.resolveItem, isLocal, last, names.declared, Bool.not_false,
        Bool.or_true, Bool.true_or, Bool.and_self, if_true]
    simp only [noAlias, item]

/-- A type that names a struct has the types of its arguments, in order. -/
theorem lower_names (names : NamesStruct decls env segments name) (origin : Origin)
    (args : List Ty) :
    decls.lower env (.path origin segments args) =
      .adt ["crate", name] (args.map (decls.lower env)) := by
  have resolved (args : List SemTy) :
      decls.namedTypeWithin (expansionsLeft 0) segments args = .adt ["crate", name] args :=
    namedTypeWithin_names names maxAliasDepth args
  unfold Declarations.lower
  match segments, names.free with
  | [segment], free =>
    obtain ⟨noParam, noPrimitive⟩ := free segment rfl
    simp only [Declarations.lowerWith, noParam, noPrimitive, resolved, lowerAllWith_eq_map]
    rfl
  | [], _ => simp only [Declarations.lowerWith, resolved, lowerAllWith_eq_map]
  | first :: second :: rest, _ =>
    simp only [Declarations.lowerWith, resolved, lowerAllWith_eq_map]

theorem lower_param {param : String} {ty : SemTy} (known : env.lookup param = some ty)
    (origin : Origin) (args : List Ty) : decls.lower env (.path origin [param] args) = ty := by
  simp only [Declarations.lower, Declarations.lowerWith, known]

end

/-! ## What parameters stand for -/

/-- Of the entries of a name the last one counts when they are read backwards. -/
theorem lookup_reverse_split {α : Type} {before after : List (String × α)} {name : String} {value : α}
    (last : name ∉ after.map Prod.fst) :
    (before ++ (name, value) :: after).reverse.lookup name = some value := by
  have none : after.reverse.lookup name = none := by
    refine List.lookup_eq_none_iff.mpr fun entry member => ?_
    have other : name ≠ entry.1 := fun same =>
      last (same ▸ List.mem_map_of_mem (List.mem_reverse.mp member))
    simpa using other
  rw [List.reverse_append, List.reverse_cons, List.append_assoc, List.lookup_append, none,
    Option.none_or, List.singleton_append, List.lookup_cons_self]

/-- A parameter of a struct stands for the argument in its place. -/
theorem lookup_ofArgs {before after : List String} {name : String}
    {written others : List (Option Ty)} (isType : isLifetime name = false) (last : name ∉ after)
    (fits : Fits before written) (lowered : Ty → SemTy) (ty : Ty) :
    (TypeEnv.ofArgs (before ++ name :: after)
      ((writtenArgs (written ++ some ty :: others)).map lowered)).lookup name =
        some (lowered ty) := by
  have lengths : (typeParams before).length = ((writtenArgs written).map lowered).length := by
    rw [List.length_map, fits.length_eq]
  rw [TypeEnv.ofArgs, typeParams_split before after isType, writtenArgs_split, List.map_append,
    List.zip_append lengths, List.map_cons, List.zip_cons_cons]
  apply lookup_reverse_split
  intro again
  obtain ⟨entry, member, rfl⟩ := List.mem_map.mp again
  exact last (List.mem_of_mem_filter (List.of_mem_zip member).1)

/-- A parameter of an implementation stands for the argument in the place where its type lists the
parameter. -/
theorem lookup_implArgs {impl : ImplInfo} {known : List String} {selfTy : SemTy} {name : String}
    {origin paramOrigin : Origin} {segments : Path} {written others earlier later : List (Option Ty)}
    {paramArgs : List Ty} {ty : Ty} {lowered : Ty → SemTy}
    (selfArgs : selfTy.args = (writtenArgs (written ++ some ty :: others)).map lowered)
    (lists : impl.selfTy = .path origin segments
      (writtenArgs (earlier ++ some (.path paramOrigin [name] paramArgs) :: later)))
    (isKnown : name ∈ known) (same : SamePlaces written earlier)
    (last : ∀ arg ∈ writtenArgs later, arg.single? ≠ some name) :
    (implArgs impl known selfTy).reverse.lookup name = some (lowered ty) := by
  have lengths : (writtenArgs earlier).length = ((writtenArgs written).map lowered).length := by
    rw [List.length_map, same.length_eq]
  have paired : (writtenArgs (earlier ++ some (.path paramOrigin [name] paramArgs) :: later)).zip
      selfTy.args = (writtenArgs earlier).zip ((writtenArgs written).map lowered) ++
        (Ty.path paramOrigin [name] paramArgs, lowered ty) ::
          (writtenArgs later).zip ((writtenArgs others).map lowered) := by
    rw [selfArgs, writtenArgs_split, writtenArgs_split, List.map_append, List.zip_append lengths,
      List.map_cons, List.zip_cons_cons]
  have isOwn : known.contains name = true := List.contains_iff_mem.mpr isKnown
  simp only [implArgs, lists, paired]
  rw [List.filterMap_append, List.filterMap_cons]
  have single : (Ty.path paramOrigin [name] paramArgs).single? = some name := rfl
  simp only [single, isOwn, if_true]
  apply lookup_reverse_split
  -- A later entry of the name would come from a later argument that is the parameter.
  intro again
  obtain ⟨entry, member, isName⟩ := List.mem_map.mp again
  obtain ⟨⟨arg, actual⟩, listed, found⟩ := List.mem_filterMap.mp member
  cases single : arg.single? with
  | none => simp [single] at found
  | some segment =>
    simp only [single] at found
    split at found
    · injection found with same
      subst same
      exact last arg (List.of_mem_zip listed).1 (isName ▸ single)
    · cases found

/-! ## Fields and methods -/

section

variable {table : MethodTable} {env : TypeEnv} {segments : Path} {name field : String}
  {info : StructInfo} {before after : List String} {param : String} {ty : Ty}
  {written others : List (Option Ty)}

/-- A field whose type is a parameter has the type that is written for the parameter. -/
theorem fieldResult_argument (declared : table.decls.structs.lookup name = some info)
    (names : NamesStruct table.decls env segments name) (origin : Origin)
    (generics : info.generics = before ++ param :: after) (isType : isLifetime param = false)
    (last : param ∉ after) (fits : Fits before written) {fieldOrigin : Origin} {fieldArgs : List Ty}
    (isField : info.fields.find? (fun known => known.1 == field) =
      some (field, .path fieldOrigin [param] fieldArgs)) :
    ∃ result, table.fieldResult? (table.decls.lower env
        (.path origin segments (writtenArgs (written ++ some ty :: others)))) field =
          .ok (some result) ∧
      table.resultType result = table.decls.lower env ty := by
  let args := (writtenArgs (written ++ some ty :: others)).map (table.decls.lower env)
  let within := TypeEnv.ofArgs info.generics args ++ TypeEnv.unknownParams info.generics
  refine ⟨.written (.path fieldOrigin [param] fieldArgs) within, ?_, ?_⟩
  · have found : table.structField? (.adt ["crate", name] args) field =
        some (.written (.path fieldOrigin [param] fieldArgs) within) := by
      have last : (SemTy.adt ["crate", name] args).path.getLastD "" = name := rfl
      simp only [MethodTable.structField?, last, declared, Option.bind_eq_bind, Option.bind_some,
        isField]
      rfl
    rw [lower_names names]
    simp only [MethodTable.fieldResult?]
    exact congrArg Except.ok found
  · have reaches : within.lookup param = some (table.decls.lower env ty) := by
      rw [List.lookup_append, generics, lookup_ofArgs isType last fits, Option.some_or]
    exact lower_param reaches _ _

/-- A method whose result is a parameter that the type of its implementation lists comes to the
argument in this place. -/
theorem methodResult_argument (names : NamesStruct table.decls env segments name) (origin : Origin)
    {method : Method} {selfOrigin paramOrigin retOrigin : Origin} {selfSegments : Path}
    {earlier later : List (Option Ty)} {paramArgs retArgs : List Ty}
    (lists : method.impl.selfTy = .path selfOrigin selfSegments
      (writtenArgs (earlier ++ some (.path paramOrigin [param] paramArgs) :: later)))
    (isOwn : param ∈ typeParams method.impl.generics) (noSelf : param ≠ "Self")
    (same : SamePlaces written earlier) (last : ∀ arg ∈ writtenArgs later, arg.single? ≠ some param)
    (returns : method.fn.ret = some (.path retOrigin [param] retArgs)) :
    table.resultType (method.result (table.decls.lower env
        (.path origin segments (writtenArgs (written ++ some ty :: others))))) =
      table.decls.lower env ty := by
  let params :=
    TypeEnv.unknownParams method.impl.generics ++ TypeEnv.unknownParams method.fn.generics
  have isKnown : param ∈ params.map Prod.fst := by
    simp only [params, TypeEnv.unknownParams, List.map_append, List.map_map, List.mem_append]
    exact .inl (List.mem_map.mpr ⟨param, isOwn, rfl⟩)
  rw [lower_names names]
  let selfTy := SemTy.adt ["crate", name]
    ((writtenArgs (written ++ some ty :: others)).map (table.decls.lower env))
  have stands : (implArgs method.impl (params.map Prod.fst) selfTy).reverse.lookup param =
      some (table.decls.lower env ty) := lookup_implArgs rfl lists isKnown same last
  have reaches : List.lookup param
      (("Self", selfTy) :: (implArgs method.impl (params.map Prod.fst) selfTy).reverse ++ params) =
        some (table.decls.lower env ty) := by
    rw [List.cons_append, List.lookup_cons, beq_false_of_ne noSelf, List.lookup_append, stands,
      Option.some_or]
  simp only [Method.result, returns, MethodTable.resultType]
  exact lower_param reaches _ _

variable (ty others) in
/-- An argument of a struct reaches the parameter in its place, where the arguments before it are
types exactly where the parameters before it are no lifetimes: a field whose type is the parameter
has the type that is written for it, and so has what a method comes to whose result is a parameter
that the type of the implementation lists in this place, types standing in the same places before
it. -/
theorem argument_reaches_parameter (declared : table.decls.structs.lookup name = some info)
    (names : NamesStruct table.decls env segments name) (origin : Origin)
    (generics : info.generics = before ++ param :: after) (isType : isLifetime param = false)
    (last : param ∉ after) (fits : Fits before written) :
    (∀ field fieldOrigin fieldArgs, info.fields.find? (fun known => known.1 == field) =
        some (field, .path fieldOrigin [param] fieldArgs) →
      ∃ result, table.fieldResult? (table.decls.lower env
          (.path origin segments (writtenArgs (written ++ some ty :: others)))) field =
            .ok (some result) ∧
        table.resultType result = table.decls.lower env ty) ∧
    (∀ (method : Method) (own : String) (earlier later : List (Option Ty))
      (selfOrigin ownOrigin retOrigin : Origin) (selfSegments : Path) (ownArgs retArgs : List Ty),
      method.impl.selfTy = .path selfOrigin selfSegments
        (writtenArgs (earlier ++ some (.path ownOrigin [own] ownArgs) :: later)) →
      own ∈ typeParams method.impl.generics → own ≠ "Self" → SamePlaces written earlier →
      (∀ arg ∈ writtenArgs later, arg.single? ≠ some own) →
      method.fn.ret = some (.path retOrigin [own] retArgs) →
      table.resultType (method.result (table.decls.lower env
          (.path origin segments (writtenArgs (written ++ some ty :: others))))) =
        table.decls.lower env ty) :=
  ⟨fun _ _ _ isField => fieldResult_argument declared names origin generics isType last fits isField,
    fun _ _ _ _ _ _ _ _ _ _ lists isOwn noSelf same last returns =>
      methodResult_argument names origin lists isOwn noSelf same last returns⟩

end

/-! ## Types in a file -/

theorem eq_path_of_single? {ty : Ty} {name : String} (single : ty.single? = some name) :
    ∃ origin args, ty = .path origin [name] args := by
  unfold Ty.single? at single
  split at single
  · cases single
    exact ⟨_, _, rfl⟩
  · cases single

/-- The two arguments of a type that names a struct by a path of one segment. -/
def twoArgs? (name : String) : Ty → Option (Origin × Ty × Ty)
  | .path origin [segment] [first, second] =>
    if segment = name then some (origin, first, second) else none
  | _ => none

theorem eq_path_of_twoArgs? {name : String} {ty first second : Ty} {origin : Origin}
    (found : twoArgs? name ty = some (origin, first, second)) :
    ty = .path origin [name] [first, second] := by
  unfold twoArgs? at found
  split at found
  · split at found
    · rename_i same
      cases found
      rw [same]
    · cases found
  · cases found

def paramTys : Item → List Ty
  | .fnDef _ _ _ params _ _ _ => params.filterMap fun | .mk _ _ ty => ty
  | _ => []

/-- What is asked of a file so that a path of one segment names a struct of it. -/
def namesStruct (decls : Declarations) (name : String) : Bool :=
  (decls.structs.lookup name).isSome && (decls.aliases.lookup name).isNone &&
    !Library.primitives.contains name && decls.followImports [name] == [name]

theorem NamesStruct.of_namesStruct {decls : Declarations} {name : String}
    (names : namesStruct decls name = true) : NamesStruct decls [] [name] name := by
  simp only [namesStruct, Bool.and_eq_true, Option.isNone_iff_eq_none, Bool.not_eq_true',
    beq_iff_eq] at names
  obtain ⟨⟨⟨declared, noAlias⟩, noPrimitive⟩, stays⟩ := names
  refine ⟨declared, noAlias, ?_, by rw [stays]; rfl, ?_⟩
  · rintro segment same
    cases same
    exact ⟨rfl, noPrimitive⟩
  · intro first second rest leads
    rw [stays] at leads
    cases leads

/-- A file with a lifetime and two types as parameters, and an implementation that lists its own in
another order. -/
def lifetimeFile : SourceFile := ⟨"lifetime.rs",
  ("struct S<'a, T, U> { f: T, g: U } impl<'b, B, A> S<'b, A, B> { fn m(self) -> B; } " ++
    "fn f(s: S<'_, Vec<i32>, String>) {}").toList⟩

/-- The second type that is written for the struct reaches its last parameter, by the field and by the
method. -/
theorem argument_reaches_parameter_lifetimeFile : ∃ crate info method origin vec string result,
    lifetimeFile.parse = .ok crate ∧
    (MethodTable.ofCrate crate).decls.structs.lookup "S" = some info ∧
    (MethodTable.ofCrate crate).inherent.lookup (["crate", "S"], "m") = some method ∧
    info.generics = ["'a", "T"] ++ "U" :: [] ∧ Fits ["'a", "T"] [none, some vec] ∧
    lifetimeFile.slice string.origin.span = "String".toList ∧
    (MethodTable.ofCrate crate).fieldResult? ((MethodTable.ofCrate crate).decls.lower []
      (.path origin ["S"] (writtenArgs ([none, some vec] ++ some string :: [])))) "g" =
        .ok (some result) ∧
    (MethodTable.ofCrate crate).resultType result =
      (MethodTable.ofCrate crate).decls.lower [] string ∧
    (MethodTable.ofCrate crate).resultType (method.result ((MethodTable.ofCrate crate).decls.lower []
      (.path origin ["S"] (writtenArgs ([none, some vec] ++ some string :: []))))) =
        (MethodTable.ofCrate crate).decls.lower [] string := by
  have evaluated : lifetimeFile.crateNoted?.any (fun crate =>
      namesStruct (MethodTable.ofCrate crate).decls "S" &&
      ((MethodTable.ofCrate crate).decls.structs.lookup "S").any (fun info =>
        info.generics == ["'a", "T", "U"] &&
        (info.fields.find? fun known => known.1 == "g").any fun field =>
          field.1 == "g" && field.2.single? == some "U") &&
      ((MethodTable.ofCrate crate).inherent.lookup (["crate", "S"], "m")).any (fun method =>
        (twoArgs? "S" method.impl.selfTy).any (fun args =>
          args.2.1.single? == some "A" && args.2.2.single? == some "B") &&
        method.impl.generics == ["'b", "B", "A"] &&
        (method.fn.ret.bind Ty.single?) == some "B") &&
      crate.items.any fun item => (paramTys item).any fun ty =>
        (twoArgs? "S" ty).any fun args =>
          lifetimeFile.slice args.2.2.origin.span == "String".toList) = true := by
    decide +kernel
  obtain ⟨crate, parsed, checked⟩ := SourceFile.parse_of_noted evaluated
  simp only [Bool.and_eq_true, beq_iff_eq, List.any_eq_true, Option.any_eq_true] at checked
  obtain ⟨⟨⟨names, info, declared, generics, ⟨field, fieldTy⟩, isField, rfl, fieldSingle⟩,
    method, isMethod, ⟨⟨⟨selfOrigin, first, second⟩, lists, firstSingle, secondSingle⟩,
      implGenerics⟩, returns⟩, item, listed, ty, isParam, ⟨origin, vec, string⟩, written, text⟩ :=
    checked
  obtain ⟨fieldOrigin, fieldArgs, rfl⟩ := eq_path_of_single? fieldSingle
  obtain ⟨ownOrigin, ownArgs, rfl⟩ := eq_path_of_single? secondSingle
  obtain ⟨ret, isRet, retSingle⟩ := Option.bind_eq_some_iff.mp returns
  obtain ⟨retOrigin, retArgs, rfl⟩ := eq_path_of_single? retSingle
  have fits : Fits ["'a", "T"] [none, some vec] :=
    .cons rfl (.cons (show false = isLifetime "T" by decide) .nil)
  have places : SamePlaces [none, some vec] [none, some first] := .cons rfl (.cons rfl .nil)
  obtain ⟨fields, methods⟩ := argument_reaches_parameter string [] declared
    (.of_namesStruct names) origin generics (by decide) (by simp) fits
  obtain ⟨result, found, same⟩ := fields "g" fieldOrigin fieldArgs isField
  exact ⟨crate, info, method, origin, vec, string, result, parsed, declared, isMethod, generics, fits,
    text, found, same, methods method "B" [none, some first] [] selfOrigin ownOrigin retOrigin ["S"]
      ownArgs retArgs (eq_path_of_twoArgs? lists) (by rw [implGenerics]; decide) (by decide) places
      (by simp [writtenArgs]) isRet⟩

/-! ## Parameters that are constants -/

theorem eq_ok_of_join {ε α : Type} {found : Except ε (Option α)} {value : α}
    (joined : found.toOption.join = some value) : found = .ok (some value) := by
  cases found with
  | error fault => cases joined
  | ok value? => exact congrArg Except.ok joined

/-- A file with a constant and two types as parameters. -/
def constFile : SourceFile := ⟨"const.rs",
  "struct S<const N: usize, T, U> { f: T, g: U } fn f(s: S<3, Vec<i32>, String>) { s.f; }".toList⟩

/-- A constant that is no type is dropped, its parameter is not: the arguments after it move, and the
field of the type `T` gets the type that is written for `U`. -/
theorem argument_shifts_constFile : ∃ crate info item origin vec string fieldOrigin fieldArgs result,
    constFile.parse = .ok crate ∧ item ∈ crate.items ∧
    Ty.path origin ["S"] (writtenArgs [none, some vec, some string]) ∈ paramTys item ∧
    constFile.slice origin.span = "S<3, Vec<i32>, String>".toList ∧
    (MethodTable.ofCrate crate).decls.structs.lookup "S" = some info ∧
    info.generics = ["N", "T", "U"] ∧
    info.fields.find? (fun known => known.1 == "f") = some ("f", .path fieldOrigin ["T"] fieldArgs) ∧
    (MethodTable.ofCrate crate).fieldResult? ((MethodTable.ofCrate crate).decls.lower []
      (.path origin ["S"] (writtenArgs [none, some vec, some string]))) "f" = .ok (some result) ∧
    (MethodTable.ofCrate crate).resultType result =
      (MethodTable.ofCrate crate).decls.lower [] string ∧
    (MethodTable.ofCrate crate).resultType result ≠
      (MethodTable.ofCrate crate).decls.lower [] vec := by
  have evaluated : constFile.crateNoted?.any (fun crate =>
      ((MethodTable.ofCrate crate).decls.structs.lookup "S").any (fun info =>
        info.generics == ["N", "T", "U"] &&
        (info.fields.find? fun known => known.1 == "f").any fun field =>
          field.1 == "f" && field.2.single? == some "T") &&
      crate.items.any fun item => (paramTys item).any fun ty =>
        (twoArgs? "S" ty).any fun args =>
          constFile.slice args.1.span == "S<3, Vec<i32>, String>".toList &&
          ((MethodTable.ofCrate crate).fieldResult? ((MethodTable.ofCrate crate).decls.lower [] ty)
            "f").toOption.join.any fun result =>
              decide ((MethodTable.ofCrate crate).resultType result =
                (MethodTable.ofCrate crate).decls.lower [] args.2.2) &&
              decide ((MethodTable.ofCrate crate).resultType result ≠
                (MethodTable.ofCrate crate).decls.lower [] args.2.1)) = true := by
    decide +kernel
  obtain ⟨crate, parsed, checked⟩ := SourceFile.parse_of_noted evaluated
  simp only [Bool.and_eq_true, beq_iff_eq, List.any_eq_true, Option.any_eq_true,
    decide_eq_true_eq] at checked
  obtain ⟨⟨info, declared, generics, ⟨field, fieldTy⟩, isField, rfl, fieldSingle⟩, item, listed, ty,
    isParam, ⟨origin, vec, string⟩, written, text, result, found, isString, notVec⟩ := checked
  obtain ⟨fieldOrigin, fieldArgs, rfl⟩ := eq_path_of_single? fieldSingle
  obtain rfl := eq_path_of_twoArgs? written
  exact ⟨crate, info, item, origin, vec, string, fieldOrigin, fieldArgs, result, parsed, listed,
    isParam, text, declared, generics, isField, eq_ok_of_join found, isString, notVec⟩

end DrainLint.Typing
