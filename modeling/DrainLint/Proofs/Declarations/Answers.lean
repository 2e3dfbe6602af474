import DrainLint.Keyed
import DrainLint.Proofs.Declarations.Rearrangement
import DrainLint.Typing.MethodTable

/-! # What rearranged declarations answer

Where no name of one kind is declared twice, the order of declarations is not seen: paths, types,
methods and fields are found as before.

- `Declarations.DistinctNames`, `MethodTable.DistinctNames`: no name twice;
- `Declarations.SameNames`: declarations that know the same names, with rearranged code;
- `SameNames.namedTypeWithin_eq`, `SameNames.lower_rearranged`: paths and types are resolved alike;
- `MethodTable.SameEntries`: tables that know the same methods too;
- `SameEntries.findMethod?_eq` and the theorems beside it: methods, associated functions and fields;
- `MethodTable.sameEntries`: the table of a rearranged crate;
- `MethodTable.SameAnswers`: what tables are asked for comes to the same.
-/

namespace DrainLint.Typing

open Hir List

/-! ## Entries of distinct names -/

/-- Entries in another order, with other values, are looked up alike where no key comes up twice. -/
theorem lookup_of_perm_map {κ α : Type} [BEq κ] [LawfulBEq κ] {entries entries' : List (κ × α)}
    {change : α → α} (distinct : (entries.map Prod.fst).Nodup)
    (same : entries' ~ entries.map fun entry => (entry.1, change entry.2)) (key : κ) :
    entries'.lookup key = (entries.lookup key).map change := by
  have keys : (entries.map fun entry => (entry.1, change entry.2)).map Prod.fst =
      entries.map Prod.fst := by
    rw [map_map]
    rfl
  have distinct' : (entries'.map Prod.fst).Nodup :=
    (same.map Prod.fst).nodup_iff.mpr (keys ▸ distinct)
  cases found : entries.lookup key with
  | some value =>
    refine lookup_of_mem distinct' (same.mem_iff.mpr (mem_map.mpr ⟨_, mem_of_lookup found, rfl⟩))
  | none =>
    refine lookup_eq_none_iff.mpr fun entry member => ?_
    obtain ⟨entry, listed, rfl⟩ := mem_map.mp (same.mem_iff.mp member)
    exact lookup_eq_none_iff.mp found entry listed

/-! ## Rearranged code in the tables -/

section

variable (order : Order)

def FnInfo.rearranged (info : FnInfo) : FnInfo :=
  { info with ret := info.ret.map (Ty.rearranged order) }

def StructInfo.rearranged (info : StructInfo) : StructInfo :=
  { info with fields := info.fields.map fun field => (field.1, field.2.rearranged order) }

def AliasInfo.rearranged (info : AliasInfo) : AliasInfo :=
  { info with ty := info.ty.map (Ty.rearranged order) }

def ConstInfo.rearranged (info : ConstInfo) : ConstInfo :=
  { info with ty := info.ty.rearranged order }

def ImplInfo.rearranged (info : ImplInfo) : ImplInfo :=
  { info with
    selfTy := info.selfTy.rearranged order
    traitRef := info.traitRef.map (Ty.rearranged order)
    fns := info.fns.map (FnInfo.rearranged order) }

def Method.rearranged (method : Method) : Method :=
  ⟨method.impl.rearranged order, method.fn.rearranged order⟩

def ResultTy.rearranged : ResultTy → ResultTy
  | .known ty => .known ty
  | .written ty env => .written (ty.rearranged order) env

def Callee.rearranged (callee : Callee) : Callee := ⟨callee.path, callee.result.rearranged order⟩

theorem FnInfo.ofItem?_rearranged (item : Item) : FnInfo.ofItem? (item.rearranged order) =
    (FnInfo.ofItem? item).map (FnInfo.rearranged order) := by
  cases item <;> simp [Item.rearranged, FnInfo.ofItem?, FnInfo.rearranged]

namespace Declarations

theorem structOf?_rearranged (item : Item) : structOf? (item.rearranged order) =
    (structOf? item).map fun entry => (entry.1, entry.2.rearranged order) := by
  have field : (StructInfo.field ∘ FieldDef.rearranged order) =
      (fun field => (field.1, field.2.rearranged order)) ∘ StructInfo.field := by
    funext field
    cases field
    rfl
  cases item <;> simp [Item.rearranged, structOf?, StructInfo.rearranged, field]

theorem enumOf?_rearranged (item : Item) : enumOf? (item.rearranged order) =
    (enumOf? item).map fun name => name := by
  cases item <;> rfl

theorem typeAliasOf?_rearranged (item : Item) : typeAliasOf? (item.rearranged order) =
    (typeAliasOf? item).map fun entry => (entry.1, entry.2.rearranged order) := by
  cases item <;> simp [Item.rearranged, typeAliasOf?, AliasInfo.rearranged]

theorem importOf?_rearranged (item : Item) : importOf? (item.rearranged order) =
    (importOf? item).map fun entry => (entry.1, id entry.2) := by
  cases item <;> simp [Item.rearranged, importOf?]

theorem functionOf?_rearranged (item : Item) : functionOf? (item.rearranged order) =
    (functionOf? item).map fun entry => (entry.1, entry.2.rearranged order) := by
  cases item <;> simp [Item.rearranged, functionOf?, FnInfo.rearranged]

theorem constantOf?_rearranged (item : Item) : constantOf? (item.rearranged order) =
    (constantOf? item).map fun entry => (entry.1, entry.2.rearranged order) := by
  cases item <;> simp [Item.rearranged, constantOf?, ConstInfo.rearranged]

theorem implOf?_rearranged (item : Item) : implOf? (item.rearranged order) =
    (implOf? item).map (ImplInfo.rearranged order) := by
  cases item <;>
    simp [Item.rearranged, implOf?, ImplInfo.rearranged, filterMap_map, map_filterMap,
      FnInfo.ofItem?_rearranged]

end Declarations

end

/-! ## Declarations that know the same names -/

namespace Declarations

/-- No name of one kind is declared twice. -/
structure DistinctNames (decls : Declarations) : Prop where
  structs : (decls.structs.map Prod.fst).Nodup
  aliases : (decls.aliases.map Prod.fst).Nodup
  uses : (decls.uses.map Prod.fst).Nodup
  fns : (decls.fns.map Prod.fst).Nodup
  consts : (decls.consts.map Prod.fst).Nodup

/-- Declarations that know the same names, with rearranged code. -/
structure SameNames (order : Order) (decls decls' : Declarations) : Prop where
  structs : ∀ name, decls'.structs.lookup name =
    (decls.structs.lookup name).map (StructInfo.rearranged order)
  enums : ∀ name, decls'.enums.contains name = decls.enums.contains name
  aliases : ∀ name, decls'.aliases.lookup name =
    (decls.aliases.lookup name).map (AliasInfo.rearranged order)
  uses : ∀ name, decls'.uses.lookup name = decls.uses.lookup name
  fns : ∀ name, decls'.fns.lookup name = (decls.fns.lookup name).map (FnInfo.rearranged order)
  consts : ∀ name, decls'.consts.lookup name =
    (decls.consts.lookup name).map (ConstInfo.rearranged order)

variable {order : Order}

/-- What is kept of rearranged items, one kind at a time. -/
theorem filterMap_rearranged {α : Type} {kept? : Item → Option α} {change : α → α}
    (rearranged : ∀ item, kept? (item.rearranged order) = (kept? item).map change)
    {items items' : List Item} (same : items' ~ items.map (Item.rearranged order)) :
    (items'.filterMap kept?).reverse ~ (items.filterMap kept?).reverse.map change := by
  refine (reverse_perm _).trans ((same.filterMap kept?).trans ?_)
  have each : kept? ∘ Item.rearranged order = fun item => (kept? item).map change :=
    funext rearranged
  rw [filterMap_map, each, ← map_filterMap]
  exact (reverse_perm _).symm.map _

theorem sameNames (reorders : Reorders order) {crate : Crate}
    (distinct : (ofCrate crate).DistinctNames) :
    SameNames order (ofCrate crate) (ofCrate (crate.rearranged order)) := by
  have same := declaredItems_rearranged reorders crate
  obtain ⟨structs, aliases, uses, fns, consts⟩ := distinct
  simp only [ofCrate_eq] at structs aliases uses fns consts ⊢
  refine ⟨?_, fun name => ?_, ?_, fun name => ?_, ?_, ?_⟩
  · exact lookup_of_perm_map structs (filterMap_rearranged (structOf?_rearranged order) same)
  · have enums := filterMap_rearranged (enumOf?_rearranged order) same
    rw [map_id'] at enums
    exact enums.contains_eq
  · exact lookup_of_perm_map aliases (filterMap_rearranged (typeAliasOf?_rearranged order) same)
  · have imports := filterMap_rearranged (importOf?_rearranged order) same
    exact (lookup_of_perm_map uses imports name).trans (Option.map_id_apply)
  · exact lookup_of_perm_map fns (filterMap_rearranged (functionOf?_rearranged order) same)
  · exact lookup_of_perm_map consts (filterMap_rearranged (constantOf?_rearranged order) same)

/-! ## Types -/

mutual

/-- A rearranged type denotes what the type denotes: only the lengths of arrays hold items. -/
theorem lowerWith_rearranged (resolve : Path → List SemTy → SemTy) (env : TypeEnv) (ty : Ty) :
    lowerWith resolve env (ty.rearranged order) = lowerWith resolve env ty := by
  cases ty with
  | path origin segments args =>
    have inner := lowerAllWith_rearranged resolve env args
    rw [Ty.rearrangedAll_eq] at inner
    match segments with
    | [segment] => simp only [Ty.rearranged, Ty.rearrangedAll_eq, lowerWith, inner]
    | [] => simp only [Ty.rearranged, Ty.rearrangedAll_eq, lowerWith, inner]
    | first :: second :: rest => simp only [Ty.rearranged, Ty.rearrangedAll_eq, lowerWith, inner]
  | ref origin isMut inner => simp only [Ty.rearranged, lowerWith, lowerWith_rearranged _ _ inner]
  | ptr origin isMut inner => simp only [Ty.rearranged, lowerWith, lowerWith_rearranged _ _ inner]
  | tuple origin elems => simp only [Ty.rearranged, lowerWith, lowerAllWith_rearranged _ _ elems]
  | slice origin inner length =>
    cases length <;>
      simp only [Ty.rearranged, Expr.rearranged?, lowerWith, lowerWith_rearranged _ _ inner]
  | fnPtr | bounded | never | infer => simp only [Ty.rearranged, lowerWith]

theorem lowerAllWith_rearranged (resolve : Path → List SemTy → SemTy) (env : TypeEnv)
    (tys : List Ty) : lowerAllWith resolve env (Ty.rearrangedAll order tys) =
      lowerAllWith resolve env tys := by
  cases tys with
  | nil => rfl
  | cons ty tys =>
    simp only [Ty.rearrangedAll, lowerAllWith, lowerWith_rearranged _ _ ty,
      lowerAllWith_rearranged _ _ tys]

end

namespace SameNames

variable {decls decls' : Declarations} (same : SameNames order decls decls')

include same

theorem followSteps_eq (steps : Nat) (segments : Path) :
    decls'.followSteps steps segments = decls.followSteps steps segments := by
  induction steps generalizing segments with
  | zero => rfl
  | succ steps inductionHypothesis =>
    simp only [followSteps, same.uses, inductionHypothesis]

theorem followImports_eq (segments : Path) :
    decls'.followImports segments = decls.followImports segments :=
  same.followSteps_eq maxAliasDepth segments

theorem aliasOf?_eq (segments : Path) : decls'.aliasOf? segments =
    (decls.aliasOf? segments).map (AliasInfo.rearranged order) := by
  unfold aliasOf?
  split
  · rfl
  · exact same.aliases _
  · split
    · rfl
    · exact same.aliases _

theorem resolveItem_eq (segments : Path) (args : List SemTy) :
    decls'.resolveItem segments args = decls.resolveItem segments args := by
  simp only [resolveItem, same.structs, same.enums, Option.isSome_map]

/-- Paths name the same types. -/
theorem namedTypeWithin_eq (left : Nat) : decls'.namedTypeWithin left = decls.namedTypeWithin left := by
  funext segments args
  induction left generalizing segments args with
  | zero => rfl
  | succ left inductionHypothesis =>
    have resolve : decls'.namedTypeWithin left = decls.namedTypeWithin left :=
      funext fun segments => funext fun args => inductionHypothesis segments args
    simp only [namedTypeWithin, same.followImports_eq, same.aliasOf?_eq, same.resolveItem_eq,
      resolve]
    cases decls.aliasOf? (decls.followImports segments) with
    | none => rfl
    | some info =>
      obtain ⟨id, generics, ty⟩ := info
      cases ty with
      | none => rfl
      | some ty => exact lowerWith_rearranged _ _ ty

theorem namedType_eq (segments : Path) (args : List SemTy) (depth : Int) :
    decls'.namedType segments args depth = decls.namedType segments args depth := by
  rw [namedType, same.namedTypeWithin_eq, namedType]

/-- Rearranged types denote the same types. -/
theorem lower_rearranged (env : TypeEnv) (ty : Ty) :
    decls'.lower env (ty.rearranged order) = decls.lower env ty := by
  rw [lower, same.namedTypeWithin_eq, lowerWith_rearranged, lower]

end SameNames

end Declarations

/-! ## Methods of implementations -/

namespace MethodTable

/-- The methods of an implementation by their keys; those of a trait are kept apart. -/
def methodsOf (decls : Declarations) (ofTrait : Bool) (impl : ImplInfo) :
    List ((Path × String) × Method) :=
  match methodKey? (decls.lower (TypeEnv.ofParams impl.generics) impl.selfTy) with
  | none => []
  | some key =>
    if impl.traitRef.isSome = ofTrait then impl.fns.map fun fn => ((key, fn.name), ⟨impl, fn⟩)
    else []

theorem addImpl_eq (table : MethodTable) (impl : ImplInfo) :
    (table.addImpl impl).decls = table.decls ∧
      (table.addImpl impl).inherent = (methodsOf table.decls false impl).reverse ++ table.inherent ∧
      (table.addImpl impl).traitMethods =
        (methodsOf table.decls true impl).reverse ++ table.traitMethods := by
  cases key : methodKey? (table.decls.lower (TypeEnv.ofParams impl.generics) impl.selfTy) with
  | none => simp [addImpl, methodsOf, key]
  | some key =>
    cases traitRef : impl.traitRef with
    | none => simp [addImpl, methodsOf, key, traitRef]
    | some ty => simp [addImpl, methodsOf, key, traitRef]

theorem foldl_addImpl (table : MethodTable) (impls : List ImplInfo) :
    (impls.foldl addImpl table).decls = table.decls ∧
      (impls.foldl addImpl table).inherent =
        (impls.flatMap (methodsOf table.decls false)).reverse ++ table.inherent ∧
      (impls.foldl addImpl table).traitMethods =
        (impls.flatMap (methodsOf table.decls true)).reverse ++ table.traitMethods := by
  induction impls generalizing table with
  | nil => exact ⟨rfl, rfl, rfl⟩
  | cons impl impls inductionHypothesis =>
    obtain ⟨decls, inherent, traitMethods⟩ := inductionHypothesis (table.addImpl impl)
    obtain ⟨decls', inherent', traitMethods'⟩ := addImpl_eq table impl
    refine ⟨decls.trans decls', ?_, ?_⟩
    · rw [foldl_cons, inherent, inherent', decls', flatMap_cons, reverse_append, append_assoc]
    · rw [foldl_cons, traitMethods, traitMethods', decls', flatMap_cons, reverse_append,
        append_assoc]

theorem ofDeclarations_eq (decls : Declarations) : (ofDeclarations decls).decls = decls ∧
    (ofDeclarations decls).inherent = (decls.impls.reverse.flatMap (methodsOf decls false)).reverse ∧
    (ofDeclarations decls).traitMethods =
      (decls.impls.reverse.flatMap (methodsOf decls true)).reverse := by
  obtain ⟨kept, inherent, traitMethods⟩ := foldl_addImpl { decls } decls.impls.reverse
  rw [append_nil] at inherent traitMethods
  exact ⟨kept, inherent, traitMethods⟩

/-- No name of one kind is declared twice, and no method for one type. -/
structure DistinctNames (table : MethodTable) : Prop where
  decls : table.decls.DistinctNames
  inherent : (table.inherent.map Prod.fst).Nodup
  traitMethods : (table.traitMethods.map Prod.fst).Nodup

/-- Tables that know the same names and methods, with rearranged code. -/
structure SameEntries (order : Order) (table table' : MethodTable) : Prop where
  names : Declarations.SameNames order table.decls table'.decls
  inherent : ∀ key, table'.inherent.lookup key =
    (table.inherent.lookup key).map (Method.rearranged order)
  traitMethods : ∀ key, table'.traitMethods.lookup key =
    (table.traitMethods.lookup key).map (Method.rearranged order)

variable {order : Order}

theorem methodsOf_rearranged {decls decls' : Declarations}
    (same : Declarations.SameNames order decls decls') (ofTrait : Bool) (impl : ImplInfo) :
    methodsOf decls' ofTrait (impl.rearranged order) =
      (methodsOf decls ofTrait impl).map fun entry => (entry.1, entry.2.rearranged order) := by
  have key : decls'.lower (TypeEnv.ofParams impl.generics) (impl.rearranged order).selfTy =
      decls.lower (TypeEnv.ofParams impl.generics) impl.selfTy := same.lower_rearranged _ _
  have generics : (impl.rearranged order).generics = impl.generics := rfl
  unfold methodsOf
  rw [generics, key]
  cases methodKey? (decls.lower (TypeEnv.ofParams impl.generics) impl.selfTy) with
  | none => rfl
  | some key =>
    have isTrait : (impl.rearranged order).traitRef.isSome = impl.traitRef.isSome :=
      Option.isSome_map
    simp only [isTrait]
    split
    · simp [ImplInfo.rearranged, Method.rearranged, FnInfo.rearranged]
    · rfl

/-- The table of a rearranged crate knows the same names and methods. -/
theorem sameEntries (reorders : Reorders order) {crate : Crate}
    (distinct : (ofCrate crate).DistinctNames) :
    SameEntries order (ofCrate crate) (ofCrate (crate.rearranged order)) := by
  obtain ⟨decls, inherent, traitMethods⟩ := ofDeclarations_eq (Declarations.ofCrate crate)
  obtain ⟨decls', inherent', traitMethods'⟩ :=
    ofDeclarations_eq (Declarations.ofCrate (crate.rearranged order))
  have names : Declarations.SameNames order (Declarations.ofCrate crate)
      (Declarations.ofCrate (crate.rearranged order)) :=
    Declarations.sameNames reorders (decls ▸ distinct.decls)
  have impls : (Declarations.ofCrate (crate.rearranged order)).impls ~
      (Declarations.ofCrate crate).impls.map (ImplInfo.rearranged order) := by
    have items := Declarations.declaredItems_rearranged reorders crate
    simp only [Declarations.ofCrate_eq]
    exact Declarations.filterMap_rearranged (Declarations.implOf?_rearranged order) items
  -- The key of an implementation is the type that the declarations give it, so these come first.
  have methods (ofTrait : Bool) :
      ((Declarations.ofCrate (crate.rearranged order)).impls.reverse.flatMap
        (methodsOf (Declarations.ofCrate (crate.rearranged order)) ofTrait)).reverse ~
      ((Declarations.ofCrate crate).impls.reverse.flatMap
        (methodsOf (Declarations.ofCrate crate) ofTrait)).reverse.map
          fun entry => (entry.1, entry.2.rearranged order) := by
    have each : methodsOf (Declarations.ofCrate (crate.rearranged order)) ofTrait ∘
        ImplInfo.rearranged order = fun impl => (methodsOf (Declarations.ofCrate crate) ofTrait impl).map
          fun entry => (entry.1, entry.2.rearranged order) :=
      funext (methodsOf_rearranged names ofTrait)
    refine (reverse_perm _).trans ((((reverse_perm _).trans impls).flatMap_right _).trans ?_)
    rw [flatMap_map, ← Function.comp_def, each, ← map_flatMap]
    exact (((reverse_perm _).trans ((reverse_perm _).flatMap_right _)).map _).symm
  refine ⟨?_, ?_, ?_⟩
  · exact decls.symm ▸ decls'.symm ▸ names
  · refine lookup_of_perm_map distinct.inherent ?_
    unfold ofCrate
    rw [inherent, inherent']
    exact methods false
  · refine lookup_of_perm_map distinct.traitMethods ?_
    unfold ofCrate
    rw [traitMethods, traitMethods']
    exact methods true

end MethodTable

/-! ## Answers -/

variable {order : Order}

@[simp] theorem single?_rearranged (ty : Ty) : (ty.rearranged order).single? = ty.single? := by
  cases ty with
  | path origin segments args =>
    match segments with
    | [] | [_] | _ :: _ :: _ => rfl
  | _ => rfl

@[simp] theorem name_rearranged (ty : Ty) : (ty.rearranged order).name = ty.name := by
  cases ty <;> rfl

theorem implArgs_rearranged (impl : ImplInfo) (known : List String) (selfTy : SemTy) :
    implArgs (impl.rearranged order) known selfTy = implArgs impl known selfTy := by
  obtain ⟨id, span, generics, implTy, traitRef, fns⟩ := impl
  cases implTy with
  | path origin segments args =>
    simp only [implArgs, ImplInfo.rearranged, Ty.rearranged, Ty.rearrangedAll_eq, zip_map_left,
      filterMap_map]
    congr 1
    funext pair
    simp only [Function.comp_apply, Prod.map_fst, Prod.map_snd, id_eq, single?_rearranged]
  | _ => rfl

theorem Method.result_rearranged (method : Method) (selfTy : SemTy) :
    (method.rearranged order).result selfTy = (method.result selfTy).rearranged order := by
  obtain ⟨impl, id, name, generics, ret⟩ := method
  cases ret with
  | none => rfl
  | some ret =>
    simp only [Method.result, Method.rearranged, FnInfo.rearranged, Option.map_some,
      implArgs_rearranged, ResultTy.rearranged]
    rfl

theorem traitName_rearranged (impl : ImplInfo) :
    (impl.rearranged order).traitName = impl.traitName := by
  cases ref : impl.traitRef with
  | none => simp [ImplInfo.traitName, ImplInfo.rearranged, ref]
  | some ty => simp [ImplInfo.traitName, ImplInfo.rearranged, ref]

namespace MethodTable.SameEntries

open MethodTable

variable {table table' : MethodTable} (same : SameEntries order table table')

include same

theorem resultType_eq (result : ResultTy) :
    table'.resultType (result.rearranged order) = table.resultType result := by
  cases result with
  | known ty => rfl
  | written ty env => exact same.names.lower_rearranged env ty

theorem inherentMethod?_eq (ty : SemTy) (name : String) : table'.inherentMethod? ty name =
    (table.inherentMethod? ty name).map (Callee.rearranged order) := by
  unfold inherentMethod?
  split
  · rw [same.inherent, Option.map_map, Option.map_map]
    congr 1
    funext method
    simp only [Function.comp_apply, Callee.rearranged, Method.result_rearranged]
  · rfl

omit same in
theorem builtinMethod?_rearranged (ty : SemTy) (name : String) :
    (builtinMethod? ty name).map (Callee.rearranged order) = builtinMethod? ty name := by
  unfold builtinMethod?
  split
  · split
    · rfl
    · split
      · rw [Option.map_map]
        rfl
      · rfl
  · split
    · rw [Option.map_map]
      rfl
    · rfl

omit same in
theorem cloneMethod?_rearranged (ty : SemTy) (name : String) :
    (cloneMethod? ty name).map (Callee.rearranged order) = cloneMethod? ty name := by
  unfold cloneMethod?
  split <;> rfl

theorem traitMethod?_eq (ty : SemTy) (name : String) : table'.traitMethod? ty name =
    (table.traitMethod? ty name).map (Callee.rearranged order) := by
  unfold traitMethod?
  cases methodKey? ty with
  | none => rfl
  | some key =>
    simp only [Option.bind_eq_bind, Option.bind_some, same.traitMethods]
    cases table.traitMethods.lookup (key, name) with
    | none => rfl
    | some method =>
      simp only [Option.map_some, Option.bind_some, Option.pure_def, Callee.rearranged,
        Method.result_rearranged]
      rw [show (method.rearranged order).impl.traitName = method.impl.traitName from
        traitName_rearranged method.impl]

theorem methodOn?_eq (ty : SemTy) (name : String) : table'.methodOn? ty name =
    (table.methodOn? ty name).map (Callee.rearranged order) := by
  have either (first second : Option Callee) :
      (first.orElse fun _ => second).map (Callee.rearranged order) =
        (first.map (Callee.rearranged order)).orElse fun _ =>
          second.map (Callee.rearranged order) := by
    cases first <;> rfl
  simp only [methodOn?, either, same.inherentMethod?_eq, same.traitMethod?_eq,
    builtinMethod?_rearranged, cloneMethod?_rearranged]

/-- The same method is found. -/
theorem findMethod?_eq (receiver : SemTy) (name : String) : table'.findMethod? receiver name =
    (table.findMethod? receiver name).map (Callee.rearranged order) := by
  simp only [findMethod?, same.methodOn?_eq, map_findSome?]
  rfl

/-- The same associated function is found. -/
theorem findAssociated?_eq (owner : SemTy) (name : String) (args : List SemTy) :
    table'.findAssociated? owner name args =
      (table.findAssociated? owner name args).map (Callee.rearranged order) := by
  unfold findAssociated?
  split
  · rw [same.inherentMethod?_eq]
    cases table.inherentMethod? owner name with
    | some method => rfl
    | none =>
      simp only [Option.map_none, Option.orElse_none, Option.map_map]
      rfl
  · rfl

theorem structField?_eq (ty : SemTy) (name : String) : table'.structField? ty name =
    (table.structField? ty name).map (ResultTy.rearranged order) := by
  unfold structField?
  rw [same.names.structs]
  cases table.decls.structs.lookup (ty.path.getLastD "") with
  | none => rfl
  | some info =>
    have fields : (info.rearranged order).fields.find? (fun field => field.1 == name) =
        (info.fields.find? fun field => field.1 == name).map
          fun field => (field.1, field.2.rearranged order) := by
      simp only [StructInfo.rearranged, find?_map]
      rfl
    simp only [Option.map_some, Option.bind_eq_bind, Option.bind_some, fields]
    cases info.fields.find? fun field => field.1 == name <;> rfl

/-- The same field is found. -/
theorem fieldResult?_eq (ty : SemTy) (name : String) : table'.fieldResult? ty name =
    (table.fieldResult? ty name).map (Option.map (ResultTy.rearranged order)) := by
  unfold fieldResult?
  split
  · cases tupleIndex? name with
    | error fault => rfl
    | ok index? =>
      cases index? with
      | none => rfl
      | some index =>
        cases found : ty.args[index]? <;>
          simp [bind, Except.bind, pure, Except.pure, Except.map, found, ResultTy.rearranged]
  · split
    · rw [same.structField?_eq]
      rfl
    · rfl
  · rfl

end MethodTable.SameEntries

namespace MethodTable

/-- What a call comes to: the path of what is called and the type. -/
def answer (table : MethodTable) (callee : Callee) : Path × SemTy :=
  (callee.path, table.resultType callee.result)

/-- Tables that answer alike: paths, types, methods, associated functions and fields. -/
structure SameAnswers (table table' : MethodTable) : Prop where
  imports : ∀ segments, table'.decls.followImports segments = table.decls.followImports segments
  types : ∀ segments args depth,
    table'.decls.namedType segments args depth = table.decls.namedType segments args depth
  methods : ∀ receiver name, (table'.findMethod? receiver name).map table'.answer =
    (table.findMethod? receiver name).map table.answer
  associated : ∀ owner name args, (table'.findAssociated? owner name args).map table'.answer =
    (table.findAssociated? owner name args).map table.answer
  fields : ∀ ty name, (table'.fieldResult? ty name).map (Option.map table'.resultType) =
    (table.fieldResult? ty name).map (Option.map table.resultType)

theorem except_map_map {ε α β γ : Type} (found : Except ε (Option α)) (first : α → β)
    (second : β → γ) : (found.map (Option.map first)).map (Option.map second) =
      found.map (Option.map (second ∘ first)) := by
  cases found with
  | error fault => rfl
  | ok value? => exact congrArg Except.ok (Option.map_map ..)

theorem SameEntries.sameAnswers {table table' : MethodTable}
    (same : SameEntries order table table') : SameAnswers table table' := by
  have results : table'.resultType ∘ ResultTy.rearranged order = table.resultType :=
    funext same.resultType_eq
  have answers : table'.answer ∘ Callee.rearranged order = table.answer := by
    funext callee
    rw [Function.comp_apply, answer, answer, Callee.rearranged, same.resultType_eq]
  refine ⟨?_, ?_, fun receiver name => ?_, fun owner name args => ?_, fun ty name => ?_⟩
  · exact same.names.followImports_eq
  · exact same.names.namedType_eq
  · rw [same.findMethod?_eq, Option.map_map, answers]
  · rw [same.findAssociated?_eq, Option.map_map, answers]
  · have found := congrArg (Except.map (Option.map table'.resultType)) (same.fieldResult?_eq ty name)
    rw [except_map_map, results] at found
    exact found

end MethodTable

end DrainLint.Typing
