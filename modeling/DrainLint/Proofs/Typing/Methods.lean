import DrainLint.Typing.MethodTable

/-! # The look-up of methods

A method is looked for at one type after the other, and the definition path of what is found says
at which.

- `offers`, `offering?`: whether a type has a method, and the first type that does;
- `findMethod?_eq_some`: a method is found at the first type that offers it;
- `methodOn?_path`: the methods of vectors and options are found at vectors and options only;
- `inherentMethod?_eq_none`: without implementations for vectors, vectors have no other methods.
-/

namespace DrainLint.Typing

open Hir

namespace MethodTable

variable {table : MethodTable} {ty receiver : SemTy} {name : String} {callee : Callee}

/-! ## The first type that offers a method -/

/-- Whether a type has a method of its own, of the library or of a trait. -/
def offers (table : MethodTable) (name : String) (ty : SemTy) : Bool :=
  (table.inherentMethod? ty name).isSome || (builtinMethod? ty name).isSome ||
    (table.traitMethod? ty name).isSome

/-- The first type that offers a method, of those reached from a type by implicit dereferences. -/
def offering? (table : MethodTable) (receiver : SemTy) (name : String) : Option SemTy :=
  (autoderef receiver).find? (table.offers name)

/-- Apart from `clone`, a type has no method beside those that it offers. -/
theorem methodOn?_isSome (other : name ≠ "clone") :
    (table.methodOn? ty name).isSome = table.offers name ty := by
  have clones : cloneMethod? ty name = none := by simp [cloneMethod?, other]
  unfold methodOn? offers
  rw [clones]
  cases table.inherentMethod? ty name <;> cases builtinMethod? ty name <;>
    cases table.traitMethod? ty name <;> rfl

theorem findSome?_eq_some {α β : Type} {f : α → Option β} {members : List α} {found : β} :
    members.findSome? f = some found ↔
      ∃ first, members.find? (fun member => (f member).isSome) = some first ∧
        f first = some found := by
  induction members with
  | nil => simp
  | cons member members inductionHypothesis =>
    cases here : f member with
    | none => simp [here, inductionHypothesis]
    | some value => simp [here]

theorem findMethod?_eq_some (other : name ≠ "clone") :
    table.findMethod? receiver name = some callee ↔
      ∃ step, table.offering? receiver name = some step ∧
        table.methodOn? step name = some callee := by
  have same : (fun ty => (table.methodOn? ty name).isSome) = table.offers name :=
    funext fun _ => methodOn?_isSome other
  rw [findMethod?, findSome?_eq_some, offering?, same]

/-! ## Definition paths -/

/-- Where a method is defined that is looked for at a type: at the type, for all iterators or
slices, in a trait, or where `clone` is. -/
def DefinedFor (ty : SemTy) (owner : Path) : Prop :=
  ty.isAdt owner = true ∨ owner = Library.iterator ∨ owner = Library.sliceMethods ∨
    (∃ traitName, owner = ["crate", traitName]) ∨ owner = ["core", "clone", "Clone"]

theorem inherentMethod?_path (found : table.inherentMethod? ty name = some callee) :
    ty.isAdt ty.path = true ∧ callee.path = ty.path ++ [name] := by
  unfold inherentMethod? at found
  split at found
  · next kind =>
    obtain ⟨method, _, rfl⟩ := Option.map_eq_some_iff.mp found
    exact ⟨by simp [SemTy.isAdt, kind], rfl⟩
  · cases found

theorem builtinMethod?_path (found : builtinMethod? ty name = some callee) :
    ∃ owner, DefinedFor ty owner ∧ callee.path = owner ++ [name] := by
  unfold builtinMethod? at found
  split at found
  · next kind =>
    have isOwn : ty.isAdt ty.path = true := by simp [SemTy.isAdt, kind]
    split at found
    · cases found
      exact ⟨ty.path, .inl isOwn, rfl⟩
    · split at found
      · obtain ⟨returned, _, rfl⟩ := Option.map_eq_some_iff.mp found
        exact ⟨Library.iterator, .inr (.inl rfl), rfl⟩
      · cases found
  · split at found
    · obtain ⟨returned, _, rfl⟩ := Option.map_eq_some_iff.mp found
      exact ⟨Library.sliceMethods, .inr (.inr (.inl rfl)), rfl⟩
    · cases found

theorem traitMethod?_path (found : table.traitMethod? ty name = some callee) :
    ∃ traitName, callee.path = ["crate", traitName] ++ [name] := by
  unfold traitMethod? at found
  obtain ⟨key, _, found⟩ := Option.bind_eq_some_iff.mp found
  obtain ⟨method, _, found⟩ := Option.bind_eq_some_iff.mp found
  cases found
  exact ⟨_, rfl⟩

/-- The path of a method that is found at a type ends in the name of the method. -/
theorem methodOn?_path (found : table.methodOn? ty name = some callee) :
    ∃ owner, DefinedFor ty owner ∧ callee.path = owner ++ [name] := by
  simp only [methodOn?, Option.orElse_eq_or, Option.or_eq_some_iff] at found
  rcases found with ((found | ⟨_, found⟩) | ⟨_, found⟩) | ⟨_, found⟩
  · obtain ⟨isOwn, path⟩ := inherentMethod?_path found
    exact ⟨ty.path, .inl isOwn, path⟩
  · exact builtinMethod?_path found
  · obtain ⟨traitName, path⟩ := traitMethod?_path found
    exact ⟨_, .inr (.inr (.inr (.inl ⟨traitName, rfl⟩))), path⟩
  · unfold cloneMethod? at found
    split at found
    · next clones =>
      cases found
      simp only [Bool.and_eq_true, decide_eq_true_eq] at clones
      rw [clones.1]
      exact ⟨_, .inr (.inr (.inr (.inr rfl))), rfl⟩
    · cases found

/-- A method of a vector or an option is found at a vector or an option only, by its name. -/
theorem isAdt_of_path {owner : Path} {method : String}
    (isLibrary : owner = Library.vec ∨ owner = Library.option)
    (found : table.methodOn? ty name = some callee) (path : callee.path = owner ++ [method]) :
    ty.isAdt owner = true ∧ name = method := by
  obtain ⟨defined, isDefined, path'⟩ := methodOn?_path found
  -- One name is appended to either owner, so owners and names agree.
  obtain ⟨rfl, sameName⟩ := List.append_inj' (path'.symm.trans path) rfl
  cases sameName
  refine ⟨?_, rfl⟩
  rcases isDefined with isAdt | rfl | rfl | ⟨traitName, rfl⟩ | rfl
  · exact isAdt
  · exact absurd isLibrary (by decide)
  · exact absurd isLibrary (by decide)
  · simp [Library.vec, Library.option] at isLibrary
  · exact absurd isLibrary (by decide)

/-- A method of the library is found at its type; without an inherent method of its name, it
returns what the library says. -/
theorem methodOn?_of_library (table : MethodTable) {owner : Path} {returned : ReturnType}
    (isAdt : ty.isAdt owner = true)
    (known : libraryMethod? owner name = some returned) :
    ∃ callee, table.methodOn? ty name = some callee ∧ callee.path = owner ++ [name] ∧
      (table.inherentMethod? ty name = none → callee.result = .known (returned ty)) := by
  obtain ⟨kind, rfl⟩ : ty.kind = .adt ∧ ty.path = owner := by simpa [SemTy.isAdt] using isAdt
  unfold methodOn?
  -- An inherent method goes first, and its path is the one of the library all the same.
  cases own : table.inherentMethod? ty name with
  | some callee =>
    exact ⟨callee, rfl, (inherentMethod?_path own).2, fun none => by cases none⟩
  | none =>
    have builtin : builtinMethod? ty name = some ⟨ty.path ++ [name], .known (returned ty)⟩ := by
      rw [builtinMethod?, if_pos kind, known]
    exact ⟨_, by simp [builtin]; rfl, rfl, fun _ => rfl⟩

/-! ## Inherent methods -/

/-- No implementation without a trait is for a type of the library. -/
def NoInherent (decls : Declarations) (owner : Path) : Prop :=
  ∀ impl ∈ decls.impls, impl.traitRef = none →
    (decls.lower (TypeEnv.ofParams impl.generics) impl.selfTy).isAdt owner = false

theorem addImpl_decls (impl : ImplInfo) : (table.addImpl impl).decls = table.decls := by
  cases isKey : methodKey? (table.decls.lower (TypeEnv.ofParams impl.generics) impl.selfTy) with
  | none => simp only [addImpl, isKey]
  | some key => cases noTrait : impl.traitRef <;> simp only [addImpl, isKey, noTrait]

theorem addImpl_inherent {impl : ImplInfo} {entry : (Path × String) × Method}
    (member : entry ∈ (table.addImpl impl).inherent) :
    entry ∈ table.inherent ∨ impl.traitRef = none ∧
      methodKey? (table.decls.lower (TypeEnv.ofParams impl.generics) impl.selfTy) =
        some entry.1.1 := by
  cases isKey : methodKey? (table.decls.lower (TypeEnv.ofParams impl.generics) impl.selfTy) with
  | none =>
    simp only [addImpl, isKey] at member
    exact .inl member
  | some key =>
    cases noTrait : impl.traitRef with
    | some traitRef =>
      simp only [addImpl, isKey, noTrait] at member
      exact .inl member
    | none =>
      simp only [addImpl, isKey, noTrait] at member
      rcases List.mem_append.mp member with member | member
      · obtain ⟨fn, _, rfl⟩ := List.mem_map.mp (List.mem_reverse.mp member)
        exact .inr ⟨rfl, rfl⟩
      · exact .inl member

theorem isAdt_of_methodKey {key : Path} (isLibrary : key = Library.vec ∨ key = Library.option)
    (isKey : methodKey? ty = some key) : ty.isAdt key = true := by
  unfold methodKey? at isKey
  cases kind : ty.kind with
  | adt =>
    rw [kind] at isKey
    cases isKey
    simp [SemTy.isAdt, kind]
  -- These have keys of one segment, which no definition of the library has.
  | prim | slice | array =>
    rw [kind] at isKey
    cases isKey
    simp [Library.vec, Library.option] at isLibrary
  | _ =>
    rw [kind] at isKey
    cases isKey

/-- The inherent methods of the table are those of implementations without a trait. -/
theorem foldl_addImpl_inherent (impls : List ImplInfo) {entry : (Path × String) × Method}
    (member : entry ∈ (impls.foldl addImpl table).inherent) :
    entry ∈ table.inherent ∨ ∃ impl ∈ impls, impl.traitRef = none ∧
      methodKey? (table.decls.lower (TypeEnv.ofParams impl.generics) impl.selfTy) =
        some entry.1.1 := by
  -- The declarations of the table stay, so keys are made from them at every step.
  induction impls generalizing table with
  | nil => exact .inl member
  | cons impl impls inductionHypothesis =>
    rcases inductionHypothesis member with member | ⟨other, listed, noTrait, isKey⟩
    · rcases addImpl_inherent member with member | ⟨noTrait, isKey⟩
      · exact .inl member
      · exact .inr ⟨impl, List.mem_cons_self, noTrait, isKey⟩
    · rw [addImpl_decls] at isKey
      exact .inr ⟨other, List.mem_cons_of_mem _ listed, noTrait, isKey⟩

theorem inherentMethod?_eq_none {decls : Declarations} (foreign : NoInherent decls Library.vec)
    (isVec : ty.isAdt Library.vec = true) : (ofDeclarations decls).inherentMethod? ty name = none := by
  obtain ⟨kind, path⟩ : ty.kind = .adt ∧ ty.path = Library.vec := by simpa [SemTy.isAdt] using isVec
  rw [inherentMethod?, if_pos kind, Option.map_eq_none_iff, List.lookup_eq_none_iff]
  intro entry member
  rcases foldl_addImpl_inherent _ member with member | ⟨impl, listed, noTrait, isKey⟩
  · cases member
  · have notVec := foreign impl (List.mem_reverse.mp listed) noTrait
    have otherKey : entry.1.1 ≠ Library.vec := by
      intro same
      have isVec := isAdt_of_methodKey (.inl same) isKey
      rw [same] at isVec
      rw [isVec] at notVec
      cases notVec
    simp [path, Ne.symm otherKey, Prod.ext_iff]

end MethodTable
end DrainLint.Typing
