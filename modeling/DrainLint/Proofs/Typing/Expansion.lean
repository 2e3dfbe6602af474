import DrainLint.Proofs.Typing.GenericArguments

/-! # The expansion of type aliases

Types are lowered with a limit on the depth of aliases inside each other.  The rules of lowering are
stated here as a relation, once with the limit and once without: a derivation with the limit is what
the lowering does step by step, and one without it says what a type stands for however deep its
aliases are nested.

- `Denotes`, `Names`: what a type denotes and what a path with arguments names, by derivations;
- `Denotes.unique`, `Names.unique`: there is no second answer;
- `mentions`, `Chain`: the paths that are looked up below a type, and aliases expanded inside each
  other;
- `denotes_lowerWith`: lowering follows the rules where the look-up of every mentioned path does;
- `names_namedType`: every look-up comes to an end, mutually recursive aliases included;
- `names_of_chainsWithin`: where chains are short enough the limit is never met;
- `lower_expands_aliases`: both for types and for paths, at every depth.
-/

namespace DrainLint.Typing

open Hir

namespace Declarations

/-! ## The rules of lowering -/

/-- Whether a path is looked up inside more expansions than a limit allows. -/
def TooDeep (limit : Option Nat) (depth : Int) : Prop :=
  ∃ most, limit = some most ∧ (most : Int) < depth

/-- A path that is neither a parameter which the environment knows nor a primitive type. -/
def Free (env : TypeEnv) (segments : Path) : Prop :=
  ∀ name, segments = [name] → env.lookup name = none ∧ Library.primitives.contains name = false

mutual

/-- What a written type denotes in an environment, so many expansions of aliases deep.  Arguments
stay at the depth of the type that they are given to. -/
inductive Denotes (decls : Declarations) (limit : Option Nat) :
    Int → TypeEnv → Ty → SemTy → Prop
  | ref {depth env origin isMut written ty} (below : Denotes decls limit depth env written ty) :
      Denotes decls limit depth env (.ref origin isMut written) (.ref ty isMut)
  | ptr {depth env origin isMut written ty} (below : Denotes decls limit depth env written ty) :
      Denotes decls limit depth env (.ptr origin isMut written) (.ptr ty isMut)
  | tuple {depth env origin elems tys} (below : DenotesAll decls limit depth env elems tys) :
      Denotes decls limit depth env (.tuple origin elems) (.tuple tys)
  | slice {depth env origin written ty} (below : Denotes decls limit depth env written ty) :
      Denotes decls limit depth env (.slice origin written none) (.slice ty)
  | array {depth env origin written length ty} (below : Denotes decls limit depth env written ty) :
      Denotes decls limit depth env (.slice origin written (some length)) (.array ty)
  | never {depth env origin} : Denotes decls limit depth env (.never origin) .never
  | fnPtr {depth env origin params ret} :
      Denotes decls limit depth env (.fnPtr origin params ret) .unknown
  | bounded {depth env origin keyword bound} :
      Denotes decls limit depth env (.bounded origin keyword bound) .unknown
  | infer {depth env origin} : Denotes decls limit depth env (.infer origin) .unknown
  | param {depth env origin name args ty} (known : env.lookup name = some ty) :
      Denotes decls limit depth env (.path origin [name] args) ty
  | primitive {depth env origin name args} (noParam : env.lookup name = none)
      (isPrimitive : Library.primitives.contains name = true) :
      Denotes decls limit depth env (.path origin [name] args) (.prim name)
  | path {depth env origin segments args tys ty} (free : Free env segments)
      (below : DenotesAll decls limit depth env args tys)
      (names : Names decls limit depth segments tys ty) :
      Denotes decls limit depth env (.path origin segments args) ty

/-- What written types denote, one by one. -/
inductive DenotesAll (decls : Declarations) (limit : Option Nat) :
    Int → TypeEnv → List Ty → List SemTy → Prop
  | nil {depth env} : DenotesAll decls limit depth env [] []
  | cons {depth env written ty rest tys} (head : Denotes decls limit depth env written ty)
      (tail : DenotesAll decls limit depth env rest tys) :
      DenotesAll decls limit depth env (written :: rest) (ty :: tys)

/-- What a path with arguments names.  An alias stands for its type, with its parameters standing for
the arguments, one expansion deeper. -/
inductive Names (decls : Declarations) (limit : Option Nat) :
    Int → Path → List SemTy → SemTy → Prop
  | givenUp {depth segments args} (deep : TooDeep limit depth) :
      Names decls limit depth segments args .unknown
  | item {depth segments args} (reached : ¬ TooDeep limit depth)
      (noAlias : decls.aliasOf? (decls.followImports segments) = none) :
      Names decls limit depth segments args (decls.resolveItem (decls.followImports segments) args)
  | untyped {depth segments args info} (reached : ¬ TooDeep limit depth)
      (isAlias : decls.aliasOf? (decls.followImports segments) = some info)
      (noType : info.ty = none) : Names decls limit depth segments args .unknown
  | expanded {depth segments args info written ty} (reached : ¬ TooDeep limit depth)
      (isAlias : decls.aliasOf? (decls.followImports segments) = some info)
      (hasType : info.ty = some written)
      (below : Denotes decls limit (depth + 1) (TypeEnv.ofArgs info.generics args) written ty) :
      Names decls limit depth segments args ty

end

variable {decls : Declarations} {limit : Option Nat} {depth : Int} {env : TypeEnv} {ty : Ty}
  {segments : Path} {args : List SemTy}

/-! ## One answer -/

mutual

/-- A written type denotes no two types. -/
theorem Denotes.unique : ∀ {depth env written ty ty'}, Denotes decls limit depth env written ty →
    Denotes decls limit depth env written ty' → ty = ty'
  | _, _, _, _, _, .ref below, second => by
    cases second with
    | ref below' => rw [below.unique below']
  | _, _, _, _, _, .ptr below, second => by
    cases second with
    | ptr below' => rw [below.unique below']
  | _, _, _, _, _, .tuple below, second => by
    cases second with
    | tuple below' => rw [below.unique below']
  | _, _, _, _, _, .slice below, second => by
    cases second with
    | slice below' => rw [below.unique below']
  | _, _, _, _, _, .array below, second => by
    cases second with
    | array below' => rw [below.unique below']
  | _, _, _, _, _, .never, second => by cases second; rfl
  | _, _, _, _, _, .fnPtr, second => by cases second; rfl
  | _, _, _, _, _, .bounded, second => by cases second; rfl
  | _, _, _, _, _, .infer, second => by cases second; rfl
  | _, _, _, _, _, .param known, second => by
    cases second with
    | param known' => exact Option.some.inj (known.symm.trans known')
    | primitive noParam => rw [known] at noParam; cases noParam
    | path free => rw [(free _ rfl).1] at known; cases known
  | _, _, _, _, _, .primitive noParam isPrimitive, second => by
    cases second with
    | param known => rw [noParam] at known; cases known
    | primitive => rfl
    | path free => rw [(free _ rfl).2] at isPrimitive; cases isPrimitive
  | _, _, _, _, _, .path free below names, second => by
    cases second with
    | param known => rw [(free _ rfl).1] at known; cases known
    | primitive _ isPrimitive => rw [(free _ rfl).2] at isPrimitive; cases isPrimitive
    | path _ below' names' =>
      obtain rfl := below.unique below'
      exact names.unique names'

theorem DenotesAll.unique : ∀ {depth env written tys tys'},
    DenotesAll decls limit depth env written tys →
      DenotesAll decls limit depth env written tys' → tys = tys'
  | _, _, _, _, _, .nil, second => by cases second; rfl
  | _, _, _, _, _, .cons head tail, second => by
    cases second with
    | cons head' tail' => rw [head.unique head', tail.unique tail']

/-- A path with arguments names no two types. -/
theorem Names.unique : ∀ {depth segments args ty ty'}, Names decls limit depth segments args ty →
    Names decls limit depth segments args ty' → ty = ty'
  | _, _, _, _, _, .givenUp deep, second => by
    cases second with
    | givenUp => rfl
    | item reached | untyped reached | expanded reached => exact absurd deep reached
  | _, _, _, _, _, .item reached noAlias, second => by
    cases second with
    | givenUp deep => exact absurd deep reached
    | item => rfl
    | untyped _ isAlias | expanded _ isAlias => rw [noAlias] at isAlias; cases isAlias
  | _, _, _, _, _, .untyped reached isAlias noType, second => by
    cases second with
    | givenUp | untyped => rfl
    | item _ noAlias => rw [isAlias] at noAlias; cases noAlias
    | expanded _ isAlias' hasType =>
      obtain rfl := Option.some.inj (isAlias.symm.trans isAlias')
      rw [noType] at hasType
      cases hasType
  | _, _, _, _, _, .expanded reached isAlias hasType below, second => by
    cases second with
    | givenUp deep => exact absurd deep reached
    | item _ noAlias => rw [isAlias] at noAlias; cases noAlias
    | untyped _ isAlias' noType =>
      obtain rfl := Option.some.inj (isAlias.symm.trans isAlias')
      rw [hasType] at noType
      cases noType
    | expanded _ isAlias' hasType' below' =>
      obtain rfl := Option.some.inj (isAlias.symm.trans isAlias')
      obtain rfl := Option.some.inj (hasType.symm.trans hasType')
      exact below.unique below'

end

end Declarations

/-! ## The paths that are looked up -/

mutual

/-- The paths that are looked up when a type is lowered, each with the number of its arguments, given
the names of parameters that are known. -/
def mentions (known : String → Bool) : Ty → List (Path × Nat)
  | .ref _ _ inner | .ptr _ _ inner | .slice _ inner _ => mentions known inner
  | .tuple _ elems => mentionsAll known elems
  | .path _ [segment] args =>
    if known segment || Library.primitives.contains segment then []
    else mentionsAll known args ++ [([segment], args.length)]
  | .path _ segments args => mentionsAll known args ++ [(segments, args.length)]
  | .never _ | .fnPtr .. | .bounded .. | .infer _ => []

def mentionsAll (known : String → Bool) : List Ty → List (Path × Nat)
  | [] => []
  | ty :: tys => mentions known ty ++ mentionsAll known tys

end

/-- Whether an environment says what a parameter stands for. -/
def TypeEnv.knows (env : TypeEnv) (name : String) : Bool := (env.lookup name).isSome

theorem isSome_lookup {α : Type} (entries : Named α) (name : String) :
    (entries.lookup name).isSome = (entries.map Prod.fst).contains name := by
  induction entries with
  | nil => rfl
  | cons entry entries inductionHypothesis =>
    rw [List.lookup_cons, List.map_cons, List.contains_cons]
    cases name == entry.1 with
    | true => rfl
    | false => simpa using inductionHypothesis

/-- The parameters that stand for something are those that arguments are left for. -/
theorem TypeEnv.knows_ofArgs (generics : List String) (args : List SemTy) :
    (TypeEnv.ofArgs generics args).knows =
      fun name => ((typeParams generics).take args.length).contains name := by
  funext name
  have names : ((typeParams generics).zip args).map Prod.fst =
      (typeParams generics).take args.length := by
    rw [List.zip_eq_zip_take_min, List.map_fst_zip (by simp), List.take_eq_take_iff]
    omega
  rw [TypeEnv.knows, isSome_lookup, TypeEnv.ofArgs, List.map_reverse, names, List.contains_reverse]

namespace Declarations

variable {decls : Declarations} {limit : Option Nat} {depth : Int} {env : TypeEnv}
  {segments : Path} {args : List SemTy}

/-! ## Lowering follows the rules -/

/-- A path is a known parameter, a primitive type, or free. -/
theorem known_or_free (env : TypeEnv) (segments : Path) :
    (∃ name ty, segments = [name] ∧ env.lookup name = some ty) ∨
      (∃ name, segments = [name] ∧ env.lookup name = none ∧
        Library.primitives.contains name = true) ∨
      Free env segments := by
  by_cases single : ∃ name, segments = [name]
  · obtain ⟨name, rfl⟩ := single
    cases known : env.lookup name with
    | some ty => exact .inl ⟨name, ty, rfl, known⟩
    | none =>
      cases primitive : Library.primitives.contains name with
      | true => exact .inr (.inl ⟨name, rfl, known, primitive⟩)
      | false =>
        refine .inr (.inr fun other same => ?_)
        cases same
        exact ⟨known, primitive⟩
  · exact .inr (.inr fun name same => absurd ⟨name, same⟩ single)

theorem lowerWith_free {resolve : Path → List SemTy → SemTy} (free : Free env segments)
    (origin : Origin) (written : List Ty) : lowerWith resolve env (.path origin segments written) =
      resolve segments (lowerAllWith resolve env written) := by
  match segments, free with
  | [], _ | _ :: _ :: _, _ => rw [lowerWith]; simp
  | [name], free =>
    obtain ⟨noParam, noPrimitive⟩ := free name rfl
    rw [lowerWith, noParam, noPrimitive]
    rfl

theorem mentions_free (free : Free env segments) (origin : Origin) (written : List Ty) :
    mentions env.knows (.path origin segments written) =
      mentionsAll env.knows written ++ [(segments, written.length)] := by
  match segments, free with
  | [], _ | _ :: _ :: _, _ => rw [mentions]; simp
  | [name], free =>
    obtain ⟨noParam, noPrimitive⟩ := free name rfl
    rw [mentions, TypeEnv.knows, noParam, noPrimitive]
    rfl

mutual

/-- Lowering follows the rules, if the look-up of the mentioned paths does. -/
theorem denotes_lowerWith {resolve : Path → List SemTy → SemTy} (ty : Ty)
    (resolved : ∀ mention ∈ mentions env.knows ty, ∀ args, args.length = mention.2 →
      Names decls limit depth mention.1 args (resolve mention.1 args)) :
    Denotes decls limit depth env ty (lowerWith resolve env ty) := by
  cases ty with
  | ref origin isMut inner =>
    rw [lowerWith]
    exact .ref (denotes_lowerWith inner resolved)
  | ptr origin isMut inner =>
    rw [lowerWith]
    exact .ptr (denotes_lowerWith inner resolved)
  | tuple origin elems =>
    rw [lowerWith]
    exact .tuple (denotesAll_lowerAllWith elems resolved)
  | slice origin inner length =>
    cases length with
    | none => rw [lowerWith]; exact .slice (denotes_lowerWith inner resolved)
    | some length => rw [lowerWith]; exact .array (denotes_lowerWith inner resolved)
  | never | fnPtr | bounded | infer => rw [lowerWith]; constructor
  | path origin segments written =>
    obtain ⟨name, ty, rfl, known⟩ | ⟨name, rfl, noParam, isPrimitive⟩ | free :=
      known_or_free env segments
    · rw [lowerWith, known]
      exact .param known
    · rw [lowerWith, noParam, isPrimitive]
      exact .primitive noParam isPrimitive
    · rw [mentions_free free] at resolved
      rw [lowerWith_free free]
      have below : DenotesAll decls limit depth env written (lowerAllWith resolve env written) :=
        denotesAll_lowerAllWith written
          fun mention member => resolved mention (List.mem_append_left _ member)
      refine .path free below (resolved (segments, written.length) (by simp) _ ?_)
      rw [lowerAllWith_eq_map, List.length_map]

theorem denotesAll_lowerAllWith {resolve : Path → List SemTy → SemTy} (tys : List Ty)
    (resolved : ∀ mention ∈ mentionsAll env.knows tys, ∀ args, args.length = mention.2 →
      Names decls limit depth mention.1 args (resolve mention.1 args)) :
    DenotesAll decls limit depth env tys (lowerAllWith resolve env tys) := by
  cases tys with
  | nil => rw [lowerAllWith]; exact .nil
  | cons ty tys =>
    rw [mentionsAll] at resolved
    rw [lowerAllWith]
    exact .cons
      (denotes_lowerWith ty fun mention member => resolved mention (List.mem_append_left _ member))
      (denotesAll_lowerAllWith tys
        fun mention member => resolved mention (List.mem_append_right _ member))

end

/-- A look-up that is not too deep follows the rules, if lowering the type of an alias does. -/
theorem names_within_succ {left : Nat} (reached : ¬ TooDeep limit depth)
    (below : ∀ info written, decls.aliasOf? (decls.followImports segments) = some info →
      info.ty = some written →
        Denotes decls limit (depth + 1) (TypeEnv.ofArgs info.generics args) written
          (lowerWith (decls.namedTypeWithin left) (TypeEnv.ofArgs info.generics args) written)) :
    Names decls limit depth segments args (decls.namedTypeWithin (left + 1) segments args) := by
  cases isAlias : decls.aliasOf? (decls.followImports segments) with
  | none =>
    simp only [namedTypeWithin, isAlias]
    exact .item reached isAlias
  | some info =>
    cases hasType : info.ty with
    | none =>
      simp only [namedTypeWithin, isAlias, hasType]
      exact .untyped reached isAlias hasType
    | some written =>
      simp only [namedTypeWithin, isAlias, hasType]
      exact .expanded reached isAlias hasType (below info written isAlias hasType)

/-! ## With the limit -/

theorem tooDeep_iff : TooDeep (some maxAliasDepth) depth ↔ expansionsLeft depth = 0 := by
  simp only [TooDeep, Option.some.injEq, exists_eq_left', expansionsLeft]
  omega

theorem expansionsLeft_succ {left : Nat} (more : expansionsLeft depth = left + 1) :
    expansionsLeft (depth + 1) = left := by
  rw [expansionsLeft] at more ⊢
  omega

/-- Every look-up comes to an end: each expansion takes it one level deeper, and past the limit it is
given up. -/
theorem names_namedType (decls : Declarations) (segments : Path) (args : List SemTy) (depth : Int) :
    Names decls (some maxAliasDepth) depth segments args (decls.namedType segments args depth) := by
  rw [namedType]
  induction left : expansionsLeft depth generalizing segments args depth with
  | zero => exact .givenUp (tooDeep_iff.mpr left)
  | succ left' inductionHypothesis =>
    have reached : ¬ TooDeep (some maxAliasDepth) depth := by
      rw [tooDeep_iff, left]
      exact Nat.succ_ne_zero left'
    refine names_within_succ reached fun info written _ _ => ?_
    exact denotes_lowerWith written fun mention _ args _ =>
      inductionHypothesis mention.1 args (depth + 1) (expansionsLeft_succ left)

theorem denotes_lower (decls : Declarations) (env : TypeEnv) (ty : Ty) (depth : Int) :
    Denotes decls (some maxAliasDepth) depth env ty (decls.lower env ty depth) :=
  denotes_lowerWith ty fun mention _ args _ => names_namedType decls mention.1 args depth

/-! ## Chains of expansions -/

/-- Aliases that are expanded inside each other when a path with so many arguments is looked up, the
outermost first.  That the path is looked up at all is the chain without expansions. -/
inductive Chain (decls : Declarations) : Path × Nat → List AliasInfo → Prop
  | none {mention} : Chain decls mention []
  | last {mention info}
      (isAlias : decls.aliasOf? (decls.followImports mention.1) = some info) :
      Chain decls mention [info]
  | nested {mention info written inner chain}
      (isAlias : decls.aliasOf? (decls.followImports mention.1) = some info)
      (hasType : info.ty = some written)
      (mentioned : inner ∈ mentions ((typeParams info.generics).take mention.2).contains written)
      (rest : Chain decls inner chain) : Chain decls mention (info :: chain)

/-- Whether no chain of expansions from a path with so many arguments is longer than a bound. -/
def ChainsWithin (decls : Declarations) (bound : Int) (mention : Path × Nat) : Prop :=
  ∀ chain, Chain decls mention chain → (chain.length : Int) ≤ bound

theorem ChainsWithin.nonneg {bound : Int} {mention : Path × Nat}
    (short : ChainsWithin decls bound mention) : 0 ≤ bound := short [] .none

/-- Inside an expansion chains are one shorter. -/
theorem ChainsWithin.inside {bound : Int} {mention inner : Path × Nat} {info : AliasInfo}
    {written : Ty} (short : ChainsWithin decls bound mention)
    (isAlias : decls.aliasOf? (decls.followImports mention.1) = some info)
    (hasType : info.ty = some written)
    (mentioned : inner ∈ mentions ((typeParams info.generics).take mention.2).contains written) :
    ChainsWithin decls (bound - 1) inner := by
  intro chain rest
  have longer := short (info :: chain) (.nested isAlias hasType mentioned rest)
  rw [List.length_cons] at longer
  omega

/-- Where chains are short enough for the expansions that are left, no path is given up. -/
theorem names_of_chainsWithin {left : Nat} {bound : Int} (room : bound < left)
    (short : ChainsWithin decls bound (segments, args.length)) :
    Names decls none depth segments args (decls.namedTypeWithin left segments args) := by
  induction left generalizing bound segments args depth with
  | zero =>
    have nonneg := short.nonneg
    omega
  | succ left inductionHypothesis =>
    have reached : ¬ TooDeep none depth := by simp [TooDeep]
    refine names_within_succ reached fun info written isAlias hasType => ?_
    refine denotes_lowerWith written ?_
    rintro ⟨path, count⟩ mentioned inner rfl
    rw [TypeEnv.knows_ofArgs] at mentioned
    exact inductionHypothesis (by omega) (short.inside isAlias hasType mentioned)

theorem names_none_of_chainsWithin (decls : Declarations) (segments : Path) (args : List SemTy)
    {depth : Int} (short : ChainsWithin decls (maxAliasDepth - depth) (segments, args.length)) :
    Names decls none 0 segments args (decls.namedType segments args depth) := by
  have room : (maxAliasDepth - depth : Int) < expansionsLeft depth := by
    rw [expansionsLeft]
    omega
  exact names_of_chainsWithin room short

theorem denotes_none_of_chainsWithin (decls : Declarations) (env : TypeEnv) (ty : Ty) {depth : Int}
    (short : ∀ mention ∈ mentions env.knows ty,
      ChainsWithin decls (maxAliasDepth - depth) mention) :
    Denotes decls none 0 env ty (decls.lower env ty depth) := by
  refine denotes_lowerWith ty ?_
  rintro ⟨path, count⟩ mentioned args rfl
  exact names_none_of_chainsWithin decls path args (short _ mentioned)

/-! ## Types and paths at every depth -/

/-- The lowering of types and the look-up of paths come to an end for every type and every path at
every depth, with the one answer that the rules with the limit give.  Where no chain of expansions is
longer than what the depth leaves of the limit, the answer is the one that the rules give without a
limit, and there is no other. -/
theorem lower_expands_aliases (decls : Declarations) :
    (∀ env ty depth sem,
      Denotes decls (some maxAliasDepth) depth env ty sem ↔ decls.lower env ty depth = sem) ∧
    (∀ segments args depth sem,
      Names decls (some maxAliasDepth) depth segments args sem ↔
        decls.namedType segments args depth = sem) ∧
    (∀ env ty (depth : Int),
      (∀ mention ∈ mentions env.knows ty, ChainsWithin decls (maxAliasDepth - depth) mention) →
        ∀ sem, Denotes decls none 0 env ty sem ↔ decls.lower env ty depth = sem) ∧
    (∀ segments args (depth : Int),
      ChainsWithin decls (maxAliasDepth - depth) (segments, args.length) →
        ∀ sem, Names decls none 0 segments args sem ↔
          decls.namedType segments args depth = sem) := by
  refine ⟨fun env ty depth sem => ?_, fun segments args depth sem => ?_,
    fun env ty depth short sem => ?_, fun segments args depth short sem => ?_⟩
  · have ends := denotes_lower decls env ty depth
    exact ⟨ends.unique, fun same => same ▸ ends⟩
  · have ends := names_namedType decls segments args depth
    exact ⟨ends.unique, fun same => same ▸ ends⟩
  · have unlimited := denotes_none_of_chainsWithin decls env ty short
    exact ⟨unlimited.unique, fun same => same ▸ unlimited⟩
  · have unlimited := names_none_of_chainsWithin decls segments args short
    exact ⟨unlimited.unique, fun same => same ▸ unlimited⟩

/-! ## Aliases of a file -/

/-- Whether no chain of expansions is longer, found by following all of them. -/
def checkChains (decls : Declarations) : Nat → Path × Nat → Bool
  | 0, mention => (decls.aliasOf? (decls.followImports mention.1)).isNone
  | bound + 1, mention =>
    match decls.aliasOf? (decls.followImports mention.1) with
    | none => true
    | some info =>
      match info.ty with
      | none => true
      | some written =>
        (mentions ((typeParams info.generics).take mention.2).contains written).all
          (decls.checkChains bound)

theorem ChainsWithin.of_check {bound : Nat} {mention : Path × Nat}
    (checked : decls.checkChains bound mention = true) : ChainsWithin decls bound mention := by
  intro chain chained
  induction chained generalizing bound with
  | none => exact Int.natCast_nonneg bound
  | last isAlias =>
    cases bound with
    | zero => simp [checkChains, isAlias] at checked
    | succ bound => simp only [List.length_singleton]; omega
  | nested isAlias hasType mentioned rest inductionHypothesis =>
    cases bound with
    | zero => simp [checkChains, isAlias] at checked
    | succ bound =>
      simp only [checkChains, isAlias, hasType, List.all_eq_true] at checked
      have shorter := inductionHypothesis (checked _ mentioned)
      rw [List.length_cons]
      omega

/-- A file with generic aliases inside each other, one of them through an import, beside aliases that
lead round in a circle. -/
def aliasesFile : SourceFile := ⟨"aliases.rs",
  ("type P = Q; type Q = P; type A<T> = &'static Vec<T>; use A as B; type C<U, V> = (B<V>, U); " ++
    "fn f(x: [C<u8, String>]) {}").toList⟩

theorem lower_expands_aliases_aliasesFile : ∃ crate item ty, aliasesFile.parse = .ok crate ∧
    item ∈ crate.items ∧ ty ∈ paramTys item ∧
    (∀ mention ∈ mentions (TypeEnv.knows []) ty,
      ChainsWithin (ofCrate crate) (maxAliasDepth - (14 : Int)) mention) ∧
    (∀ sem, Denotes (ofCrate crate) none 0 [] ty sem ↔
      SemTy.slice (.tuple [.ref (.adt Library.vec [.adt Library.string []]), .byte]) = sem) ∧
    Names (ofCrate crate) (some maxAliasDepth) 0 ["P"] [] .unknown := by
  have evaluated : aliasesFile.crateNoted?.any (fun crate =>
      decide ((ofCrate crate).namedType ["P"] [] 0 = .unknown) &&
        crate.items.any fun item => (paramTys item).any fun ty =>
          ((mentions (TypeEnv.knows []) ty).all ((ofCrate crate).checkChains 2)) &&
          decide ((ofCrate crate).lower [] ty 14 =
            .slice (.tuple [.ref (.adt Library.vec [.adt Library.string []]), .byte]))) = true := by
    decide +kernel
  obtain ⟨crate, parsed, checked⟩ := SourceFile.parse_of_noted evaluated
  simp only [Bool.and_eq_true, decide_eq_true_eq, List.any_eq_true, List.all_eq_true] at checked
  obtain ⟨circle, item, listed, ty, isParam, chains, lowered⟩ := checked
  obtain ⟨-, ends, types, -⟩ := lower_expands_aliases (ofCrate crate)
  have short : ∀ mention ∈ mentions (TypeEnv.knows []) ty,
      ChainsWithin (ofCrate crate) (maxAliasDepth - (14 : Int)) mention :=
    fun mention mentioned => .of_check (chains mention mentioned)
  refine ⟨crate, item, ty, parsed, listed, isParam, short, fun sem => ?_, ?_⟩
  · rw [types [] ty 14 short, lowered]
  · exact (ends ["P"] [] 0 .unknown).mpr circle

end Declarations
end DrainLint.Typing
