import DrainLint.Keyed
import DrainLint.Proofs.Declarations.Collection
import DrainLint.Proofs.Grammar.PlacedItems
import DrainLint.Proofs.Peg.Noted
import DrainLint.Typing.Lowering

/-! # Imports

An import stands for the path that it imports: a path that begins with its name leads where the path
leads that it names, as long as the chain of imports behind it is not longer than what is followed.

- `followSteps_succ`: imports are followed one step at a time;
- `ComesToRest`: a path from which imports are followed no more than so many times;
- `followImports_import_iff`: when a path leads where the one behind its import leads;
- `lookup_uses`: the import of a name is the only one of that name;
- `namedType_import`: the type named through an import is the type named by the full path;
- `namedType_import_chainFile`: a chain of imports that is too long;
- `namedType_importSelf`: an import of `self` keeps it, and names no library type.
-/

namespace DrainLint.Typing

open Hir

namespace Declarations

variable {decls : Declarations} {steps : Nat} {name : String} {segments target rest : Path}

/-! ## One step after the other -/

theorem dropRoots_dropRoots (segments : Path) : dropRoots (dropRoots segments) = dropRoots segments := by
  fun_induction dropRoots segments with
  | case1 first second rest isRoot inductionHypothesis => exact inductionHypothesis
  | case2 first second rest noRoot => exact if_neg noRoot
  | case3 segments short =>
    unfold dropRoots
    split
    · exact (short _ _ _ rfl).elim
    · rfl

theorem followSteps_nil (steps : Nat) : decls.followSteps steps [] = [] := by
  cases steps <;> rfl

theorem followSteps_of_nil (dropped : dropRoots segments = []) :
    decls.followSteps (steps + 1) segments = [] := by
  simp [followSteps, dropped]

/-- Nothing is followed from a first segment that is no import, or is imported under its own
name. -/
theorem followSteps_of_own {first : String} (dropped : dropRoots segments = first :: rest)
    (own : ∀ target, decls.uses.lookup first = some target → target = [first]) :
    decls.followSteps (steps + 1) segments = first :: rest := by
  cases found : decls.uses.lookup first with
  | none => simp [followSteps, dropped, found]
  | some target => simp [followSteps, dropped, found, own target found]

theorem followSteps_of_import {first : String} (dropped : dropRoots segments = first :: rest)
    (found : decls.uses.lookup first = some target) (other : target ≠ [first]) :
    decls.followSteps (steps + 1) segments = decls.followSteps steps (target ++ rest) := by
  simp [followSteps, dropped, found, other]

/-- Imports are followed one step at a time. -/
theorem followSteps_succ (decls : Declarations) (steps : Nat) (segments : Path) :
    decls.followSteps (steps + 1) segments = decls.followSteps steps (decls.followSteps 1 segments) := by
  have once := dropRoots_dropRoots segments
  cases dropped : dropRoots segments with
  | nil => rw [followSteps_of_nil dropped, followSteps_of_nil dropped, followSteps_nil]
  | cons first rest =>
    rw [dropped] at once
    by_cases own : ∀ target, decls.uses.lookup first = some target → target = [first]
    · rw [followSteps_of_own dropped own, followSteps_of_own dropped own]
      cases steps with
      | zero => rfl
      | succ steps => exact (followSteps_of_own once own).symm
    · obtain ⟨target, found, other⟩ := by simpa using own
      rw [followSteps_of_import dropped found other, followSteps_of_import dropped found other]
      rfl

/-! ## Paths that come to rest -/

/-- A path from which imports lead on no more than so many times, and then to a path that stays as
it is when imports are followed. -/
inductive ComesToRest (decls : Declarations) : Nat → Path → Prop
  | rests {steps : Nat} {segments : Path} (still : decls.followSteps 1 segments = segments) :
      ComesToRest decls steps segments
  | leadsOn {steps : Nat} {segments : Path}
      (next : ComesToRest decls steps (decls.followSteps 1 segments)) :
      ComesToRest decls (steps + 1) segments

theorem followSteps_still (still : decls.followSteps 1 segments = segments) (steps : Nat) :
    decls.followSteps steps segments = segments := by
  induction steps with
  | zero => rfl
  | succ steps inductionHypothesis => rw [followSteps_succ, still, inductionHypothesis]

theorem comesToRest_iff : decls.ComesToRest steps segments ↔
    decls.followSteps (steps + 1) segments = decls.followSteps steps segments := by
  constructor
  · intro rests
    induction rests with
    | rests still => rw [followSteps_still still, followSteps_still still]
    | leadsOn next inductionHypothesis =>
      rw [followSteps_succ, inductionHypothesis, ← followSteps_succ]
  · intro same
    induction steps generalizing segments with
    | zero => exact .rests same
    | succ steps inductionHypothesis =>
      refine .leadsOn (inductionHypothesis ?_)
      rw [← followSteps_succ, same, followSteps_succ]

/-! ## Paths through an import -/

theorem followSteps_import (found : decls.uses.lookup name = some target)
    (notRoot : target = [name] ∨ rest = [] ∨ name ∉ pathRoots) :
    decls.followSteps 1 (name :: rest) = target ++ rest ∨ target = [name] := by
  by_cases own : target = [name]
  · exact .inr own
  · have dropped : dropRoots (name :: rest) = name :: rest := by
      cases rest with
      | nil => rfl
      | cons second rest =>
        have noRoot : name ∉ pathRoots := by simpa [own] using notRoot
        simp [dropRoots, noRoot]
    refine .inl ?_
    simp [followSteps, dropped, found, own]

/-- A path through an import leads where the path leads that the import names, exactly where that one
comes to rest with one step to spare. -/
theorem followImports_import_iff (found : decls.uses.lookup name = some target)
    (notRoot : target = [name] ∨ rest = [] ∨ name ∉ pathRoots) :
    decls.followImports (name :: rest) = decls.followImports (target ++ rest) ↔
      target = [name] ∨ decls.ComesToRest 15 (target ++ rest) := by
  rcases followSteps_import found notRoot with leads | own
  · have behind : decls.followImports (name :: rest) = decls.followSteps 15 (target ++ rest) := by
      rw [followImports, maxAliasDepth, followSteps_succ, leads]
    rw [behind, followImports, comesToRest_iff]
    constructor
    · exact fun same => .inr same.symm
    · rintro (rfl | same)
      · rw [← behind]
        rfl
      · exact same.symm
  · subst own
    simp

/-! ## The imports of a crate -/

/-- The path that the leaf of an import names: its path without a `self` at the end. -/
def importTarget (path : Path) : Path :=
  if 1 < path.length ∧ path.getLast? = some "self" then path.dropLast else path

/-- The import of a name is the only one of that name. -/
theorem lookup_uses {crate : Crate} {origin : Origin} {path : Path} {newName : Option String}
    {attrs : List Attribute} (distinct : ((ofCrate crate).uses.map Prod.fst).Nodup)
    (declared : Item.useDecl origin path newName false attrs ∈ declaredItems crate)
    (named : isNamedImport (localName path newName) false = true) :
    (ofCrate crate).uses.lookup (localName path newName) = some path := by
  refine lookup_of_mem distinct ?_
  rw [ofCrate_eq]
  exact List.mem_reverse.mpr (List.mem_filterMap.mpr ⟨_, declared, if_pos named⟩)

/-- An import leads on to its path as it is kept, with a `self` at the end of it if there is one. -/
theorem followImports_of_declared {crate : Crate} {origin : Origin} {path : Path}
    {newName : Option String} {attrs : List Attribute}
    (distinct : ((ofCrate crate).uses.map Prod.fst).Nodup)
    (declared : Item.useDecl origin path newName false attrs ∈ declaredItems crate)
    (named : isNamedImport (localName path newName) false = true)
    (notRoot : path = [localName path newName] ∨ rest = [] ∨ localName path newName ∉ pathRoots)
    (rests : (ofCrate crate).ComesToRest 15 (path ++ rest)) :
    (ofCrate crate).followImports (localName path newName :: rest) =
      (ofCrate crate).followImports (path ++ rest) :=
  (followImports_import_iff (lookup_uses distinct declared named) notRoot).mpr (.inr rests)

theorem namedType_congr {other : Path}
    (same : decls.followImports segments = decls.followImports other) (args : List SemTy)
    (depth : Int) : decls.namedType segments args depth = decls.namedType other args depth := by
  unfold namedType
  cases expansionsLeft depth with
  | zero => rfl
  | succ left => simp only [namedTypeWithin, same]

/-- A path through an import names the type that the full path names, whatever its arguments and at
every depth of aliases: where no other import has the name, the import is no `self`, its name is no
root, and following imports from the full path comes to rest within fifteen steps. -/
theorem namedType_import {crate : Crate} {origin : Origin} {path : Path} {newName : Option String}
    {attrs : List Attribute} (distinct : ((ofCrate crate).uses.map Prod.fst).Nodup)
    (declared : Item.useDecl origin path newName false attrs ∈ declaredItems crate)
    (named : isNamedImport (localName path newName) false = true)
    (noSelf : importTarget path = path)
    (notRoot : path = [localName path newName] ∨ rest = [] ∨ localName path newName ∉ pathRoots)
    (rests : (ofCrate crate).ComesToRest 15 (importTarget path ++ rest)) (args : List SemTy)
    (depth : Int) :
    (ofCrate crate).namedType (localName path newName :: rest) args depth =
      (ofCrate crate).namedType (importTarget path ++ rest) args depth := by
  rw [noSelf] at rests ⊢
  exact namedType_congr (followImports_of_declared distinct declared named notRoot rests) args depth

/-- Whether an item imports a path, under a new name if one is given. -/
def isImport (path : Path) (newName : Option String) : Item → Bool
  | .useDecl _ imported given false _ => imported == path && given == newName
  | _ => false

theorem eq_useDecl_of_isImport {path : Path} {newName : Option String} {item : Item}
    (imports : isImport path newName item = true) :
    ∃ origin attrs, item = .useDecl origin path newName false attrs := by
  unfold isImport at imports
  split at imports
  · rename_i origin imported given attrs
    obtain ⟨samePath, sameName⟩ := by simpa using imports
    exact ⟨origin, attrs, by rw [samePath, sameName]⟩
  · cases imports

/-- A file in which an import is imported. -/
def aliasFile : SourceFile := ⟨"alias.rs", "use std::vec as v; use v::Vec as Stack;".toList⟩

theorem namedType_import_aliasFile : ∃ crate origin attrs, aliasFile.parse = .ok crate ∧
    ((ofCrate crate).uses.map Prod.fst).Nodup ∧
    Item.useDecl origin ["v", "Vec"] (some "Stack") false attrs ∈ declaredItems crate ∧
    isNamedImport (localName ["v", "Vec"] (some "Stack")) false = true ∧
    importTarget ["v", "Vec"] = ["v", "Vec"] ∧
    (ofCrate crate).ComesToRest 15 (importTarget ["v", "Vec"] ++ []) ∧
    (ofCrate crate).namedType ["Stack"] [.byte] 0 = (ofCrate crate).namedType ["v", "Vec"] [.byte] 0 := by
  have evaluated : aliasFile.crateNoted?.any (fun crate =>
      decide ((ofCrate crate).uses.map Prod.fst).Nodup &&
        decide ((ofCrate crate).followSteps 16 ["v", "Vec"] =
          (ofCrate crate).followSteps 15 ["v", "Vec"]) &&
        (declaredItems crate).any (isImport ["v", "Vec"] (some "Stack"))) = true := by
    decide +kernel
  obtain ⟨crate, parsed, checked⟩ := SourceFile.parse_of_noted evaluated
  simp only [Bool.and_eq_true, decide_eq_true_eq, List.any_eq_true] at checked
  obtain ⟨⟨distinct, same⟩, item, declared, imports⟩ := checked
  obtain ⟨origin, attrs, rfl⟩ := eq_useDecl_of_isImport imports
  have rests : (ofCrate crate).ComesToRest 15 (importTarget ["v", "Vec"] ++ []) :=
    comesToRest_iff.mpr same
  exact ⟨crate, origin, attrs, parsed, distinct, declared, rfl, rfl, rests,
    namedType_import distinct declared rfl rfl (.inr (.inl rfl)) rests [.byte] 0⟩

/-- A file with a chain of imports, one longer than what is followed. -/
def chainFile : SourceFile := ⟨"chain.rs", ("use b as a; use c as b; use d as c; use e as d; " ++
  "use f as e; use g as f; use h as g; use i as h; use j as i; use k as j; use l as k; " ++
  "use m as l; use n as m; use o as n; use p as o; use q as p; use std::vec::Vec as q;").toList⟩

/-- Where the chain is too long, a path through an import no longer names the type that the full
path names. -/
theorem namedType_import_chainFile : ∃ crate origin attrs, chainFile.parse = .ok crate ∧
    ((ofCrate crate).uses.map Prod.fst).Nodup ∧
    Item.useDecl origin ["b"] (some "a") false attrs ∈ declaredItems crate ∧
    (ofCrate crate).namedType ["a"] [] = .unknown ∧
    (ofCrate crate).namedType ["b"] [] = .adt Library.vec [] := by
  have evaluated : chainFile.crateNoted?.any (fun crate =>
      decide ((ofCrate crate).uses.map Prod.fst).Nodup &&
        decide ((ofCrate crate).namedType ["a"] [] = .unknown) &&
        decide ((ofCrate crate).namedType ["b"] [] = .adt Library.vec []) &&
        (declaredItems crate).any (isImport ["b"] (some "a"))) = true := by
    decide +kernel
  obtain ⟨crate, parsed, checked⟩ := SourceFile.parse_of_noted evaluated
  simp only [Bool.and_eq_true, decide_eq_true_eq, List.any_eq_true] at checked
  obtain ⟨⟨⟨distinct, through⟩, full⟩, item, declared, imports⟩ := checked
  obtain ⟨origin, attrs, rfl⟩ := eq_useDecl_of_isImport imports
  exact ⟨crate, origin, attrs, parsed, distinct, declared, through, full⟩

/-! ## Imports of `self` -/

/-- No path of a library type has a `self` in it. -/
theorem canonicalType?_of_self (isSelf : "self" ∈ segments) : Library.canonicalType? segments = none := by
  have without : ∀ entry ∈ Library.typePaths, "self" ∉ entry.1 := by decide
  rw [Library.canonicalType?, List.lookup_eq_none_iff]
  intro entry listed
  rw [bne_iff_ne]
  rintro rfl
  exact without entry listed isSelf

/-- A path of the standard library with a `self` in it names a type of another crate. -/
theorem resolveItem_of_self {root : String} (fromLibrary : root ∈ Library.externRoots)
    (isSelf : "self" ∈ rest) (args : List SemTy) :
    decls.resolveItem (root :: rest) args = .adt ("extern" :: root :: rest) args := by
  have more : rest.isEmpty = false := by
    simpa using List.ne_nil_of_mem isSelf
  have noType := canonicalType?_of_self (List.mem_cons_of_mem root isSelf)
  simp [resolveItem, more, noType, fromLibrary]

theorem aliasOf?_of_externRoot {root second : String} (fromLibrary : root ∈ Library.externRoots) :
    decls.aliasOf? (root :: second :: rest) = none := by
  simp [aliasOf?, fromLibrary]

/-- An import of `self` from a module of the standard library keeps its `self`: what a path through it
names is a type of another crate, at a path with the `self` inside, and no library type. -/
theorem namedType_importSelf {crate : Crate} {origin : Origin} {root : String} {module : Path}
    {newName : Option String} {attrs : List Attribute}
    (distinct : ((ofCrate crate).uses.map Prod.fst).Nodup)
    (declared : Item.useDecl origin (root :: module ++ ["self"]) newName false attrs ∈
      declaredItems crate)
    (named : isNamedImport (localName (root :: module ++ ["self"]) newName) false = true)
    (notRoot : rest = [] ∨ localName (root :: module ++ ["self"]) newName ∉ pathRoots)
    (fromLibrary : root ∈ Library.externRoots)
    (unimported : (ofCrate crate).uses.lookup root = none) (args : List SemTy) {depth : Int}
    (notDeep : depth ≤ maxAliasDepth) :
    (ofCrate crate).namedType (localName (root :: module ++ ["self"]) newName :: rest) args depth =
      .adt ("extern" :: root :: (module ++ "self" :: rest)) args := by
  have whole : root :: module ++ ["self"] ++ rest = root :: (module ++ "self" :: rest) := by simp
  obtain ⟨second, behind, more⟩ : ∃ second behind, module ++ "self" :: rest = second :: behind :=
    List.exists_cons_of_ne_nil (by simp)
  have isSelf : "self" ∈ second :: behind := more ▸ by simp
  -- The path starts at a library, where nothing is dropped and no import leads on.
  have noRoot : root ∉ pathRoots := by
    have apart : ∀ root ∈ Library.externRoots, root ∉ pathRoots := by decide
    exact apart root fromLibrary
  have dropped : dropRoots (root :: second :: behind) = root :: second :: behind := by
    simp [dropRoots, noRoot]
  have still : (ofCrate crate).followSteps 1 (root :: second :: behind) = root :: second :: behind :=
    followSteps_of_own dropped (by simp [unimported])
  have leads := followImports_of_declared distinct declared named (.inr notRoot)
    (by rw [whole, more]; exact .rests still)
  rw [whole, more] at leads
  have followed : (ofCrate crate).followImports (root :: second :: behind) = root :: second :: behind :=
    followSteps_still still maxAliasDepth
  obtain ⟨left, isLeft⟩ : ∃ left, expansionsLeft depth = left + 1 :=
    Nat.exists_eq_add_one.mpr (by unfold expansionsLeft; omega)
  rw [namedType_congr leads, namedType, isLeft, namedTypeWithin, followed,
    aliasOf?_of_externRoot fromLibrary, more]
  exact resolveItem_of_self fromLibrary isSelf args

/-- A file with an import of a module by its `self`. -/
def memberFile : SourceFile := ⟨"member.rs", "use std::vec::\x7bself\x7d;".toList⟩

/-- Through such an import the type of vectors is not found. -/
theorem namedType_importSelf_memberFile : ∃ crate origin attrs, memberFile.parse = .ok crate ∧
    Item.useDecl origin ["std", "vec", "self"] none false attrs ∈ declaredItems crate ∧
    localName ["std", "vec", "self"] none = "vec" ∧
    (ofCrate crate).namedType ["vec", "Vec"] [.byte] =
      .adt ["extern", "std", "vec", "self", "Vec"] [.byte] ∧
    (ofCrate crate).namedType ["std", "vec", "Vec"] [.byte] = .adt Library.vec [.byte] := by
  have evaluated : memberFile.crateNoted?.any (fun crate =>
      decide ((ofCrate crate).uses.map Prod.fst).Nodup &&
        decide ((ofCrate crate).uses.lookup "std" = none) &&
        decide ((ofCrate crate).namedType ["std", "vec", "Vec"] [.byte] = .adt Library.vec [.byte]) &&
        (declaredItems crate).any (isImport ["std", "vec", "self"] none)) = true := by
    decide +kernel
  obtain ⟨crate, parsed, checked⟩ := SourceFile.parse_of_noted evaluated
  simp only [Bool.and_eq_true, decide_eq_true_eq, List.any_eq_true] at checked
  obtain ⟨⟨⟨distinct, unimported⟩, full⟩, item, declared, imports⟩ := checked
  obtain ⟨origin, attrs, rfl⟩ := eq_useDecl_of_isImport imports
  have through : (ofCrate crate).namedType (localName ("std" :: ["vec"] ++ ["self"]) none :: ["Vec"])
      [.byte] 0 = .adt ("extern" :: "std" :: (["vec"] ++ "self" :: ["Vec"])) [.byte] :=
    namedType_importSelf distinct declared rfl (.inr (by decide)) (by decide) unimported [.byte]
      (by decide)
  exact ⟨crate, origin, attrs, parsed, declared, rfl, through, full⟩

end Declarations
end DrainLint.Typing
