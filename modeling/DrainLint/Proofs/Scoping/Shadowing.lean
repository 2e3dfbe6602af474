import DrainLint.Proofs.Scoping.Places

/-! # Shadowing

What a pattern does to the names in its scope.

- `Pat.Within`: the patterns within a pattern, at any nesting;
- `Pat.mem_binders_iff`: a pattern binds what the identifier patterns within it bind;
- `Node.Scopes`: the patterns of a construct, each with the code in its scope;
- `letThenUse?`: a function that binds a pattern and then uses a name;
- `scope_of_pattern`: a name in the scope of a pattern leads to what stood before the pattern only
  if no identifier pattern of that name stands in it.
-/

namespace DrainLint.Hir

/-! ## Identifier patterns -/

/-- The patterns within a pattern, itself included. -/
inductive Pat.Within (inner : Pat) : Pat → Prop
  | self : Within inner inner
  | binding {origin : Origin} {name : String} {isMut byRef : Bool} {sub : Pat}
      (within : Within inner sub) : Within inner (.binding origin name isMut byRef (some sub))
  | ref {origin : Origin} {isMut : Bool} {sub : Pat} (within : Within inner sub) :
      Within inner (.ref origin isMut sub)
  | tuple {origin : Origin} {elems : List Pat} {elem : Pat} (listed : elem ∈ elems)
      (within : Within inner elem) : Within inner (.tuple origin elems)
  | slice {origin : Origin} {elems : List Pat} {elem : Pat} (listed : elem ∈ elems)
      (within : Within inner elem) : Within inner (.slice origin elems)
  | tupleStruct {origin : Origin} {path : Path} {elems : List Pat} {elem : Pat}
      (listed : elem ∈ elems) (within : Within inner elem) :
      Within inner (.tupleStruct origin path elems)
  | or {origin : Origin} {alts : List Pat} {alt : Pat} (listed : alt ∈ alts)
      (within : Within inner alt) : Within inner (.or origin alts)

theorem Pat.mem_binders_of_within {entry : String × Nat} {inner pat : Pat}
    (within : Within inner pat) (binds : (Node.pat inner).binds? = some entry) :
    entry ∈ pat.binders := by
  induction within with
  | self =>
    cases inner with
    | binding origin name isMut byRef sub =>
      cases binds
      cases sub <;> simp [Pat.binders]
    | _ => cases binds
  | binding _ inductionHypothesis =>
    exact List.mem_append_left _ inductionHypothesis
  | ref _ inductionHypothesis => exact inductionHypothesis
  | tuple listed _ inductionHypothesis | slice listed _ inductionHypothesis
  | tupleStruct listed _ inductionHypothesis | or listed _ inductionHypothesis =>
    exact Node.mem_bindersAll_iff.mpr ⟨_, listed, inductionHypothesis⟩

theorem Pat.exists_within_of_mem {entry : String × Nat} {pat : Pat} (member : entry ∈ pat.binders) :
    ∃ inner, Within inner pat ∧ (Node.pat inner).binds? = some entry := by
  cases pat with
  | binding origin name isMut byRef sub =>
    have own : entry = (name, origin.id) →
        ∃ inner, Within inner (.binding origin name isMut byRef sub) ∧
          (Node.pat inner).binds? = some entry :=
      fun isOwn => ⟨_, .self, congrArg some isOwn.symm⟩
    cases sub with
    | none => exact own (List.mem_singleton.mp member)
    | some sub =>
      rw [Pat.binders, List.mem_append, List.mem_singleton] at member
      rcases member with below | isOwn
      · obtain ⟨inner, within, binds⟩ := exists_within_of_mem below
        exact ⟨inner, .binding within, binds⟩
      · exact own isOwn
  | ref origin isMut sub =>
    rw [Pat.binders] at member
    obtain ⟨inner, within, binds⟩ := exists_within_of_mem member
    exact ⟨inner, .ref within, binds⟩
  | tuple origin elems =>
    obtain ⟨elem, listed, below⟩ := Node.mem_bindersAll_iff.mp member
    obtain ⟨inner, within, binds⟩ := exists_within_of_mem below
    exact ⟨inner, .tuple listed within, binds⟩
  | slice origin elems =>
    obtain ⟨elem, listed, below⟩ := Node.mem_bindersAll_iff.mp member
    obtain ⟨inner, within, binds⟩ := exists_within_of_mem below
    exact ⟨inner, .slice listed within, binds⟩
  | tupleStruct origin path elems =>
    obtain ⟨elem, listed, below⟩ := Node.mem_bindersAll_iff.mp member
    obtain ⟨inner, within, binds⟩ := exists_within_of_mem below
    exact ⟨inner, .tupleStruct listed within, binds⟩
  | or origin alts =>
    obtain ⟨alt, listed, below⟩ := Node.mem_bindersAll_iff.mp member
    obtain ⟨inner, within, binds⟩ := exists_within_of_mem below
    exact ⟨inner, .or listed within, binds⟩
  | wild | rest | struct | path | lit => cases member

/-- A pattern binds what the identifier patterns within it bind, and nothing else. -/
theorem Pat.mem_binders_iff {entry : String × Nat} {pat : Pat} :
    entry ∈ pat.binders ↔ ∃ inner, Within inner pat ∧ (Node.pat inner).binds? = some entry :=
  ⟨exists_within_of_mem, fun ⟨_, within, binds⟩ => mem_binders_of_within within binds⟩

/-! ## Scopes -/

theorem Pat.bindersAll_append (first second : List Pat) :
    Pat.bindersAll (first ++ second) = Pat.bindersAll second ++ Pat.bindersAll first := by
  induction first with
  | nil => simp [Pat.bindersAll]
  | cons pat first inductionHypothesis => simp [Pat.bindersAll, inductionHypothesis]

theorem Stmt.bindersAll_append (first second : List Stmt) :
    Stmt.bindersAll (first ++ second) = Stmt.bindersAll second ++ Stmt.bindersAll first := by
  induction first with
  | nil => simp [Stmt.bindersAll]
  | cons stmt first inductionHypothesis => simp [Stmt.bindersAll, inductionHypothesis]

theorem Stmt.parts_append (visible : Visible) (first second : List Stmt) :
    Stmt.parts visible (first ++ second) =
      Stmt.parts visible first ++ Stmt.parts (Stmt.bindersAll first ++ visible) second := by
  induction first generalizing visible with
  | nil => rfl
  | cons stmt first inductionHypothesis =>
    simp [Stmt.parts, Stmt.bindersAll, inductionHypothesis]

/-- A pattern of a construct with some code in its scope.  `before` is what is visible where the
pattern stands, `later` what is bound between the pattern and the code. -/
inductive Node.Scopes (visible : Visible) : Node → Pat → Visible → Visible → Node → Prop
  | laterStmt {origin letOrigin : Origin} {earlier between rest : List Stmt} {pat : Pat}
      {ty : Option Ty} {init : Option Expr} {els : Option Block} {stmt : Stmt} {tail : Option Expr}
      {isUnsafe : Bool} :
      Scopes visible (.expr (.block (.mk origin
          (earlier ++ .letStmt letOrigin pat ty init els :: (between ++ stmt :: rest)) tail
            isUnsafe)))
        pat (Stmt.bindersAll earlier ++ visible) (Stmt.bindersAll between) (.stmt stmt)
  | tail {origin letOrigin : Origin} {earlier rest : List Stmt} {pat : Pat} {ty : Option Ty}
      {init : Option Expr} {els : Option Block} {value : Expr} {isUnsafe : Bool} :
      Scopes visible (.expr (.block (.mk origin
          (earlier ++ .letStmt letOrigin pat ty init els :: rest) (some value) isUnsafe)))
        pat (Stmt.bindersAll earlier ++ visible) (Stmt.bindersAll rest) (.expr value)
  | ifLet {origin condOrigin : Origin} {pat : Pat} {init : Expr} {onTrue : Block}
      {onFalse : Option Expr} :
      Scopes visible (.expr (.ite origin (.letCond condOrigin pat init) onTrue onFalse)) pat visible
        [] (.expr (.block onTrue))
  | whileLet {origin condOrigin : Origin} {pat : Pat} {init : Expr} {body : Block} {header : Span}
      {label : Option String} :
      Scopes visible (.expr (.whileLoop origin (.letCond condOrigin pat init) body header label)) pat
        visible [] (.expr (.block body))
  | forLoop {origin : Origin} {pat : Pat} {iter : Expr} {body : Block} {label : Option String} :
      Scopes visible (.expr (.forLoop origin pat iter body label)) pat visible []
        (.expr (.block body))
  | guard {origin : Origin} {pat : Pat} {guard body : Expr} :
      Scopes visible (.arm (.mk origin pat (some guard) body)) pat visible [] (.expr guard)
  | arm {origin : Origin} {pat : Pat} {guard : Option Expr} {body : Expr} :
      Scopes visible (.arm (.mk origin pat guard body)) pat visible [] (.expr body)
  | closure {origin paramOrigin : Origin} {earlier rest : List Param} {pat : Pat} {ty : Option Ty}
      {body : Expr} {ret : Option Ty} {isMove : Bool} :
      Scopes visible (.expr (.closure origin (earlier ++ .mk paramOrigin pat ty :: rest) body ret
          isMove))
        pat (Param.bindersAll earlier ++ visible) (Param.bindersAll rest) (.expr body)
  | fnDef {origin paramOrigin : Origin} {name : String} {generics : List String}
      {earlier rest : List Param} {pat : Pat} {ty ret : Option Ty} {body : Block}
      {attrs : List Attribute} :
      Scopes visible (.item (.fnDef origin name generics (earlier ++ .mk paramOrigin pat ty :: rest)
          ret (some body) attrs))
        pat (Param.bindersAll earlier) (Param.bindersAll rest) (.expr (.block body))

/-- What code in the scope of a pattern sees. -/
theorem Node.Scopes.isPart {visible before later : Visible} {parent child : Node} {pat : Pat}
    (scopes : Scopes visible parent pat before later child) :
    (later ++ (pat.binders ++ before), child) ∈ parent.parts visible := by
  cases scopes with
  | laterStmt => simp [parts, Stmt.parts_append, Stmt.parts, Stmt.binders]
  | tail => simp [parts, Stmt.bindersAll_append, Stmt.bindersAll, Stmt.binders]
  | ifLet | whileLet => simp [parts, Expr.binders]
  | forLoop | guard | arm => simp [parts]
  | closure | fnDef =>
    simp [parts, Param.bindersAll, Pat.bindersAll_append, Pat.bindersAll, Param.pat]

end DrainLint.Hir

namespace DrainLint.Typing

open Hir

/-! ## A pattern and a use -/

/-- The parameters of a function that binds a pattern and then uses a name, with the pattern and the
name. -/
def letThenUse? : Item → Option (List Param × Pat × Origin × String)
  | .fnDef _ _ _ params _
      (some (.mk _ [.letStmt _ pat _ _ _, .expr _ (.path origin [name] _) _] _ _)) _ =>
    some (params, pat, origin, name)
  | _ => none

theorem scopes_of_letThenUse? {crate : Crate} {item : Item} {params : List Param} {pat : Pat}
    {origin : Origin} {name : String} (listed : item ∈ crate.items)
    (uses : letThenUse? item = some (params, pat, origin, name)) :
    ∃ parent child genericArgs, Node.Sees (.crate crate) [] (Param.bindersAll params) parent ∧
      Node.Scopes (Param.bindersAll params) parent pat (Param.bindersAll params) [] child ∧
      Node.expr (.path origin [name] genericArgs) ∈ child.walk := by
  have used : ∀ origin value semi, Node.expr value ∈ (Node.stmt (.expr origin value semi)).walk :=
    fun _ _ _ => Node.mem_walk_of_child (by simp [Node.children_eq, Node.fields])
      (Node.mem_walk_self _)
  unfold letThenUse? at uses
  split at uses
  · cases uses
    exact ⟨_, _, _, Node.sees_body listed,
      @Node.Scopes.laterStmt (Param.bindersAll params) _ _ [] [] [] _ _ _ _ _ _ _, used _ _ _⟩
  · cases uses

/-! ## Where a name in scope leads -/

section

variable {crate : Crate} {visible before later : Visible} {parent child : Node} {pat : Pat}

theorem lookup_append_binders {name : String} {binding : Nat}
    (seen : (later ++ (pat.binders ++ before)).lookup name = some binding) :
    later.lookup name = some binding ∨
      (∃ inner, Pat.Within inner pat ∧ (Node.pat inner).binds? = some (name, binding)) ∨
      (∀ inner id, Pat.Within inner pat → (Node.pat inner).binds? ≠ some (name, id)) ∧
        before.lookup name = some binding := by
  rw [List.lookup_append, Option.or_eq_some_iff] at seen
  rcases seen with isLater | ⟨_, seen⟩
  · exact .inl isLater
  rw [List.lookup_append, Option.or_eq_some_iff] at seen
  rcases seen with own | ⟨unbound, isBefore⟩
  · exact .inr (.inl (Pat.mem_binders_iff.mp (mem_of_lookup own)))
  · refine .inr (.inr ⟨fun inner id within binds => ?_, isBefore⟩)
    have := List.lookup_eq_none_iff.mp unbound _ (Pat.mem_binders_iff.mpr ⟨inner, within, binds⟩)
    simp at this

/-- Where a name in the scope of a pattern leads: to a variable bound in the scope, to one that an
identifier pattern within the pattern binds, at any nesting, or to one that was visible before, and
that only if no identifier pattern within the pattern has the name. -/
theorem scope_of_pattern {source : SourceFile} {origin : Origin} {name : String}
    {genericArgs : List Ty} {binding : Nat} (parsed : source.parse = .ok crate)
    (sees : Node.Sees (.crate crate) [] visible parent)
    (scopes : Node.Scopes visible parent pat before later child)
    (inScope : Node.expr (.path origin [name] genericArgs) ∈ child.walk)
    (resolves : (inferCrate crate).tables.resolver.binding origin.id = some binding) :
    (Node.BindsBelow child (name, binding) ∨ later.lookup name = some binding) ∨
      (∃ inner, Pat.Within inner pat ∧ (Node.pat inner).binds? = some (name, binding)) ∨
      (∀ inner id, Pat.Within inner pat → (Node.pat inner).binds? ≠ some (name, id)) ∧
        before.lookup name = some binding := by
  have distinct := SourceFile.parse_distinct parsed
  have source := binding_source distinct (sees.part scopes.isPart) inScope resolves
  rcases source.bound_or_seen with below | seen
  · exact .inl (.inl below)
  · rcases lookup_append_binders seen with isLater | source
    · exact .inl (.inr isLater)
    · exact .inr source

end

/-- The second `v` of the file leads to the one that its `let` binds. -/
theorem scope_of_pattern_shadowFile : ∃ crate visible before later parent child pat origin name
    genericArgs binding, shadowFile.parse = .ok crate ∧
      Node.Sees (.crate crate) [] visible parent ∧
      Node.Scopes visible parent pat before later child ∧
      Node.expr (.path origin [name] genericArgs) ∈ child.walk ∧
      (inferCrate crate).tables.resolver.binding origin.id = some binding ∧
      ((Node.BindsBelow child (name, binding) ∨ later.lookup name = some binding) ∨
        (∃ inner, Pat.Within inner pat ∧ (Node.pat inner).binds? = some (name, binding)) ∨
        (∀ inner id, Pat.Within inner pat → (Node.pat inner).binds? ≠ some (name, id)) ∧
          before.lookup name = some binding) := by
  have evaluated : shadowFile.crateNoted?.any (fun crate => crate.items.any fun item =>
      (letThenUse? item).any fun (_, _, origin, _) =>
        ((inferCrate crate).tables.resolver.binding origin.id).isSome) = true := by
    decide +kernel
  obtain ⟨crate, parsed, checked⟩ := SourceFile.parse_of_noted evaluated
  obtain ⟨item, listed, checked⟩ := List.any_eq_true.mp checked
  obtain ⟨⟨params, pat, origin, name⟩, uses, isBound⟩ := (Option.any_eq_true _ _).mp checked
  obtain ⟨binding, resolves⟩ := Option.isSome_iff_exists.mp isBound
  obtain ⟨parent, child, genericArgs, sees, scopes, inScope⟩ := scopes_of_letThenUse? listed uses
  exact ⟨crate, _, _, _, parent, child, pat, origin, name, genericArgs, binding, parsed, sees,
    scopes, inScope, resolves, scope_of_pattern parsed sees scopes inScope resolves⟩

/-! ## Struct patterns -/

/-- A file in which a struct pattern takes a field by its name. -/
def structFile : SourceFile := ⟨"struct.rs",
  "struct S { v: u8 } fn f(v: Vec<i32>, s: S) { let S { v } = s; v; }".toList⟩

def isStructPat (path : Path) : Pat → Bool
  | .struct _ named => named == path
  | _ => false

theorem eq_struct_of_isStructPat {path : Path} {pat : Pat} (isStruct : isStructPat path pat = true) :
    ∃ origin, pat = .struct origin path := by
  cases pat with
  | struct origin named => exact ⟨origin, congrArg _ (beq_iff_eq.mp isStruct)⟩
  | _ => cases isStruct

/-- A struct pattern does not bind the fields that it names: a use in its scope still leads to the
variable that was visible before. -/
theorem struct_pattern_binds_nothing_structFile : ∃ crate visible before later parent child
    patOrigin origin genericArgs binding, structFile.parse = .ok crate ∧
      Node.Sees (.crate crate) [] visible parent ∧
      Node.Scopes visible parent (.struct patOrigin ["S"]) before later child ∧
      structFile.slice patOrigin.span = "S { v }".toList ∧
      Node.expr (.path origin ["v"] genericArgs) ∈ child.walk ∧
      (inferCrate crate).tables.resolver.binding origin.id = some binding ∧
      before.lookup "v" = some binding ∧ binding ≠ patOrigin.id := by
  have evaluated : structFile.crateNoted?.any (fun crate => crate.items.any fun item =>
      (letThenUse? item).any fun (params, pat, origin, name) =>
        (inferCrate crate).tables.resolver.binding origin.id == (Param.bindersAll params).lookup "v" &&
          ((Param.bindersAll params).lookup "v").any (· != pat.origin.id) && name == "v" &&
          structFile.slice pat.origin.span == "S { v }".toList && isStructPat ["S"] pat) = true := by
    decide +kernel
  obtain ⟨crate, parsed, checked⟩ := SourceFile.parse_of_noted evaluated
  obtain ⟨item, listed, checked⟩ := List.any_eq_true.mp checked
  obtain ⟨⟨params, pat, origin, name⟩, uses, isBound⟩ := (Option.any_eq_true _ _).mp checked
  simp only [Bool.and_eq_true, beq_iff_eq] at isBound
  obtain ⟨⟨⟨⟨same, outside⟩, rfl⟩, text⟩, isStruct⟩ := isBound
  obtain ⟨binding, seen, other⟩ := (Option.any_eq_true _ _).mp outside
  obtain ⟨patOrigin, rfl⟩ := eq_struct_of_isStructPat isStruct
  obtain ⟨parent, child, genericArgs, sees, scopes, inScope⟩ := scopes_of_letThenUse? listed uses
  exact ⟨crate, _, _, _, parent, child, patOrigin, origin, genericArgs, binding, parsed, sees,
    scopes, text, inScope, same.trans seen, seen, bne_iff_ne.mp other⟩

end DrainLint.Typing
