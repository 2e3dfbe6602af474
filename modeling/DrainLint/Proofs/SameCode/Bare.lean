import DrainLint.Proofs.Peg.Noted
import DrainLint.Proofs.SameCode.Equivalence
import DrainLint.Proofs.Tree.Fields
import DrainLint.Proofs.Tree.Walk

/-! # What makes code the same

Without a resolver, being the same code is being equal once everything that only tells of the place
is erased.

- `Ty.bare`, `Pat.bare`, `Expr.bare`, …: code with its origins, the spans in it and the suffixes of
  its literals erased, and of an item its number left;
- `Value.bare`: the same on the fields of a node;
- `Node.bare_eq`: bare nodes are equal where their classes, their identities and, if they have no
  identity, their bare fields are;
- `sameExpr_iff_bare`: the expressions that are the same code;
- `blanks_tell_separators_lost_macroFile`: what that means for the arguments of a macro.
-/

namespace DrainLint.Hir

/-! ## Erasing places -/

/-- The origin of code that stands nowhere. -/
def Origin.nowhere : Origin := ⟨0, .origin⟩

/-- An origin that tells its number only. -/
def Origin.unplaced (origin : Origin) : Origin := ⟨origin.id, .origin⟩

/-- An item with its number and nothing else: two declarations of one text are two definitions. -/
def Item.bare : Item → Item
  | .fnDef origin .. => .fnDef origin.unplaced "" [] [] none none []
  | .structDef origin .. => .structDef origin.unplaced "" [] [] []
  | .enumDef origin .. => .enumDef origin.unplaced "" []
  | .typeAlias origin .. => .typeAlias origin.unplaced "" [] none []
  | .constItem origin .. => .constItem origin.unplaced "" (.never .nowhere) none []
  | .useDecl origin .. => .useDecl origin.unplaced [] none false []
  | .implBlock origin .. => .implBlock origin.unplaced [] (.never .nowhere) none [] []
  | .traitDef origin .. => .traitDef origin.unplaced "" [] [] []
  | .modDef origin .. => .modDef origin.unplaced "" [] []
  | .macroItem origin .. => .macroItem origin.unplaced [] []

mutual

def Ty.bare : Ty → Ty
  | .path _ segments args => .path .nowhere segments (Ty.bareAll args)
  | .ref _ isMut inner => .ref .nowhere isMut inner.bare
  | .ptr _ isMut inner => .ptr .nowhere isMut inner.bare
  | .tuple _ elems => .tuple .nowhere (Ty.bareAll elems)
  | .slice _ inner length => .slice .nowhere inner.bare (Expr.bare? length)
  | .fnPtr _ params ret => .fnPtr .nowhere (Ty.bareAll params) (Ty.bare? ret)
  | .bounded _ keyword bound => .bounded .nowhere keyword (Ty.bare? bound)
  | .never _ => .never .nowhere
  | .infer _ => .infer .nowhere

def Ty.bareAll : List Ty → List Ty
  | [] => []
  | ty :: tys => ty.bare :: Ty.bareAll tys

def Ty.bare? : Option Ty → Option Ty
  | none => none
  | some ty => some ty.bare

def Pat.bare : Pat → Pat
  | .binding _ name isMut byRef sub => .binding .nowhere name isMut byRef (Pat.bare? sub)
  | .wild _ => .wild .nowhere
  | .rest _ => .rest .nowhere
  | .tuple _ elems => .tuple .nowhere (Pat.bareAll elems)
  | .slice _ elems => .slice .nowhere (Pat.bareAll elems)
  | .tupleStruct _ path elems => .tupleStruct .nowhere path (Pat.bareAll elems)
  | .struct _ path => .struct .nowhere path
  | .path _ path => .path .nowhere path
  | .lit _ value => .lit .nowhere value.bare
  | .ref _ isMut inner => .ref .nowhere isMut inner.bare
  | .or _ alts => .or .nowhere (Pat.bareAll alts)

def Pat.bareAll : List Pat → List Pat
  | [] => []
  | pat :: pats => pat.bare :: Pat.bareAll pats

def Pat.bare? : Option Pat → Option Pat
  | none => none
  | some pat => some pat.bare

def Expr.bare : Expr → Expr
  -- The suffix of a literal does not count: `1u8` is the same code as `1`.
  | .lit _ value _ => .lit .nowhere value ""
  | .path _ segments genericArgs => .path .nowhere segments (Ty.bareAll genericArgs)
  | .methodCall _ receiver method args _ genericArgs =>
    .methodCall .nowhere receiver.bare method (Expr.bareAll args) .origin (Ty.bareAll genericArgs)
  | .call _ func args => .call .nowhere func.bare (Expr.bareAll args)
  | .macroCall _ path args delimiter tokens =>
    .macroCall .nowhere path (Expr.bareAll args) delimiter tokens
  | .field _ base name => .field .nowhere base.bare name
  | .index _ base index => .index .nowhere base.bare index.bare
  | .unary _ op operand => .unary .nowhere op operand.bare
  | .addrOf _ isMut operand => .addrOf .nowhere isMut operand.bare
  | .binary _ op lhs rhs => .binary .nowhere op lhs.bare rhs.bare
  | .assign _ target value op => .assign .nowhere target.bare value.bare op
  | .cast _ value ty => .cast .nowhere value.bare ty.bare
  | .question _ value => .question .nowhere value.bare
  | .range _ start stop inclusive =>
    .range .nowhere (Expr.bare? start) (Expr.bare? stop) inclusive
  | .tuple _ elems => .tuple .nowhere (Expr.bareAll elems)
  | .array _ elems => .array .nowhere (Expr.bareAll elems)
  | .arrayRepeat _ elem count => .arrayRepeat .nowhere elem.bare count.bare
  | .structLit _ path inits base =>
    .structLit .nowhere path (FieldInit.bareAll inits) (Expr.bare? base)
  | .block block => .block block.bare
  | .letCond _ pat init => .letCond .nowhere pat.bare init.bare
  | .ite _ cond onTrue onFalse => .ite .nowhere cond.bare onTrue.bare (Expr.bare? onFalse)
  | .whileLoop _ cond body _ label => .whileLoop .nowhere cond.bare body.bare .origin label
  | .loop _ body label => .loop .nowhere body.bare label
  | .forLoop _ pat iter body label => .forLoop .nowhere pat.bare iter.bare body.bare label
  | .matchArms _ scrutinee arms => .matchArms .nowhere scrutinee.bare (Arm.bareAll arms)
  | .closure _ params body ret isMove =>
    .closure .nowhere (Param.bareAll params) body.bare (Ty.bare? ret) isMove
  | .breakLoop _ label value => .breakLoop .nowhere label (Expr.bare? value)
  | .continueLoop _ label => .continueLoop .nowhere label
  | .returnFn _ value => .returnFn .nowhere (Expr.bare? value)

def Expr.bareAll : List Expr → List Expr
  | [] => []
  | expr :: exprs => expr.bare :: Expr.bareAll exprs

def Expr.bare? : Option Expr → Option Expr
  | none => none
  | some expr => some expr.bare

def FieldInit.bare : FieldInit → FieldInit
  | .mk name value => .mk name value.bare

def FieldInit.bareAll : List FieldInit → List FieldInit
  | [] => []
  | init :: inits => init.bare :: FieldInit.bareAll inits

def Block.bare : Block → Block
  | .mk _ stmts tail isUnsafe => .mk .nowhere (Stmt.bareAll stmts) (Expr.bare? tail) isUnsafe

def Block.bare? : Option Block → Option Block
  | none => none
  | some block => some block.bare

def Arm.bare : Arm → Arm
  | .mk _ pat guard body => .mk .nowhere pat.bare (Expr.bare? guard) body.bare

def Arm.bareAll : List Arm → List Arm
  | [] => []
  | arm :: arms => arm.bare :: Arm.bareAll arms

def Param.bare : Param → Param
  | .mk _ pat ty => .mk .nowhere pat.bare (Ty.bare? ty)

def Param.bareAll : List Param → List Param
  | [] => []
  | param :: params => param.bare :: Param.bareAll params

def Stmt.bare : Stmt → Stmt
  | .letStmt _ pat ty init els =>
    .letStmt .nowhere pat.bare (Ty.bare? ty) (Expr.bare? init) (Block.bare? els)
  | .expr _ value semi => .expr .nowhere value.bare semi
  | .item origin _ => .item origin.unplaced (.macroItem .nowhere [] [])

def Stmt.bareAll : List Stmt → List Stmt
  | [] => []
  | stmt :: stmts => stmt.bare :: Stmt.bareAll stmts

end

def FieldDef.bare : FieldDef → FieldDef
  | .mk _ name ty => .mk .nowhere name ty.bare

def Node.bare : Node → Node
  | .ty t => .ty t.bare
  | .pat p => .pat p.bare
  | .expr e => .expr e.bare
  | .stmt s => .stmt s.bare
  | .item i => .item i.bare
  | .arm a => .arm a.bare
  | .param p => .param p.bare
  | .fieldDef f => .fieldDef f.bare
  | .crate c => .crate ⟨.nowhere, c.items.map Item.bare, c.attrs⟩

namespace Value

mutual

/-- A field with nothing of where it stands. -/
def bare : Value → Value
  | .node n => .node n.bare
  | .list values => .list (bareAll values)
  | .span _ => .span .origin
  | value => value

def bareAll : List Value → List Value
  | [] => []
  | value :: values => bare value :: bareAll values

end

@[simp] theorem bareAll_eq (values : List Value) : bareAll values = values.map bare :=
  eq_map_of_rec rfl (fun _ _ => rfl) values

end Value

/-! ## Lists and missing parts -/

@[simp] theorem Ty.bareAll_eq (tys : List Ty) : Ty.bareAll tys = tys.map Ty.bare :=
  eq_map_of_rec rfl (fun _ _ => rfl) tys

@[simp] theorem Pat.bareAll_eq (pats : List Pat) : Pat.bareAll pats = pats.map Pat.bare :=
  eq_map_of_rec rfl (fun _ _ => rfl) pats

@[simp] theorem Expr.bareAll_eq (exprs : List Expr) : Expr.bareAll exprs = exprs.map Expr.bare :=
  eq_map_of_rec rfl (fun _ _ => rfl) exprs

@[simp] theorem FieldInit.bareAll_eq (inits : List FieldInit) :
    FieldInit.bareAll inits = inits.map FieldInit.bare :=
  eq_map_of_rec rfl (fun _ _ => rfl) inits

@[simp] theorem Arm.bareAll_eq (arms : List Arm) : Arm.bareAll arms = arms.map Arm.bare :=
  eq_map_of_rec rfl (fun _ _ => rfl) arms

@[simp] theorem Param.bareAll_eq (params : List Param) :
    Param.bareAll params = params.map Param.bare :=
  eq_map_of_rec rfl (fun _ _ => rfl) params

@[simp] theorem Stmt.bareAll_eq (stmts : List Stmt) : Stmt.bareAll stmts = stmts.map Stmt.bare :=
  eq_map_of_rec rfl (fun _ _ => rfl) stmts

@[simp] theorem Ty.bare?_eq (ty? : Option Ty) : Ty.bare? ty? = ty?.map Ty.bare := by
  cases ty? <;> rfl

@[simp] theorem Pat.bare?_eq (pat? : Option Pat) : Pat.bare? pat? = pat?.map Pat.bare := by
  cases pat? <;> rfl

@[simp] theorem Expr.bare?_eq (expr? : Option Expr) : Expr.bare? expr? = expr?.map Expr.bare := by
  cases expr? <;> rfl

@[simp] theorem Block.bare?_eq (block? : Option Block) :
    Block.bare? block? = block?.map Block.bare := by
  cases block? <;> rfl

/-! ## The fields of bare nodes -/

namespace Value

theorem bare_ofList {α : Type} {value : α → Value} {erase : α → α}
    (erased : ∀ a, bare (value a) = value (erase a)) (as : List α) :
    bare (ofList value as) = ofList value (as.map erase) := by
  simp [ofList, bare, erased]

theorem bare_ofOption {α : Type} {value : α → Value} {erase : α → α}
    (erased : ∀ a, bare (value a) = value (erase a)) (a? : Option α) :
    bare (ofOption value a?) = ofOption value (a?.map erase) := by
  cases a? <;> simp [ofOption, bare, erased]

theorem bare_texts (names : List String) : bare (texts names) = texts names := by
  simp [texts, ofList, bare]

theorem bare_attributes (attrs : List Attribute) : bare (attributes attrs) = attributes attrs := by
  simp [attributes, ofList, bare]

theorem bare_ofInit (init : FieldInit) : bare (ofInit init) = ofInit init.bare := by
  cases init
  rfl

theorem bare_ofOption_text (text? : Option String) :
    bare (ofOption text text?) = ofOption text text? := by
  cases text? <;> rfl

theorem bare_ofOption_ofOp (op? : Option BinaryOp) :
    bare (ofOption ofOp op?) = ofOption ofOp op? := by
  cases op? <;> rfl

end Value

namespace Node

theorem className_bare (node : Node) : node.bare.className = node.className := by
  cases node with
  | ty t => cases t <;> rfl
  | pat p => cases p <;> rfl
  | expr e => cases e <;> rfl
  | stmt s => cases s <;> rfl
  | item i => cases i <;> rfl
  | arm a => rfl
  | param p => rfl
  | fieldDef f => rfl
  | crate c => rfl

theorem identity?_bare (node : Node) :
    Comparison.identity? {} node.bare = Comparison.identity? {} node := by
  cases node with
  | ty t => cases t <;> rfl
  | pat p => cases p <;> rfl
  | expr e => cases e <;> rfl
  | stmt s => cases s <;> rfl
  | item i => cases i <;> rfl
  | arm a => rfl
  | param p => rfl
  | fieldDef f => rfl
  | crate c => rfl

open Value in
/-- A node without an identity has the bare fields of the node it was. -/
theorem fields_bare {node : Node} (unnamed : Comparison.identity? {} node = none) :
    node.bare.fields.map Prod.snd = (node.fields.map Prod.snd).map Value.bare := by
  have ty : ∀ t : Ty, (ofTy t).bare = ofTy t.bare := fun _ => rfl
  have pat : ∀ p : Pat, (ofPat p).bare = ofPat p.bare := fun _ => rfl
  have expr : ∀ e : Expr, (ofExpr e).bare = ofExpr e.bare := fun _ => rfl
  have stmt : ∀ s : Stmt, (ofStmt s).bare = ofStmt s.bare := fun _ => rfl
  have arm : ∀ a : Arm, (ofArm a).bare = ofArm a.bare := fun _ => rfl
  have param : ∀ p : Param, (ofParam p).bare = ofParam p.bare := fun _ => rfl
  have block : ∀ b : Block, (ofBlock b).bare = ofBlock b.bare := fun _ => rfl
  have item : ∀ i : Item, (ofItem i).bare = ofItem i.bare := fun _ => rfl
  cases node with
  | ty t =>
    cases t <;>
      simp [bare, Ty.bare, fields, Value.bare, bare_texts, ty, bare_ofList ty, bare_ofOption ty,
        bare_ofOption expr]
  | pat p =>
    cases p <;>
      simp [bare, Pat.bare, fields, Value.bare, bare_texts, pat, expr, bare_ofList pat,
        bare_ofOption pat]
  | expr e =>
    cases e with
    | lit => cases unnamed
    | block b =>
      cases b
      simp [bare, Expr.bare, Block.bare, fields, Value.bare, bare_ofList stmt, bare_ofOption expr]
    | _ =>
      simp [bare, Expr.bare, fields, Value.bare, bare_texts, bare_ofOption_text,
        bare_ofOption_ofOp, ofOp, ty, pat, expr, block, bare_ofList ty, bare_ofList expr,
        bare_ofList arm, bare_ofList param, bare_ofList bare_ofInit, bare_ofOption ty,
        bare_ofOption expr]
  | stmt s =>
    cases s with
    | item => cases unnamed
    | _ =>
      simp [bare, Stmt.bare, fields, Value.bare, pat, expr, bare_ofOption ty, bare_ofOption expr,
        bare_ofOption block]
  | item i => cases unnamed
  | arm a =>
    cases a
    simp [bare, Arm.bare, fields, pat, expr, bare_ofOption expr]
  | param p =>
    cases p
    simp [bare, Param.bare, fields, pat, bare_ofOption ty]
  | fieldDef f =>
    cases f
    simp [bare, FieldDef.bare, fields, Value.bare, ty]
  | crate c => simp [bare, fields, bare_attributes, bare_ofList item]

/-! ## Bare nodes -/

section

open Value

theorem ty_origin_bare (t : Ty) : t.bare.origin = .nowhere := by
  cases t <;> rfl

theorem pat_origin_bare (p : Pat) : p.bare.origin = .nowhere := by
  cases p <;> rfl

theorem expr_origin_bare (e : Expr) : e.bare.origin = .nowhere := by
  cases e with
  | block b => cases b; rfl
  | _ => rfl

/-- Items of one kind and number are the same item. -/
theorem item_bare_eq {left right : Item} (same : (item left).className = (item right).className)
    (ids : left.origin.id = right.origin.id) : left.bare = right.bare := by
  have constructors := item_ctorIdx_eq same
  cases left <;> cases right <;> first
    | (cases constructors; done)
    | simp_all [Item.bare, Item.origin, Origin.unplaced]

/-- Nodes are equal once bare if their classes and their identities agree and, if they have no
identity, their bare fields are equal. -/
theorem bare_eq {left right : Node} (same : left.className = right.className)
    (identities : Comparison.identity? {} left = Comparison.identity? {} right)
    (equal : Comparison.identity? {} left = none →
      left.bare.fields.map Prod.snd = right.bare.fields.map Prod.snd) : left.bare = right.bare := by
  have bareSame : left.bare.className = right.bare.className := by
    rw [className_bare, className_bare, same]
  have kinds := ctorIdx_eq_of_className same
  cases left <;> cases right <;> try (cases kinds; done)
  case ty.ty left right =>
    exact congrArg ty (ty_eq_of_fields bareSame
      (by rw [ty_origin_bare, ty_origin_bare]) (equal rfl))
  case pat.pat left right =>
    exact congrArg pat (pat_eq_of_fields bareSame
      (by rw [pat_origin_bare, pat_origin_bare]) (equal rfl))
  case expr.expr left right =>
    cases named : Comparison.identity? {} (expr left) with
    | none =>
      exact congrArg expr (expr_eq_of_fields bareSame
        (by rw [expr_origin_bare, expr_origin_bare]) (equal named))
    | some identity =>
      -- Without a resolver, the expressions that have an identity are the literals.
      have rightNamed := identities.symm.trans named
      cases left <;> try (cases named; done)
      cases right <;> try (cases rightNamed; done)
      cases named
      cases rightNamed
      rfl
  case stmt.stmt left right =>
    have constructors := stmt_ctorIdx_eq same
    cases left <;> cases right <;> try (cases constructors; done)
    case item.item =>
      have ids := by simpa [Comparison.identity?] using identities
      exact congrArg stmt (by simp [Stmt.bare, Origin.unplaced, ids])
    all_goals exact congrArg stmt (stmt_eq_of_fields bareSame rfl (equal rfl))
  case item.item left right =>
    exact congrArg item (item_bare_eq same (by simpa [Comparison.identity?] using identities))
  case arm.arm left right =>
    have parts := equal rfl
    cases left
    cases right
    simp_all [bare, Arm.bare, fields]
  case param.param left right =>
    have parts := equal rfl
    cases left
    cases right
    simp_all [bare, Param.bare, fields]
  case fieldDef.fieldDef left right =>
    have parts := equal rfl
    cases left
    cases right
    simp_all [bare, FieldDef.bare, fields]
  case crate.crate left right =>
    have parts := equal rfl
    simp_all [bare, fields, ofList_inj ofItem_inj.mp]

end

end Node

namespace Comparison

/-! ## The same code -/

theorem same_iff_bare :
    FieldInduction
      (fun left => ∀ right, sameNode {} left right = true ↔ left.bare = right.bare)
      (fun left => ∀ right, sameValue {} left right = true ↔ left.bare = right.bare)
      (fun lefts => ∀ rights, sameValues {} lefts rights = true ↔
        lefts.map Value.bare = rights.map Value.bare) where
  node left fields right := by
    rw [sameNode_iff rfl]
    constructor
    · rintro ⟨classes, identities, sameFields⟩
      refine Node.bare_eq classes identities fun unnamed => ?_
      rw [Node.fields_bare unnamed, Node.fields_bare (identities ▸ unnamed)]
      exact (fields _).mp (sameFields unnamed)
    · intro equal
      have identities : identity? {} left = identity? {} right := by
        rw [← left.identity?_bare, ← right.identity?_bare, equal]
      refine ⟨by rw [← left.className_bare, ← right.className_bare, equal], identities,
        fun unnamed => (fields _).mpr ?_⟩
      rw [← Node.fields_bare unnamed, ← Node.fields_bare (identities ▸ unnamed), equal]
  ofNode left same right := by cases right <;> simp [Value.bare, same]
  ofList lefts same right := by cases right <;> simp [Value.bare, same]
  plain left isPlain right := by
    cases left <;> cases right <;> simp_all [Value.isPlain, sameValue, Value.bare]
  nil rights := by cases rights <;> simp
  cons left lefts sameHead sameTail rights := by
    cases rights with
    | nil => simp
    | cons right rights =>
      rw [sameValues, Bool.and_eq_true, sameHead, sameTail, List.map_cons, List.map_cons,
        List.cons.injEq]

/-- Without a resolver, expressions are the same code where they are equal once their places and
suffixes are erased: all else that they hold counts, the unparsed text of a macro with its blanks
included, and what they do not hold, such as the separators between its arguments, does not. -/
theorem sameExpr_iff_bare (left right : Expr) :
    sameExpr {} left right = true ↔ left.bare = right.bare := by
  rw [sameExpr, same_iff_bare.toNode]
  exact ⟨Node.expr.inj, congrArg Node.expr⟩

/-! ## Macro calls -/

/-- The unparsed text of a macro call. -/
def unparsed? : Expr → Option String
  | .macroCall _ _ _ _ tokens => tokens
  | _ => none

/-- A macro call of two names, by its path, its bracket and the names. -/
def pair? : Expr → Option (Path × String × Path × Path)
  | .macroCall _ path [.path _ first [], .path _ second []] delimiter none =>
    some (path, delimiter, first, second)
  | _ => none

theorem unparsed?_bare (expr : Expr) : unparsed? expr.bare = unparsed? expr := by
  cases expr <;> rfl

theorem bare_of_pair? {expr : Expr} {path first second : Path} {delimiter : String}
    (isPair : pair? expr = some (path, delimiter, first, second)) :
    expr.bare = .macroCall .nowhere path [.path .nowhere first [], .path .nowhere second []]
      delimiter none := by
  unfold pair? at isPair
  split at isPair
  · cases isPair
    rfl
  · cases isPair

/-- Four calls of one macro. -/
def macroFile : SourceFile := ⟨"macro.rs",
  "fn f() { let a = m!(x y); let b = m!(x  y); let c = m![x; y]; let d = m![x, y]; }".toList⟩

/-- Whether a node is an expression with a certain text that passes a check. -/
def readsAs (text : String) (check : Expr → Bool) : Node → Bool
  | .expr e => macroFile.slice e.origin.span == text.toList && check e
  | _ => false

theorem exists_of_readsAs {crate : Crate} {text : String} {check : Expr → Bool}
    (reads : crate.walk.any (readsAs text check) = true) :
    ∃ expr, Node.expr expr ∈ crate.walk ∧
      macroFile.slice expr.origin.span = text.toList ∧ check expr = true := by
  obtain ⟨node, listed, reads⟩ := List.any_eq_true.mp reads
  unfold readsAs at reads
  split at reads
  · rw [Bool.and_eq_true, beq_iff_eq] at reads
    exact ⟨_, listed, reads⟩
  · cases reads

/-- Blanks in the text of a macro that was not parsed tell two calls apart, and a separator between
parsed arguments does not. -/
theorem blanks_tell_separators_lost_macroFile : ∃ crate spaced wider semicolon comma,
    macroFile.parse = .ok crate ∧
      (Node.expr spaced ∈ crate.walk ∧ macroFile.slice spaced.origin.span = "m!(x y)".toList) ∧
      (Node.expr wider ∈ crate.walk ∧ macroFile.slice wider.origin.span = "m!(x  y)".toList) ∧
      (Node.expr semicolon ∈ crate.walk ∧
        macroFile.slice semicolon.origin.span = "m![x; y]".toList) ∧
      (Node.expr comma ∈ crate.walk ∧ macroFile.slice comma.origin.span = "m![x, y]".toList) ∧
      sameExpr {} spaced wider = false ∧ sameExpr {} semicolon comma = true := by
  have evaluated : macroFile.crateNoted?.any (fun crate =>
      crate.walk.any (readsAs "m!(x y)" fun expr => unparsed? expr == some "x y") &&
      crate.walk.any (readsAs "m!(x  y)" fun expr => unparsed? expr == some "x  y") &&
      crate.walk.any (readsAs "m![x; y]" fun expr =>
        pair? expr == some (["m"], "[", ["x"], ["y"])) &&
      crate.walk.any (readsAs "m![x, y]" fun expr =>
        pair? expr == some (["m"], "[", ["x"], ["y"]))) = true := by
    decide +kernel
  obtain ⟨crate, parsed, checked⟩ := SourceFile.parse_of_noted evaluated
  simp only [Bool.and_eq_true] at checked
  obtain ⟨⟨⟨spacedReads, widerReads⟩, semicolonReads⟩, commaReads⟩ := checked
  obtain ⟨spaced, spacedListed, spacedText, spacedUnparsed⟩ := exists_of_readsAs spacedReads
  obtain ⟨wider, widerListed, widerText, widerUnparsed⟩ := exists_of_readsAs widerReads
  obtain ⟨semicolon, semicolonListed, semicolonText, semicolonPair⟩ :=
    exists_of_readsAs semicolonReads
  obtain ⟨comma, commaListed, commaText, commaPair⟩ := exists_of_readsAs commaReads
  simp only [beq_iff_eq] at spacedUnparsed widerUnparsed semicolonPair commaPair
  refine ⟨crate, spaced, wider, semicolon, comma, parsed, ⟨spacedListed, spacedText⟩,
    ⟨widerListed, widerText⟩, ⟨semicolonListed, semicolonText⟩, ⟨commaListed, commaText⟩, ?_, ?_⟩
  · rw [Bool.eq_false_iff]
    intro same
    have equal := Node.expr.inj ((same_iff_bare.toNode _ _).mp same)
    have := congrArg unparsed? equal
    simp [unparsed?_bare, spacedUnparsed, widerUnparsed] at this
  · refine (same_iff_bare.toNode _ _).mpr (congrArg Node.expr ?_)
    rw [bare_of_pair? semicolonPair, bare_of_pair? commaPair]

end Comparison
end DrainLint.Hir
