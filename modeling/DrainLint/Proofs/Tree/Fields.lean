import DrainLint.Hir.Node
import Mathlib.Data.List.Basic

/-! # Nodes by their fields

What a node is can be read off what it shows: its class, its origin and its fields.

- `ctorIdx_eq_of_className`: the class of a node tells its kind;
- `Value.ofList_inj`, `Value.ofOption_inj`, …: a field tells what it holds;
- `ty_eq_of_fields`, `pat_eq_of_fields`, `expr_eq_of_fields`, `stmt_eq_of_fields`: nodes of one class
  with one origin and the same fields are equal.
-/

namespace DrainLint.Hir

/-! ## What a field holds -/

@[simp] theorem UnaryOp.symbol_inj {left right : UnaryOp} :
    left.symbol = right.symbol ↔ left = right := by
  cases left <;> cases right <;> simp [symbol]

namespace Value

section

variable {α : Type} {value : α → Value}

theorem ofList_inj (injective : ∀ {a b}, value a = value b → a = b) {as bs : List α} :
    ofList value as = ofList value bs ↔ as = bs := by
  simp [ofList, List.map_inj_right fun _ _ => injective]

/-- A part that may be missing is told by its field, since nothing that is there looks absent. -/
theorem ofOption_inj (injective : ∀ {a b}, value a = value b → a = b)
    (present : ∀ a, value a ≠ .absent) {a? b? : Option α} :
    ofOption value a? = ofOption value b? ↔ a? = b? := by
  cases a? with
  | none => cases b? <;> simp [ofOption, (present _).symm]
  | some a =>
    cases b? with
    | none => simp [ofOption, present]
    | some b => simpa [ofOption] using ⟨injective, congrArg value⟩

end

@[simp] theorem ofTy_inj {left right : Ty} : ofTy left = ofTy right ↔ left = right := by
  simp [ofTy]

@[simp] theorem ofPat_inj {left right : Pat} : ofPat left = ofPat right ↔ left = right := by
  simp [ofPat]

@[simp] theorem ofExpr_inj {left right : Expr} : ofExpr left = ofExpr right ↔ left = right := by
  simp [ofExpr]

@[simp] theorem ofBlock_inj {left right : Block} : ofBlock left = ofBlock right ↔ left = right := by
  simp [ofBlock]

@[simp] theorem ofStmt_inj {left right : Stmt} : ofStmt left = ofStmt right ↔ left = right := by
  simp [ofStmt]

@[simp] theorem ofItem_inj {left right : Item} : ofItem left = ofItem right ↔ left = right := by
  simp [ofItem]

@[simp] theorem ofArm_inj {left right : Arm} : ofArm left = ofArm right ↔ left = right := by
  simp [ofArm]

@[simp] theorem ofParam_inj {left right : Param} : ofParam left = ofParam right ↔ left = right := by
  simp [ofParam]

@[simp] theorem ofInit_inj {left right : FieldInit} : ofInit left = ofInit right ↔ left = right := by
  cases left
  cases right
  simp [ofInit, FieldInit.name, FieldInit.value]

@[simp] theorem ofOp_inj {left right : BinaryOp} : ofOp left = ofOp right ↔ left = right := by
  cases left <;> cases right <;> simp [ofOp, BinaryOp.symbol]

@[simp] theorem texts_inj {names others : List String} :
    texts names = texts others ↔ names = others :=
  ofList_inj Value.text.inj

@[simp] theorem attributes_inj {attrs others : List Attribute} :
    attributes attrs = attributes others ↔ attrs = others :=
  ofList_inj Value.attr.inj

@[simp] theorem option_ofTy_inj {ty? other? : Option Ty} :
    ofOption ofTy ty? = ofOption ofTy other? ↔ ty? = other? :=
  ofOption_inj ofTy_inj.mp (by simp [ofTy])

@[simp] theorem option_ofPat_inj {pat? other? : Option Pat} :
    ofOption ofPat pat? = ofOption ofPat other? ↔ pat? = other? :=
  ofOption_inj ofPat_inj.mp (by simp [ofPat])

@[simp] theorem option_ofExpr_inj {expr? other? : Option Expr} :
    ofOption ofExpr expr? = ofOption ofExpr other? ↔ expr? = other? :=
  ofOption_inj ofExpr_inj.mp (by simp [ofExpr])

@[simp] theorem option_ofBlock_inj {block? other? : Option Block} :
    ofOption ofBlock block? = ofOption ofBlock other? ↔ block? = other? :=
  ofOption_inj ofBlock_inj.mp (by simp [ofBlock])

@[simp] theorem option_ofOp_inj {op? other? : Option BinaryOp} :
    ofOption ofOp op? = ofOption ofOp other? ↔ op? = other? :=
  ofOption_inj ofOp_inj.mp (by simp [ofOp])

@[simp] theorem option_text_inj {text? other? : Option String} :
    ofOption text text? = ofOption text other? ↔ text? = other? :=
  ofOption_inj Value.text.inj (by simp)

end Value

namespace Node

/-! ## What a class tells -/

/-- The classes of the nodes of each kind, in the order of the constructors. -/
def classes : List (List String) :=
  [["PathTy", "RefTy", "PtrTy", "TupleTy", "SliceTy", "FnPtrTy", "OpaqueTy", "NeverTy", "InferTy"],
    ["BindingPat", "WildPat", "RestPat", "TuplePat", "SlicePat", "TupleStructPat", "StructPat",
      "PathPat", "LitPat", "RefPat", "OrPat"],
    ["Lit", "PathExpr", "MethodCall", "Call", "MacroCall", "Field", "Index", "Unary", "AddrOf",
      "Binary", "Assign", "Cast", "Try", "Range", "TupleExpr", "ArrayExpr", "RepeatExpr",
      "StructLit", "Block", "LetCond", "If", "While", "Loop", "ForLoop", "Match", "Closure",
      "Break", "Continue", "Return"],
    ["Local", "ExprStmt", "ItemStmt"],
    ["FnDef", "StructDef", "EnumDef", "TypeAlias", "ConstItem", "UseDecl", "ImplBlock", "TraitDef",
      "ModDef", "MacroItem"],
    ["Arm"], ["Param"], ["FieldDef"], ["Crate"]]

/-- The class of a node tells its kind. -/
theorem ctorIdx_eq_of_className {left right : Node} (same : left.className = right.className) :
    left.ctorIdx = right.ctorIdx := by
  have kind : ∀ node : Node, classes.findIdx (·.contains node.className) = node.ctorIdx := by
    intro node
    cases node with
    | ty t => cases t <;> rfl
    | pat p => cases p <;> rfl
    | expr e => cases e <;> rfl
    | stmt s => cases s <;> rfl
    | item i => cases i <;> rfl
    | arm | param | fieldDef | crate => rfl
  rw [← kind left, ← kind right, same]

-- Among the classes of all kinds, those of one kind stand behind those of the kinds before it.

theorem ty_ctorIdx_eq {left right : Ty} (same : (ty left).className = (ty right).className) :
    left.ctorIdx = right.ctorIdx := by
  have place : ∀ t : Ty, classes.flatten.idxOf (ty t).className = t.ctorIdx := by
    intro t
    cases t <;> rfl
  rw [← place left, ← place right, same]

theorem pat_ctorIdx_eq {left right : Pat} (same : (pat left).className = (pat right).className) :
    left.ctorIdx = right.ctorIdx := by
  have place : ∀ p : Pat, classes.flatten.idxOf (pat p).className = p.ctorIdx + 9 := by
    intro p
    cases p <;> rfl
  exact Nat.add_right_cancel (by rw [← place left, ← place right, same])

theorem expr_ctorIdx_eq {left right : Expr}
    (same : (expr left).className = (expr right).className) : left.ctorIdx = right.ctorIdx := by
  have place : ∀ e : Expr, classes.flatten.idxOf (expr e).className = e.ctorIdx + 20 := by
    intro e
    cases e <;> rfl
  exact Nat.add_right_cancel (by rw [← place left, ← place right, same])

theorem stmt_ctorIdx_eq {left right : Stmt}
    (same : (stmt left).className = (stmt right).className) : left.ctorIdx = right.ctorIdx := by
  have place : ∀ s : Stmt, classes.flatten.idxOf (stmt s).className = s.ctorIdx + 49 := by
    intro s
    cases s <;> rfl
  exact Nat.add_right_cancel (by rw [← place left, ← place right, same])

theorem item_ctorIdx_eq {left right : Item}
    (same : (item left).className = (item right).className) : left.ctorIdx = right.ctorIdx := by
  have place : ∀ i : Item, classes.flatten.idxOf (item i).className = i.ctorIdx + 52 := by
    intro i
    cases i <;> rfl
  exact Nat.add_right_cancel (by rw [← place left, ← place right, same])

/-! ## What the fields tell -/

section

open Value

theorem ty_eq_of_fields {left right : Ty} (same : (ty left).className = (ty right).className)
    (origins : left.origin = right.origin)
    (equal : (ty left).fields.map Prod.snd = (ty right).fields.map Prod.snd) : left = right := by
  have constructors := ty_ctorIdx_eq same
  cases left <;> cases right <;> first
    | (cases constructors; done)
    | simp_all [fields, Ty.origin, ofList_inj ofTy_inj.mp]

theorem pat_eq_of_fields {left right : Pat} (same : (pat left).className = (pat right).className)
    (origins : left.origin = right.origin)
    (equal : (pat left).fields.map Prod.snd = (pat right).fields.map Prod.snd) : left = right := by
  have constructors := pat_ctorIdx_eq same
  cases left <;> cases right <;> first
    | (cases constructors; done)
    | simp_all [fields, Pat.origin, ofList_inj ofPat_inj.mp]

theorem expr_eq_of_fields {left right : Expr}
    (same : (expr left).className = (expr right).className) (origins : left.origin = right.origin)
    (equal : (expr left).fields.map Prod.snd = (expr right).fields.map Prod.snd) : left = right := by
  have constructors := expr_ctorIdx_eq same
  cases left <;> cases right <;> try (cases constructors; done)
  case block.block left right =>
    cases left
    cases right
    simp_all [fields, Expr.origin, Block.origin, ofList_inj ofStmt_inj.mp]
  all_goals
    simp_all [fields, Expr.origin, ofList_inj ofTy_inj.mp, ofList_inj ofExpr_inj.mp,
      ofList_inj ofArm_inj.mp, ofList_inj ofParam_inj.mp, ofList_inj ofInit_inj.mp]

theorem stmt_eq_of_fields {left right : Stmt}
    (same : (stmt left).className = (stmt right).className) (origins : left.origin = right.origin)
    (equal : (stmt left).fields.map Prod.snd = (stmt right).fields.map Prod.snd) : left = right := by
  have constructors := stmt_ctorIdx_eq same
  cases left <;> cases right <;> first
    | (cases constructors; done)
    | simp_all [fields, Stmt.origin]

end

end Node
end DrainLint.Hir
