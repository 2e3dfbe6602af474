import DrainLint.Proofs.Declarations.Collection

/-! # Rearranged declarations

The items at the root of a crate and in its modules, wherever these stand, put in another order.  All
nodes keep their numbers and their places.

- `Ty.rearranged`, `Pat.rearranged`, `Expr.rearranged`, …, `Crate.rearranged`: code in which the items
  of every module stand in the order that is given for it;
- `Reorders`: orders that leave out nothing and add nothing;
- `Node.children_rearranged`: the parts of a rearranged node;
- `declaredItems_rearranged`: what a rearranged crate declares.
-/

namespace DrainLint.Hir

open List

/-- How the items of a module, known by its number, are put in order. -/
abbrev Order := Nat → List Item → List Item

section

variable (order : Order)

mutual

def Ty.rearranged : Ty → Ty
  | .path origin segments args => .path origin segments (Ty.rearrangedAll args)
  | .ref origin isMut inner => .ref origin isMut inner.rearranged
  | .ptr origin isMut inner => .ptr origin isMut inner.rearranged
  | .tuple origin elems => .tuple origin (Ty.rearrangedAll elems)
  | .slice origin inner length => .slice origin inner.rearranged (Expr.rearranged? length)
  | .fnPtr origin params ret => .fnPtr origin (Ty.rearrangedAll params) (Ty.rearranged? ret)
  | .bounded origin keyword bound => .bounded origin keyword (Ty.rearranged? bound)
  | .never origin => .never origin
  | .infer origin => .infer origin

def Ty.rearrangedAll : List Ty → List Ty
  | [] => []
  | ty :: tys => ty.rearranged :: Ty.rearrangedAll tys

def Ty.rearranged? : Option Ty → Option Ty
  | none => none
  | some ty => some ty.rearranged

def Pat.rearranged : Pat → Pat
  | .binding origin name isMut byRef sub =>
    .binding origin name isMut byRef (Pat.rearranged? sub)
  | .wild origin => .wild origin
  | .rest origin => .rest origin
  | .tuple origin elems => .tuple origin (Pat.rearrangedAll elems)
  | .slice origin elems => .slice origin (Pat.rearrangedAll elems)
  | .tupleStruct origin path elems => .tupleStruct origin path (Pat.rearrangedAll elems)
  | .struct origin path => .struct origin path
  | .path origin path => .path origin path
  | .lit origin value => .lit origin value.rearranged
  | .ref origin isMut inner => .ref origin isMut inner.rearranged
  | .or origin alts => .or origin (Pat.rearrangedAll alts)

def Pat.rearrangedAll : List Pat → List Pat
  | [] => []
  | pat :: pats => pat.rearranged :: Pat.rearrangedAll pats

def Pat.rearranged? : Option Pat → Option Pat
  | none => none
  | some pat => some pat.rearranged

def Expr.rearranged : Expr → Expr
  | .lit origin value suffix => .lit origin value suffix
  | .path origin segments genericArgs => .path origin segments (Ty.rearrangedAll genericArgs)
  | .methodCall origin receiver method args methodSpan genericArgs =>
    .methodCall origin receiver.rearranged method (Expr.rearrangedAll args) methodSpan
      (Ty.rearrangedAll genericArgs)
  | .call origin func args => .call origin func.rearranged (Expr.rearrangedAll args)
  | .macroCall origin path args delimiter tokens =>
    .macroCall origin path (Expr.rearrangedAll args) delimiter tokens
  | .field origin base name => .field origin base.rearranged name
  | .index origin base index => .index origin base.rearranged index.rearranged
  | .unary origin op operand => .unary origin op operand.rearranged
  | .addrOf origin isMut operand => .addrOf origin isMut operand.rearranged
  | .binary origin op lhs rhs => .binary origin op lhs.rearranged rhs.rearranged
  | .assign origin target value op => .assign origin target.rearranged value.rearranged op
  | .cast origin value ty => .cast origin value.rearranged ty.rearranged
  | .question origin value => .question origin value.rearranged
  | .range origin start stop inclusive =>
    .range origin (Expr.rearranged? start) (Expr.rearranged? stop) inclusive
  | .tuple origin elems => .tuple origin (Expr.rearrangedAll elems)
  | .array origin elems => .array origin (Expr.rearrangedAll elems)
  | .arrayRepeat origin elem count => .arrayRepeat origin elem.rearranged count.rearranged
  | .structLit origin path inits base =>
    .structLit origin path (FieldInit.rearrangedAll inits) (Expr.rearranged? base)
  | .block block => .block block.rearranged
  | .letCond origin pat init => .letCond origin pat.rearranged init.rearranged
  | .ite origin cond onTrue onFalse =>
    .ite origin cond.rearranged onTrue.rearranged (Expr.rearranged? onFalse)
  | .whileLoop origin cond body header label =>
    .whileLoop origin cond.rearranged body.rearranged header label
  | .loop origin body label => .loop origin body.rearranged label
  | .forLoop origin pat iter body label =>
    .forLoop origin pat.rearranged iter.rearranged body.rearranged label
  | .matchArms origin scrutinee arms =>
    .matchArms origin scrutinee.rearranged (Arm.rearrangedAll arms)
  | .closure origin params body ret isMove =>
    .closure origin (Param.rearrangedAll params) body.rearranged (Ty.rearranged? ret) isMove
  | .breakLoop origin label value => .breakLoop origin label (Expr.rearranged? value)
  | .continueLoop origin label => .continueLoop origin label
  | .returnFn origin value => .returnFn origin (Expr.rearranged? value)

def Expr.rearrangedAll : List Expr → List Expr
  | [] => []
  | expr :: exprs => expr.rearranged :: Expr.rearrangedAll exprs

def Expr.rearranged? : Option Expr → Option Expr
  | none => none
  | some expr => some expr.rearranged

def FieldInit.rearranged : FieldInit → FieldInit
  | .mk name value => .mk name value.rearranged

def FieldInit.rearrangedAll : List FieldInit → List FieldInit
  | [] => []
  | init :: inits => init.rearranged :: FieldInit.rearrangedAll inits

def Block.rearranged : Block → Block
  | .mk origin stmts tail isUnsafe =>
    .mk origin (Stmt.rearrangedAll stmts) (Expr.rearranged? tail) isUnsafe

def Block.rearranged? : Option Block → Option Block
  | none => none
  | some block => some block.rearranged

def Arm.rearranged : Arm → Arm
  | .mk origin pat guard body => .mk origin pat.rearranged (Expr.rearranged? guard) body.rearranged

def Arm.rearrangedAll : List Arm → List Arm
  | [] => []
  | arm :: arms => arm.rearranged :: Arm.rearrangedAll arms

def Param.rearranged : Param → Param
  | .mk origin pat ty => .mk origin pat.rearranged (Ty.rearranged? ty)

def Param.rearrangedAll : List Param → List Param
  | [] => []
  | param :: params => param.rearranged :: Param.rearrangedAll params

def Stmt.rearranged : Stmt → Stmt
  | .letStmt origin pat ty init els =>
    .letStmt origin pat.rearranged (Ty.rearranged? ty) (Expr.rearranged? init)
      (Block.rearranged? els)
  | .expr origin value semi => .expr origin value.rearranged semi
  | .item origin item => .item origin item.rearranged

def Stmt.rearrangedAll : List Stmt → List Stmt
  | [] => []
  | stmt :: stmts => stmt.rearranged :: Stmt.rearrangedAll stmts

def FieldDef.rearranged : FieldDef → FieldDef
  | .mk origin name ty => .mk origin name ty.rearranged

def FieldDef.rearrangedAll : List FieldDef → List FieldDef
  | [] => []
  | field :: fields => field.rearranged :: FieldDef.rearrangedAll fields

def Item.rearranged : Item → Item
  | .fnDef origin name generics params ret body attrs =>
    .fnDef origin name generics (Param.rearrangedAll params) (Ty.rearranged? ret)
      (Block.rearranged? body) attrs
  | .structDef origin name generics fields attrs =>
    .structDef origin name generics (FieldDef.rearrangedAll fields) attrs
  | .enumDef origin name attrs => .enumDef origin name attrs
  | .typeAlias origin name generics ty attrs =>
    .typeAlias origin name generics (Ty.rearranged? ty) attrs
  | .constItem origin name ty value attrs =>
    .constItem origin name ty.rearranged (Expr.rearranged? value) attrs
  | .useDecl origin path newName glob attrs => .useDecl origin path newName glob attrs
  | .implBlock origin generics selfTy traitRef items attrs =>
    .implBlock origin generics selfTy.rearranged (Ty.rearranged? traitRef) (Item.rearrangedAll items)
      attrs
  | .traitDef origin name generics items attrs =>
    .traitDef origin name generics (Item.rearrangedAll items) attrs
  -- The one place where items change their order.
  | .modDef origin name items attrs =>
    .modDef origin name (order origin.id (Item.rearrangedAll items)) attrs
  | .macroItem origin path attrs => .macroItem origin path attrs

def Item.rearrangedAll : List Item → List Item
  | [] => []
  | item :: items => item.rearranged :: Item.rearrangedAll items

end

def Crate.rearranged (crate : Crate) : Crate :=
  { crate with items := order crate.origin.id (Item.rearrangedAll order crate.items) }

def Node.rearranged : Node → Node
  | .ty t => .ty (t.rearranged order)
  | .pat p => .pat (p.rearranged order)
  | .expr e => .expr (e.rearranged order)
  | .stmt s => .stmt (s.rearranged order)
  | .item i => .item (i.rearranged order)
  | .arm a => .arm (a.rearranged order)
  | .param p => .param (p.rearranged order)
  | .fieldDef f => .fieldDef (f.rearranged order)
  | .crate c => .crate (c.rearranged order)

/-! ## Lists and missing parts -/

@[simp] theorem Ty.rearrangedAll_eq (tys : List Ty) :
    Ty.rearrangedAll order tys = tys.map (Ty.rearranged order) :=
  eq_map_of_rec rfl (fun _ _ => rfl) tys

@[simp] theorem Pat.rearrangedAll_eq (pats : List Pat) :
    Pat.rearrangedAll order pats = pats.map (Pat.rearranged order) :=
  eq_map_of_rec rfl (fun _ _ => rfl) pats

@[simp] theorem Expr.rearrangedAll_eq (exprs : List Expr) :
    Expr.rearrangedAll order exprs = exprs.map (Expr.rearranged order) :=
  eq_map_of_rec rfl (fun _ _ => rfl) exprs

@[simp] theorem FieldInit.rearrangedAll_eq (inits : List FieldInit) :
    FieldInit.rearrangedAll order inits = inits.map (FieldInit.rearranged order) :=
  eq_map_of_rec rfl (fun _ _ => rfl) inits

@[simp] theorem Arm.rearrangedAll_eq (arms : List Arm) :
    Arm.rearrangedAll order arms = arms.map (Arm.rearranged order) :=
  eq_map_of_rec rfl (fun _ _ => rfl) arms

@[simp] theorem Param.rearrangedAll_eq (params : List Param) :
    Param.rearrangedAll order params = params.map (Param.rearranged order) :=
  eq_map_of_rec rfl (fun _ _ => rfl) params

@[simp] theorem Stmt.rearrangedAll_eq (stmts : List Stmt) :
    Stmt.rearrangedAll order stmts = stmts.map (Stmt.rearranged order) :=
  eq_map_of_rec rfl (fun _ _ => rfl) stmts

@[simp] theorem FieldDef.rearrangedAll_eq (fields : List FieldDef) :
    FieldDef.rearrangedAll order fields = fields.map (FieldDef.rearranged order) :=
  eq_map_of_rec rfl (fun _ _ => rfl) fields

@[simp] theorem Item.rearrangedAll_eq (items : List Item) :
    Item.rearrangedAll order items = items.map (Item.rearranged order) :=
  eq_map_of_rec rfl (fun _ _ => rfl) items

@[simp] theorem Ty.rearranged?_eq (ty? : Option Ty) :
    Ty.rearranged? order ty? = ty?.map (Ty.rearranged order) := by
  cases ty? <;> rfl

@[simp] theorem Pat.rearranged?_eq (pat? : Option Pat) :
    Pat.rearranged? order pat? = pat?.map (Pat.rearranged order) := by
  cases pat? <;> rfl

@[simp] theorem Expr.rearranged?_eq (expr? : Option Expr) :
    Expr.rearranged? order expr? = expr?.map (Expr.rearranged order) := by
  cases expr? <;> rfl

@[simp] theorem Block.rearranged?_eq (block? : Option Block) :
    Block.rearranged? order block? = block?.map (Block.rearranged order) := by
  cases block? <;> rfl

@[simp] theorem FieldInit.value_rearranged (init : FieldInit) :
    (init.rearranged order).value = init.value.rearranged order := by
  cases init
  rfl

@[simp] theorem Expr.rearranged_block (block : Block) :
    (Expr.block block).rearranged order = .block (block.rearranged order) := rfl

end

/-! ## The parts of rearranged nodes -/

/-- Orders that leave out nothing and add nothing. -/
def Reorders (order : Order) : Prop := ∀ id items, order id items ~ items

namespace Node

variable {order : Order}

/-- The parts of a rearranged node are its parts, rearranged; those of a module and of the crate
stand in another order. -/
theorem children_rearranged (reorders : Reorders order) (node : Node) :
    (node.rearranged order).children ~ node.children.map (rearranged order) := by
  cases node with
  | item i =>
    cases i with
    | modDef origin name items attrs =>
      simpa [rearranged, Item.rearranged, children_eq, fields, ← map_eq_flatMap, Function.comp_def]
        using (reorders origin.id (items.map (Item.rearranged order))).map item
    | _ =>
      exact .of_eq (by
        simp [rearranged, Item.rearranged, children_eq, fields, map_flatMap, flatMap_map,
          Option.toList_map])
  | crate c =>
    simpa [rearranged, Crate.rearranged, children_eq, fields, ← map_eq_flatMap, Function.comp_def]
      using (reorders c.origin.id (c.items.map (Item.rearranged order))).map item
  | expr e =>
    cases e with
    | block b =>
      cases b
      exact .of_eq (by
        simp [rearranged, Expr.rearranged, Block.rearranged, children_eq, fields, map_flatMap,
          flatMap_map, Option.toList_map])
    | _ =>
      exact .of_eq (by
        simp [rearranged, Expr.rearranged, children_eq, fields, map_flatMap, flatMap_map,
          Option.toList_map])
  | ty t =>
    cases t <;> exact .of_eq (by
      simp [rearranged, Ty.rearranged, children_eq, fields, map_flatMap, flatMap_map,
        Option.toList_map])
  | pat p =>
    cases p <;> exact .of_eq (by
      simp [rearranged, Pat.rearranged, children_eq, fields, map_flatMap, flatMap_map,
        Option.toList_map])
  | stmt s =>
    cases s <;> exact .of_eq (by
      simp [rearranged, Stmt.rearranged, children_eq, fields, map_flatMap, flatMap_map,
        Option.toList_map, Expr.rearranged])
  | arm a =>
    cases a
    exact .of_eq (by
      simp [rearranged, Arm.rearranged, children_eq, fields, map_flatMap, flatMap_map,
        Option.toList_map])
  | param p =>
    cases p
    exact .of_eq (by
      simp [rearranged, Param.rearranged, children_eq, fields, map_flatMap, flatMap_map,
        Option.toList_map])
  | fieldDef f =>
    cases f
    exact .of_eq (by simp [rearranged, FieldDef.rearranged, children_eq, fields])

theorem declares_rearranged (isDeclared : Bool) (node : Node) :
    (node.rearranged order).declares isDeclared = node.declares isDeclared := by
  cases node with
  | item i => cases i <;> rfl
  | stmt s => cases s <;> rfl
  | _ => rfl

theorem ownItem_rearranged (isDeclared : Bool) (node : Node) :
    (node.rearranged order).ownItem isDeclared =
      (node.ownItem isDeclared).map (Item.rearranged order) := by
  cases node with
  | item i => cases isDeclared <;> rfl
  | _ => rfl

/-- A rearranged node declares the same items, rearranged, in another order. -/
theorem declared_rearranged (reorders : Reorders order) (isDeclared : Bool) (node : Node) :
    (node.rearranged order).declared isDeclared ~
      (node.declared isDeclared).map (Item.rearranged order) := by
  have below : ∀ nodes : List Node, (∀ child ∈ nodes, child ∈ node.children) →
      (nodes.map (rearranged order)).flatMap (declared (node.declares isDeclared)) ~
        (nodes.flatMap (declared (node.declares isDeclared))).map (Item.rearranged order) := by
    intro nodes
    induction nodes with
    | nil => exact fun _ => .nil
    | cons child nodes inductionHypothesis =>
      intro isChild
      rw [map_cons, flatMap_cons, flatMap_cons, map_append]
      exact (declared_rearranged reorders _ child).append
        (inductionHypothesis fun other member => isChild other (mem_cons_of_mem _ member))
  rw [declared_eq, declared_eq, ownItem_rearranged, declares_rearranged, map_append]
  refine .append_left _ ?_
  exact ((children_rearranged reorders node).flatMap_right _).trans
    (below node.children fun _ member => member)
termination_by node.weight
decreasing_by exact weight_child_lt (isChild child mem_cons_self)

end Node

end DrainLint.Hir

namespace DrainLint.Typing.Declarations

open Hir List

/-- A rearranged crate declares the same items, rearranged, in another order. -/
theorem declaredItems_rearranged {order : Order} (reorders : Reorders order) (crate : Crate) :
    declaredItems (crate.rearranged order) ~ (declaredItems crate).map (Item.rearranged order) :=
  (declaredItems_perm (crate.rearranged order)).trans
    ((Node.declared_rearranged reorders true (.crate crate)).trans
      ((declaredItems_perm crate).symm.map _))

end DrainLint.Typing.Declarations
