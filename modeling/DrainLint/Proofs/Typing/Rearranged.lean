import DrainLint.Proofs.Declarations.Answers
import DrainLint.Proofs.Scoping.Refinement
import DrainLint.Proofs.Typing.Runs

/-! # The inference of rearranged code

The inference goes through items in their order, but what it writes down about one item does not
depend on the others: only the declarations do, and these answer alike.

- `lower_alike` and the lemmas beside it: what is looked up comes to the same;
- `inferItems_perm`: items are gone through in any order;
- `inferExpr_alike` and the theorems beside it: each step infers rearranged code alike;
- `inferCrate_rearranged`: a rearranged crate is inferred alike;
- `declarations_unordered`: which items are declared, and that their order is not seen.
-/

namespace DrainLint.Typing

open Hir Check List

variable {order : Order} {table table' : MethodTable}

/-! ## Types -/

section

variable (same : MethodTable.SameEntries order table table')

include same

theorem lower_alike (env : TypeEnv) (ty : Ty) :
    Alike (lower table env ty) (lower table' env (ty.rearranged order)) := by
  refine AlikeBy.bind (noteDeep_alike _ _) fun _ => ?_
  rw [same.names.lower_rearranged env ty]
  exact .pure _

theorem lower?_alike (env : TypeEnv) (ty? : Option Ty) :
    Alike (lower? table env ty?) (lower? table' env (Ty.rearranged? order ty?)) := by
  cases ty? with
  | none => exact .pure _
  | some ty => exact lower_alike same env ty

theorem lowerAll_alike (env : TypeEnv) (tys : List Ty) :
    Alike (lowerAll table env tys) (lowerAll table' env (Ty.rearrangedAll order tys)) := by
  induction tys with
  | nil => exact .pure _
  | cons ty tys inductionHypothesis =>
    exact .bind (lower_alike same env ty) fun _ => inductionHypothesis.bind_pure

theorem namedType_alike (segments : Path) (args : List SemTy) :
    Alike (namedType table segments args) (namedType table' segments args) := by
  refine AlikeBy.bind (noteDeep_alike _ _) fun _ => ?_
  rw [same.names.namedType_eq segments args]
  exact .pure _

theorem resultType_alike (result : ResultTy) :
    Alike (resultType table result) (resultType table' (result.rearranged order)) := by
  refine AlikeBy.bind (noteDeep_alike _ _) fun _ => ?_
  rw [same.resultType_eq result]
  exact .pure _

theorem payloadType_eq (path : Path) (ty : SemTy) :
    payloadType table' path ty = payloadType table path ty := by
  unfold payloadType
  rw [same.names.followImports_eq]

end

/-! ## Patterns -/

mutual

theorem bindPattern_alike (same : MethodTable.SameEntries order table table') (ty : SemTy)
    (pat : Pat) : Alike (bindPattern table ty pat)
      (bindPattern table' ty (pat.rearranged order)) := by
  cases pat with
  | binding origin name isMut byRef sub =>
    cases sub with
    | none => exact .bind (declare_alike name _) fun _ => .pure _
    | some sub => exact .bind (declare_alike name _) fun _ => bindPattern_alike same ty sub
  | ref origin isMut inner => exact bindPattern_alike same _ inner
  | tuple origin elems => exact bindPatterns_alike same _ elems
  | tupleStruct origin path elems =>
    simp only [Pat.rearranged, bindPattern, payloadType_eq same]
    exact bindPatterns_alike same _ elems
  | slice origin elems =>
    -- There are as many types as patterns, and rearranged there are as many patterns.
    simp only [Pat.rearranged, bindPattern, Pat.rearrangedAll_eq, length_map]
    rw [← Pat.rearrangedAll_eq]
    exact bindPatterns_alike same _ elems
  | or origin alts =>
    simp only [Pat.rearranged, bindPattern, Pat.rearrangedAll_eq, length_map]
    rw [← Pat.rearrangedAll_eq]
    exact bindPatterns_alike same _ alts
  | wild | rest | struct | path | lit => exact .pure _

theorem bindPatterns_alike (same : MethodTable.SameEntries order table table') (tys : List SemTy)
    (pats : List Pat) : Alike (bindPatterns table tys pats)
      (bindPatterns table' tys (Pat.rearrangedAll order pats)) := by
  cases pats with
  | nil => exact .pure _
  | cons pat pats =>
    exact .bind (bindPattern_alike same _ pat) fun _ => bindPatterns_alike same _ pats

end

section

variable (same : MethodTable.SameEntries order table table')

include same

theorem bindParams_alike (env : TypeEnv) (params : List Param) :
    Alike (bindParams table env params)
      (bindParams table' env (Param.rearrangedAll order params)) := by
  induction params with
  | nil => exact .pure _
  | cons param params inductionHypothesis =>
    obtain ⟨origin, pat, ty⟩ := param
    exact .bind (lower?_alike same env ty) fun _ =>
      .bind (bindPattern_alike same _ pat) fun _ => inductionHypothesis

/-! ## Names -/

theorem constantType_alike (env : TypeEnv) (segments : Path) :
    Alike (constantType table env segments) (constantType table' env segments) := by
  unfold constantType
  split
  · next name =>
    rw [same.names.consts]
    split
    · exact .pure _
    · cases table.decls.consts.lookup name with
      | none => exact .pure _
      | some info => exact lower_alike same env info.ty
  · exact .pure _

theorem pathType_alike (env : TypeEnv) (id : Nat) (segments : Path) :
    Alike (pathType table env id segments) (pathType table' env id segments) := by
  unfold pathType
  split
  · refine .bind (findLocal_alike _) fun known? => ?_
    cases known? with
    | none => exact constantType_alike same env _
    | some known => exact .bind (recordBinding_alike id known.id) fun _ => .pure _
  · exact .pure _

theorem namedCallee?_eq (name : String) (first : SemTy) : namedCallee? table' name first =
    (namedCallee? table name first).map (Callee.rearranged order) := by
  unfold namedCallee?
  rw [same.names.structs, Option.isSome_map]
  split
  · rfl
  · split <;> rfl

theorem freeCallee?_eq (name : String) : freeCallee? table' name =
    (freeCallee? table name).map (Callee.rearranged order) := by
  unfold freeCallee?
  rw [same.names.fns, Option.map_map, Option.map_map]
  congr 1
  funext info
  obtain ⟨id, name, generics, ret⟩ := info
  cases ret <;> rfl

theorem ownerType_alike (env : TypeEnv) (segments : Path) (genericArgs : List Ty) :
    Alike (ownerType table env segments genericArgs)
      (ownerType table' env segments (Ty.rearrangedAll order genericArgs)) := by
  unfold ownerType
  split
  · exact .pure _
  · exact .bind (lowerAll_alike same env genericArgs) fun _ => namedType_alike same _ _

/-- A path calls the same function. -/
theorem pathCallee?_alike (env : TypeEnv) (id : Nat) (segments : Path) (genericArgs : List Ty)
    (args : List SemTy) :
    AlikeBy (fun callee? callee'? => callee'? = callee?.map (Callee.rearranged order)) []
      (pathCallee? table env id segments genericArgs args)
      (pathCallee? table' env id segments (Ty.rearrangedAll order genericArgs) args) := by
  unfold pathCallee?
  split
  · next name =>
    refine AlikeBy.bind (findLocal_alike name) fun known? => ?_
    cases known? with
    | some known => exact AlikeBy.bind (recordBinding_alike id known.id) fun _ => .pure_related rfl
    | none =>
      refine AlikeBy.pure_related ?_
      rw [namedCallee?_eq same, freeCallee?_eq same]
      cases namedCallee? table name (args.headD .unknown) <;> rfl
  · refine AlikeBy.bind (ownerType_alike same env _ genericArgs) fun owner => ?_
    split
    · exact .pure_related (same.findAssociated?_eq owner _ args)
    · exact .pure_related (freeCallee?_eq same _)

/-- What a path calls comes to the same. -/
theorem callee_alike (id pathId : Nat) (callee? : Option Callee) : AlikeBy Eq [id] (do
    recordType pathId .unknown
    match callee? with
    | none => return .unknown
    | some callee =>
      recordCallee id callee.path
      resultType table callee.result) (do
    recordType pathId .unknown
    match callee?.map (Callee.rearranged order) with
    | none => return .unknown
    | some callee =>
      recordCallee id callee.path
      resultType table' callee.result) := by
  refine AlikeBy.bind (recordType_alike pathId .unknown) fun _ => ?_
  cases callee? with
  | none => exact (AlikeBy.pure _).weaken nil_subperm
  | some callee =>
    refine AlikeBy.bind_related (recordCallee_alike id callee.path) fun _ _ _ => ?_
    exact resultType_alike same callee.result

/-! ## Methods and fields -/

theorem methodType_alike (env : TypeEnv) (id : Nat) (receiver : SemTy) (method : String)
    (genericArgs : List Ty) :
    AlikeBy Eq [id] (methodType table env id receiver method genericArgs)
      (methodType table' env id receiver method (Ty.rearrangedAll order genericArgs)) := by
  unfold methodType
  rw [same.findMethod?_eq]
  cases table.findMethod? receiver method with
  | none => exact (AlikeBy.pure _).weaken nil_subperm
  | some callee =>
    refine AlikeBy.bind (resultType_alike same callee.result) fun ty => ?_
    refine AlikeBy.bind_related (recordCallee_alike id callee.path) fun _ _ _ => ?_
    cases genericArgs with
    | nil => exact AlikeBy.pure ty
    | cons first rest =>
      simp only [Ty.rearrangedAll]
      split
      · exact lower_alike same env first
      · exact AlikeBy.pure ty

theorem fieldType_alike (base : SemTy) (name : String) :
    Alike (fieldType table base name) (fieldType table' base name) := by
  have fields : (autoderef base).findSomeM? (fun ty => table'.fieldResult? ty name) =
      ((autoderef base).findSomeM? fun ty => table.fieldResult? ty name).map
        (Option.map (ResultTy.rearranged order)) := by
    induction autoderef base with
    | nil => rfl
    | cons ty tys inductionHypothesis =>
      rw [findSomeM?, findSomeM?, same.fieldResult?_eq, inductionHypothesis]
      cases table.fieldResult? ty name with
      | error fault => rfl
      | ok result? => cases result? <;> rfl
  unfold fieldType
  rw [fields]
  cases (autoderef base).findSomeM? fun ty => table.fieldResult? ty name with
  | error fault => exact .bind (noteFault_alike fault) fun _ => .pure _
  | ok result? =>
    cases result? with
    | none => exact .pure _
    | some result => exact resultType_alike same result

end

/-! ## Items in any order -/

mutual

theorem inferItem_keeps (table : MethodTable) (env : TypeEnv) (item : Item) :
    Keeps (inferItem table env item) := by
  cases item with
  | fnDef origin name generics params ret body attrs =>
    cases body with
    | none => exact .pure _
    | some body => exact .inBody _
  | constItem origin name ty value attrs =>
    cases value with
    | none => exact .pure _
    | some value => exact .inBody _
  | implBlock origin generics selfTy traitRef items attrs =>
    exact .bind (fun _ => rfl) fun _ => inferItems_keeps table _ items
  | traitDef origin name generics items attrs => exact inferItems_keeps table _ items
  | modDef origin name items attrs => exact inferItems_keeps table _ items
  | structDef | enumDef | typeAlias | useDecl | macroItem => exact .pure _

theorem inferItems_keeps (table : MethodTable) (env : TypeEnv) (items : List Item) :
    Keeps (inferItems table env items) := by
  cases items with
  | nil => exact .pure _
  | cons item items =>
    exact .bind (inferItem_keeps table env item) fun _ => inferItems_keeps table env items

end

theorem inferItems_self {table : MethodTable} {env : TypeEnv} {items : List Item}
    (each : ∀ item ∈ items, Alike (inferItem table env item) (inferItem table env item)) :
    Alike (inferItems table env items) (inferItems table env items) := by
  induction items with
  | nil => exact .pure _
  | cons item items inductionHypothesis =>
    exact .bind (each item mem_cons_self) fun _ =>
      inductionHypothesis fun other member => each other (mem_cons_of_mem _ member)

/-- Items are gone through in any order. -/
theorem inferItems_perm {table : MethodTable} {env : TypeEnv} {items items' : List Item}
    (same : items ~ items')
    (each : ∀ item ∈ items, Alike (inferItem table env item) (inferItem table env item)) :
    Alike (inferItems table env items) (inferItems table env items') := by
  induction same with
  | nil => exact .pure _
  | cons item same inductionHypothesis =>
    exact .bind (each item mem_cons_self) fun _ =>
      inductionHypothesis fun other member => each other (mem_cons_of_mem _ member)
  | swap first second items =>
    have inner := inferItems_self fun item member =>
      each item (mem_cons_of_mem _ (mem_cons_of_mem _ member))
    exact .swap (each second mem_cons_self) (each first (mem_cons_of_mem _ mem_cons_self)) inner
      (inferItem_keeps table env second) (inferItem_keeps table env first)
  | trans first second inductionHypothesis inductionHypothesis' =>
    exact (inductionHypothesis each).trans
      (inductionHypothesis' fun item member => each item (first.mem_iff.mpr member))

/-! ## The inference, node by node -/

-- The recursion is that of the inference; the order of items changes in modules only.
mutual

theorem inferExpr_alike (same : MethodTable.SameEntries order table table')
    (reorders : Reorders order) (env : TypeEnv) (isCondition : Bool) (value : Expr) :
    Alike (inferExpr table env isCondition value)
      (inferExpr table' env isCondition (value.rearranged order)) := by
  cases value with
  | lit origin value suffix => exact (AlikeBy.pure _).typed_plain
  | path origin segments genericArgs => exact (pathType_alike same env origin.id segments).typed_plain
  | methodCall origin receiver method args span genericArgs =>
    exact (AlikeBy.bind (inferExpr_alike same reorders env false receiver) fun receiverTy =>
      AlikeBy.bind (inferExprs_alike same reorders env args) fun _ =>
        methodType_alike same env origin.id receiverTy method genericArgs).typed
  | call origin func args =>
    have arguments := inferExprs_alike same reorders env args
    cases func with
    | path pathOrigin segments genericArgs =>
      -- The callee is written down for the call, whose own type is written down last.
      refine (AlikeBy.bind arguments fun argTys => ?_).typed
      have called := pathCallee?_alike same env pathOrigin.id segments genericArgs argTys
      refine called.bind_related ?_
      rintro callee? _ rfl
      exact callee_alike same origin.id pathOrigin.id callee?
    | _ =>
      exact (AlikeBy.bind arguments fun _ =>
        (inferExpr_alike same reorders env false _).bind_pure).typed_plain
  | field origin base name =>
    exact (AlikeBy.bind (inferExpr_alike same reorders env false base) fun baseTy =>
      fieldType_alike same baseTy name).typed_plain
  | unary _ _ value | addrOf _ _ value | question _ value =>
    exact (inferExpr_alike same reorders env false value).bind_pure.typed_plain
  | index _ first second | binary _ _ first second | arrayRepeat _ first second
  | assign _ first second _ =>
    exact (AlikeBy.bind (inferExpr_alike same reorders env false first) fun _ =>
      (inferExpr_alike same reorders env false second).bind_pure).typed_plain
  | macroCall _ _ values _ _ | tuple _ values | array _ values =>
    exact (inferExprs_alike same reorders env values).bind_pure.typed_plain
  | cast origin value ty =>
    exact (AlikeBy.bind (inferExpr_alike same reorders env false value) fun _ =>
      lower_alike same env ty).typed_plain
  | range origin start stop inclusive =>
    exact (AlikeBy.bind (inferOption_alike same reorders env start) fun _ =>
      (inferOption_alike same reorders env stop).bind_pure).typed_plain
  | structLit origin path inits base =>
    refine (AlikeBy.bind (inferInits_alike same reorders env inits) fun _ =>
      AlikeBy.bind (inferOption_alike same reorders env base) fun _ => ?_).typed_plain
    split
    · exact .pure _
    · exact namedType_alike same path []
  | block block => exact inferBlock_alike same reorders env block
  | letCond origin pat init =>
    refine (AlikeBy.bind (inferExpr_alike same reorders env false init) fun ty => ?_).typed_plain
    cases isCondition with
    | true => exact (bindPattern_alike same ty pat).bind_pure
    | false => exact .pure _
  | ite origin cond onTrue onFalse =>
    have ifTrue := (AlikeBy.bind (inferExpr_alike same reorders env true cond) fun _ =>
      inferBlock_alike same reorders env onTrue).inScope
    cases onFalse with
    | none => exact ifTrue.bind_pure.typed_plain
    | some onFalse =>
      exact (AlikeBy.bind ifTrue fun _ =>
        (inferExpr_alike same reorders env false onFalse).bind_pure).typed_plain
  | whileLoop origin cond body header label =>
    exact (AlikeBy.bind (inferExpr_alike same reorders env true cond) fun _ =>
      (inferBlock_alike same reorders env body).bind_pure).inScope.bind_pure.typed_plain
  | loop origin body label =>
    exact (inferBlock_alike same reorders env body).bind_pure.typed_plain
  | forLoop origin pat iter body label =>
    exact (AlikeBy.bind (inferExpr_alike same reorders env false iter) fun ty =>
      (AlikeBy.bind (bindPattern_alike same (elementType ty) pat) fun _ =>
        (inferBlock_alike same reorders env body).bind_pure).inScope.bind_pure).typed_plain
  | matchArms origin scrutinee arms =>
    exact (AlikeBy.bind (inferExpr_alike same reorders env false scrutinee) fun ty =>
      inferArms_alike same reorders env ty .unknown arms).typed_plain
  | closure origin params body ret isMove =>
    exact (AlikeBy.bind (bindParams_alike same env params) fun _ =>
      (inferExpr_alike same reorders env false body).bind_pure).inScope.bind_pure.typed_plain
  | breakLoop origin label value | returnFn origin value =>
    exact (inferOption_alike same reorders env value).bind_pure.typed_plain
  | continueLoop origin label => exact (AlikeBy.pure _).typed_plain

theorem inferOption_alike (same : MethodTable.SameEntries order table table')
    (reorders : Reorders order) (env : TypeEnv) (value? : Option Expr) :
    Alike (inferOption table env value?)
      (inferOption table' env (Expr.rearranged? order value?)) := by
  cases value? with
  | none => exact .pure _
  | some value => exact inferExpr_alike same reorders env false value

theorem inferExprs_alike (same : MethodTable.SameEntries order table table')
    (reorders : Reorders order) (env : TypeEnv) (values : List Expr) :
    Alike (inferExprs table env values)
      (inferExprs table' env (Expr.rearrangedAll order values)) := by
  cases values with
  | nil => exact .pure _
  | cons value values =>
    exact .bind (inferExpr_alike same reorders env false value) fun _ =>
      (inferExprs_alike same reorders env values).bind_pure

theorem inferInits_alike (same : MethodTable.SameEntries order table table')
    (reorders : Reorders order) (env : TypeEnv) (inits : List FieldInit) :
    Alike (inferInits table env inits)
      (inferInits table' env (FieldInit.rearrangedAll order inits)) := by
  cases inits with
  | nil => exact .pure _
  | cons init inits =>
    obtain ⟨name, value⟩ := init
    exact .bind (inferExpr_alike same reorders env false value) fun _ =>
      inferInits_alike same reorders env inits

theorem inferArms_alike (same : MethodTable.SameEntries order table table')
    (reorders : Reorders order) (env : TypeEnv) (scrutinee result : SemTy) (arms : List Arm) :
    Alike (inferArms table env scrutinee result arms)
      (inferArms table' env scrutinee result (Arm.rearrangedAll order arms)) := by
  cases arms with
  | nil => exact .pure _
  | cons arm arms =>
    obtain ⟨origin, pat, guard, body⟩ := arm
    exact .bind (AlikeBy.bind (bindPattern_alike same scrutinee pat) fun _ =>
      AlikeBy.bind (inferOption_alike same reorders env guard) fun _ =>
        inferExpr_alike same reorders env false body).inScope fun _ =>
          inferArms_alike same reorders env scrutinee _ arms

theorem inferBlock_alike (same : MethodTable.SameEntries order table table')
    (reorders : Reorders order) (env : TypeEnv) (block : Block) :
    Alike (inferBlock table env block) (inferBlock table' env (block.rearranged order)) := by
  obtain ⟨origin, stmts, tail, isUnsafe⟩ := block
  have inner := inferStmts_alike same reorders env stmts
  cases tail with
  | none => exact inner.bind_pure.inScope.typed_plain
  | some value =>
    exact (AlikeBy.bind inner fun _ =>
      inferExpr_alike same reorders env false value).inScope.typed_plain

theorem inferStmts_alike (same : MethodTable.SameEntries order table table')
    (reorders : Reorders order) (env : TypeEnv) (stmts : List Stmt) :
    Alike (inferStmts table env stmts)
      (inferStmts table' env (Stmt.rearrangedAll order stmts)) := by
  cases stmts with
  | nil => exact .pure _
  | cons stmt stmts =>
    exact .bind (inferStmt_alike same reorders env stmt) fun _ =>
      inferStmts_alike same reorders env stmts

theorem inferStmt_alike (same : MethodTable.SameEntries order table table')
    (reorders : Reorders order) (env : TypeEnv) (stmt : Stmt) :
    Alike (inferStmt table env stmt) (inferStmt table' env (stmt.rearranged order)) := by
  cases stmt with
  | letStmt origin pat ty init els =>
    have initial := inferOption_alike same reorders env init
    cases els with
    | none =>
      exact .bind initial fun _ => AlikeBy.bind (lower?_alike same env ty) fun _ =>
        bindPattern_alike same _ pat
    | some els =>
      exact .bind initial fun _ => AlikeBy.bind (lower?_alike same env ty) fun _ =>
        AlikeBy.bind (inferBlock_alike same reorders env els) fun _ => bindPattern_alike same _ pat
  | expr origin value semi => exact (inferExpr_alike same reorders env false value).bind_pure
  | item origin item => exact inferItem_alike same reorders [] item

theorem inferItem_alike (same : MethodTable.SameEntries order table table')
    (reorders : Reorders order) (env : TypeEnv) (item : Item) :
    Alike (inferItem table env item) (inferItem table' env (item.rearranged order)) := by
  cases item with
  | fnDef origin name generics params ret body attrs =>
    cases body with
    | none => exact .pure _
    | some body =>
      exact (AlikeBy.bind (bindParams_alike same _ params) fun _ =>
        (inferBlock_alike same reorders _ body).bind_pure).inBody
  | constItem origin name ty value attrs =>
    cases value with
    | none => exact .pure _
    | some value => exact (inferExpr_alike same reorders env false value).bind_pure.inBody
  | implBlock origin generics selfTy traitRef items attrs =>
    exact .bind (lower_alike same _ selfTy) fun _ => (inferItems_alike same reorders _ items).1
  | traitDef origin name generics items attrs => exact (inferItems_alike same reorders _ items).1
  | modDef origin name items attrs =>
    -- Item by item first, then from the old order to the new one.
    obtain ⟨inOrder, each⟩ := inferItems_alike same reorders [] items
    exact inOrder.trans (inferItems_perm (reorders origin.id _).symm each)
  | structDef | enumDef | typeAlias | useDecl | macroItem => exact .pure _

/-- Rearranged items are inferred alike, and each of them is like itself. -/
theorem inferItems_alike (same : MethodTable.SameEntries order table table')
    (reorders : Reorders order) (env : TypeEnv) (items : List Item) :
    Alike (inferItems table env items) (inferItems table' env (Item.rearrangedAll order items)) ∧
      ∀ item ∈ Item.rearrangedAll order items,
        Alike (inferItem table' env item) (inferItem table' env item) := by
  cases items with
  | nil => exact ⟨.pure _, fun _ member => absurd member not_mem_nil⟩
  | cons item items =>
    have first := inferItem_alike same reorders env item
    obtain ⟨inOrder, each⟩ := inferItems_alike same reorders env items
    exact ⟨.bind first fun _ => inOrder, forall_mem_cons.mpr ⟨first.symm.trans first, each⟩⟩

end

/-! ## The tables of a crate -/

/-- Inferences that say the same about every node, and that both or neither found a fault. -/
structure SameInference (inference inference' : Inference) : Prop where
  types : ∀ id, inference'.tables.type? id = inference.tables.type? id
  callees : ∀ id, inference'.tables.resolver.callee id = inference.tables.resolver.callee id
  bindings : ∀ id, inference'.tables.resolver.binding id = inference.tables.resolver.binding id
  fault : inference'.fault?.isSome = inference.fault?.isSome

/-- Entries in another order are looked up alike where no key comes up twice. -/
theorem lookup_of_perm {α : Type} {entries entries' : List (Nat × α)}
    (distinct : (entries.map Prod.fst).Nodup) (same : entries ~ entries') (key : Nat) :
    entries'.lookup key = entries.lookup key := by
  have unchanged : entries' ~ entries.map fun entry => (entry.1, id entry.2) :=
    same.symm.trans (.of_eq entries.map_id.symm)
  rw [lookup_of_perm_map distinct unchanged key, Option.map_id_apply]

/-- A rearranged crate is inferred alike. -/
theorem inferCrate_rearranged (reorders : Reorders order) {crate : Crate}
    (distinct : (crate.walk.map Node.id).Nodup)
    (distinctNames : (MethodTable.ofCrate crate).DistinctNames) :
    SameInference (inferCrate crate) (inferCrate (crate.rearranged order)) := by
  have same := MethodTable.sameEntries reorders distinctNames
  obtain ⟨inOrder, each⟩ := inferItems_alike same reorders [] crate.items
  obtain ⟨run, run', runs, runs', sameRun, owes⟩ :=
    inOrder.trans (inferItems_perm (reorders crate.origin.id _).symm each) []
  -- Nothing is written down before, so the tables are what the runs write down.
  obtain ⟨-, -, types, callees, bindings, fault⟩ := runs {} rfl
  obtain ⟨-, -, types', callees', bindings', fault'⟩ := runs' {} rfl
  rw [append_nil] at types callees bindings types' callees' bindings'
  have typesOnce : (run.types.map Prod.fst).Nodup := types ▸ types_nodup distinct
  -- All that has a callee has a type, and nothing is owed at the end.
  have calleesOnce : (run.callees.map Prod.fst).Nodup := by
    obtain ⟨keys, listed, part⟩ := owes
    exact listed.nodup_iff.mp (typesOnce.sublist part)
  have bindingsOnce : (run.bindings.map Prod.fst).Nodup := by
    have once := (answers_nodup distinct).sublist (bindingsOf_sublist crate.answers)
    exact bindings ▸ ((inferCrate_bindings crate).map Prod.fst).nodup_iff.mpr once
  refine ⟨?_, ?_, ?_, ?_⟩
  · have entries := lookup_of_perm typesOnce sameRun.types
    rw [← types, ← types'] at entries
    exact entries
  · have entries := lookup_of_perm calleesOnce sameRun.callees
    rw [← callees, ← callees'] at entries
    exact entries
  · have entries := lookup_of_perm bindingsOnce sameRun.bindings
    rw [← bindings, ← bindings'] at entries
    exact entries
  · exact fault'.trans (sameRun.isFaulty ▸ fault.symm)

/-! ## Declarations have no order -/

/-- What a crate declares is what sits at its root, in declared modules and in blocks, each item once
and no member of an implementation or a trait.  Where no name is declared twice, the order in which
the crate and its modules declare it is not seen. -/
theorem declarations_unordered {source : SourceFile} {crate : Crate}
    (parsed : source.parse = .ok crate) :
    (∀ item, item ∈ Declarations.declaredItems crate ↔ Declarations.Declared crate item) ∧
      ((Declarations.declaredItems crate).map fun item => item.origin.id).Nodup ∧
      (∀ owner, Node.item owner ∈ crate.walk → ∀ item ∈ Declarations.members owner,
        item ∉ Declarations.declaredItems crate) ∧
      ∀ order, Reorders order → (MethodTable.ofCrate crate).DistinctNames →
        (MethodTable.ofCrate crate).SameAnswers (MethodTable.ofCrate (crate.rearranged order)) ∧
          SameInference (inferCrate crate) (inferCrate (crate.rearranged order)) := by
  have distinct := SourceFile.parse_distinct parsed
  refine ⟨fun _ => Declarations.mem_declaredItems_iff, Declarations.declaredItems_nodup distinct,
    ?_, ?_⟩
  · intro owner walked item member
    exact Declarations.not_declared_of_member distinct walked member
  · intro order reorders distinctNames
    exact ⟨(MethodTable.sameEntries reorders distinctNames).sameAnswers,
      inferCrate_rearranged reorders distinct distinctNames⟩

/-- The order from the last item to the first. -/
def backwards : Order := fun _ items => items.reverse

/-- A file with items in a module and in a block, and with methods. -/
def orderFile : SourceFile := ⟨"order.rs",
  ("mod m \x7b struct S; impl S \x7b fn n(&self) \x7b\x7d \x7d \x7d " ++
    "fn f(s: S) \x7b struct B; s.n() \x7d").toList⟩

theorem declarations_unordered_orderFile : ∃ crate, orderFile.parse = .ok crate ∧
    Reorders backwards ∧ (MethodTable.ofCrate crate).DistinctNames ∧
    (crate.rearranged backwards).items.map Item.origin ≠ crate.items.map Item.origin ∧
    (MethodTable.ofCrate crate).SameAnswers (MethodTable.ofCrate (crate.rearranged backwards)) ∧
    SameInference (inferCrate crate) (inferCrate (crate.rearranged backwards)) := by
  have evaluated : orderFile.crateNoted?.any (fun crate =>
      let table := MethodTable.ofCrate crate
      decide (table.decls.structs.map Prod.fst).Nodup &&
        decide (table.decls.aliases.map Prod.fst).Nodup &&
        decide (table.decls.uses.map Prod.fst).Nodup &&
        decide (table.decls.fns.map Prod.fst).Nodup &&
        decide (table.decls.consts.map Prod.fst).Nodup &&
        decide (table.inherent.map Prod.fst).Nodup &&
        decide (table.traitMethods.map Prod.fst).Nodup &&
        decide ((crate.rearranged backwards).items.map Item.origin ≠ crate.items.map Item.origin)) =
          true := by decide +kernel
  obtain ⟨crate, parsed, checked⟩ := SourceFile.parse_of_noted evaluated
  simp only [Bool.and_eq_true, decide_eq_true_eq] at checked
  obtain ⟨⟨⟨⟨⟨⟨⟨structs, aliases⟩, uses⟩, fns⟩, consts⟩, inherent⟩, traitMethods⟩, moved⟩ := checked
  have reorders : Reorders backwards := fun _ items => reverse_perm items
  have distinct : (MethodTable.ofCrate crate).DistinctNames :=
    ⟨⟨structs, aliases, uses, fns, consts⟩, inherent, traitMethods⟩
  obtain ⟨_, _, _, unordered⟩ := declarations_unordered parsed
  obtain ⟨answers, inference⟩ := unordered backwards reorders distinct
  exact ⟨crate, parsed, reorders, distinct, moved, answers, inference⟩

/-- A file in which an implementation has a module. -/
def memberModuleFile : SourceFile :=
  ⟨"member.rs", "struct S; impl S \x7b mod m \x7b struct X; \x7d \x7d".toList⟩

/-- The items of a module that are not taken up, by their numbers. -/
def undeclared (crate : Crate) : Node → List Item
  | .item (.modDef _ _ items _) => items.filter fun item =>
    !((Declarations.declaredItems crate).map fun declared => declared.origin.id).contains
      item.origin.id
  | _ => []

/-- A module that is the member of an implementation is not taken up, and nothing that sits in it. -/
theorem not_declared_memberModuleFile : ∃ crate origin name items attrs,
    memberModuleFile.parse = .ok crate ∧
      Node.item (.modDef origin name items attrs) ∈ crate.walk ∧
      ∃ item ∈ items, item ∉ Declarations.declaredItems crate := by
  have evaluated : memberModuleFile.crateNoted?.any (fun crate =>
      crate.walk.any fun node => (undeclared crate node).any fun _ => true) = true := by
    decide +kernel
  obtain ⟨crate, parsed, checked⟩ := SourceFile.parse_of_noted evaluated
  obtain ⟨node, walked, checked⟩ := any_eq_true.mp checked
  obtain ⟨item, listed, _⟩ := any_eq_true.mp checked
  unfold undeclared at listed
  split at listed
  · next origin name items attrs =>
    obtain ⟨member, missing⟩ := mem_filter.mp listed
    refine ⟨crate, origin, name, items, attrs, parsed, walked, item, member, fun declared => ?_⟩
    have found := mem_map_of_mem (f := fun item => item.origin.id) declared
    simp [found] at missing
  · cases listed

end DrainLint.Typing
