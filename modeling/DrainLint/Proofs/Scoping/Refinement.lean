import DrainLint.Proofs.Scoping.Lexical
import DrainLint.Proofs.Typing.Completeness
import Mathlib.Data.List.Perm.Basic

/-! # The scopes of the inference

The inference keeps one stack of scopes, which constructs push to and pop from and which bodies put
aside.  What it finds there for a name is what lexical scoping gives.

- `extend`: what declarations do to a stack;
- `Visits`: a step that visits some code, declares variables and notes what names refer to;
- `inferExpr_visits` and the theorems beside it: each step does so for the code that it infers;
- `binding_eq_lexical`: the bindings of a crate are the answers of lexical scoping.
-/

namespace DrainLint.Typing

open Hir Check List

variable {α β : Type} {table : MethodTable}

/-! ## Stacks of scopes -/

/-- The variables of a scope without their types. -/
def Scope.visible (scope : Scope) : Visible := scope.map fun entry => (entry.1, entry.2.id)

/-- The open scopes from the inside out, without types. -/
def State.stack (state : State) : List Visible := state.scopes.map Scope.visible

/-- Declares variables in the innermost scope. -/
def extend (binders : Visible) : List Visible → List Visible
  | [] => if binders.isEmpty then [] else [binders]
  | scope :: outer => (binders ++ scope) :: outer

@[simp] theorem extend_nil (stack : List Visible) : extend [] stack = stack := by
  cases stack <;> rfl

theorem extend_extend (later earlier : Visible) (stack : List Visible) :
    extend later (extend earlier stack) = extend (later ++ earlier) stack := by
  cases stack with
  | nil => cases earlier <;> simp [extend]
  | cons scope outer => simp [extend]

/-- What is declared stands in front of what was visible. -/
@[simp] theorem flatten_extend (binders : Visible) (stack : List Visible) :
    (extend binders stack).flatten = binders ++ stack.flatten := by
  cases stack with
  | nil => cases binders <;> simp [extend]
  | cons scope outer => simp [extend]

theorem lookup_visible (name : String) (scope : Scope) :
    scope.visible.lookup name = (List.lookup name scope).map Local.id := by
  induction scope with
  | nil => rfl
  | cons entry scope inductionHypothesis =>
    rw [Scope.visible, List.map_cons, List.lookup_cons, List.lookup_cons]
    cases name == entry.1 with
    | true => rfl
    | false => exact inductionHypothesis

/-- The first scope that has a name is where the name first comes up in the whole stack. -/
theorem lookup_stack (name : String) (scopes : List Scope) :
    (scopes.map Scope.visible).flatten.lookup name =
      (scopes.findSome? fun scope => List.lookup name scope).map Local.id := by
  induction scopes with
  | nil => rfl
  | cons scope scopes inductionHypothesis =>
    rw [List.map_cons, List.flatten_cons, List.lookup_append, lookup_visible, inductionHypothesis,
      List.findSome?_cons]
    cases List.lookup name scope <;> rfl

/-! ## Steps that visit code -/

/-- The bindings in answers, one for each name that refers to a variable. -/
def bindingsOf (answers : List (Nat × Option Nat)) : List (Nat × Nat) :=
  answers.filterMap fun answer => answer.2.map fun binding => (answer.1, binding)

theorem bindingsOf_append (first second : List (Nat × Option Nat)) :
    bindingsOf (first ++ second) = bindingsOf first ++ bindingsOf second :=
  List.filterMap_append

/-- Some code that sees the same. -/
def alike (nodes : List Node) (visible : Visible) : List (Visible × Node) :=
  nodes.map fun node => (visible, node)

/-- A step that visits code, given what is visible to it, and declares variables: it notes the
bindings of the names in the code, and leaves the scopes but for these variables as they were. -/
def Visits (parts : Visible → List (Visible × Node)) (binders : Visible) (step : Check α) : Prop :=
  ∀ state, (step.run state).2.stack = extend binders state.stack ∧
    (step.run state).2.tables.bindings ~
      bindingsOf (Node.answersAll (parts state.stack.flatten)) ++ state.tables.bindings

/-- A step that has nothing to do with names. -/
def Aside (step : Check α) : Prop :=
  ∀ state, (step.run state).2.scopes = state.scopes ∧
    (step.run state).2.tables.bindings = state.tables.bindings

namespace Aside

variable {step : Check α}

theorem pure (value : α) : Aside (Pure.pure value : Check α) := fun _ => ⟨rfl, rfl⟩

theorem bind {next : α → Check β} (first : Aside step) (second : ∀ value, Aside (next value)) :
    Aside (step >>= next) := by
  intro state
  obtain ⟨scopes, bindings⟩ := first state
  obtain ⟨scopes', bindings'⟩ := second (step.run state).1 (step.run state).2
  exact ⟨scopes'.trans scopes, bindings'.trans bindings⟩

end Aside

theorem recordType_aside (id : Nat) (ty : SemTy) : Aside (recordType id ty) := fun _ => ⟨rfl, rfl⟩

theorem recordCallee_aside (id : Nat) (path : Path) : Aside (recordCallee id path) :=
  fun _ => ⟨rfl, rfl⟩

theorem noteFault_aside (fault : IndexFault) : Aside (noteFault fault) := fun _ => ⟨rfl, rfl⟩

theorem Quiet.aside {step : Check α} (quiet : Quiet step) : Aside step := by
  intro state
  obtain ⟨tables, scopes, _⟩ := quiet state
  exact ⟨scopes, congrArg Tables.bindings tables⟩

namespace Visits

variable {step : Check α} {next : α → Check β} {parts later : Visible → List (Visible × Node)}
  {binders binders' : Visible} {nodes nodes' : List Node} {node : Node}

theorem aside (aside : Aside step) : Visits (alike []) [] step := by
  intro state
  obtain ⟨scopes, bindings⟩ := aside state
  exact ⟨by rw [State.stack, scopes, extend_nil, State.stack], by rw [bindings]; exact .refl _⟩

theorem pure (value : α) : Visits (alike []) [] (Pure.pure value : Check α) := .aside (.pure value)

theorem bind (first : Visits parts binders step)
    (second : ∀ value, Visits later binders' (next value)) :
    Visits (fun visible => parts visible ++ later (binders ++ visible)) (binders' ++ binders)
      (step >>= next) := by
  intro state
  obtain ⟨stack, bindings⟩ := first state
  obtain ⟨stack', bindings'⟩ := second (step.run state).1 (step.run state).2
  rw [stack, flatten_extend] at bindings'
  refine ⟨stack'.trans (by rw [stack, extend_extend]), bindings'.trans ?_⟩
  -- The later entries stand in front of the earlier ones.
  rw [Node.answersAll_append, bindingsOf_append]
  refine (bindings.append_left _).trans ?_
  rw [← List.append_assoc]
  exact perm_append_comm.append_right _

theorem alike_bind (first : Visits (alike nodes) [] step)
    (second : ∀ value, Visits (alike nodes') binders (next value)) :
    Visits (alike (nodes ++ nodes')) binders (step >>= next) := by
  have both := first.bind second
  simp only [alike, List.nil_append, List.append_nil, ← List.map_append] at both
  exact both

theorem aside_bind (aside : Aside step) (second : ∀ value, Visits parts binders (next value)) :
    Visits parts binders (step >>= next) := by
  have both := (Visits.aside aside).bind second
  rwa [List.append_nil] at both

theorem bind_aside (first : Visits parts binders step) (second : ∀ value, Aside (next value)) :
    Visits parts binders (step >>= next) := by
  have both := first.bind fun value => Visits.aside (second value)
  simp only [alike, List.map_nil, List.append_nil, List.nil_append] at both
  exact both

theorem bind_pure (first : Visits parts binders step) {value : α → β} :
    Visits parts binders (step >>= fun result => Pure.pure (value result)) :=
  first.bind_aside fun _ => .pure _

theorem perm (visits : Visits parts binders step)
    (same : ∀ visible, parts visible ~ later visible) : Visits later binders step := by
  intro state
  obtain ⟨stack, bindings⟩ := visits state
  refine ⟨stack, bindings.trans (Perm.append_right _ ?_)⟩
  exact ((same _).flatMap_right _).filterMap _

theorem typed {id : Nat} {step : Check SemTy} (visits : Visits parts binders step) :
    Visits parts binders (Check.typed id step) :=
  visits.bind_aside fun _ => .bind (recordType_aside _ _) fun _ => .pure _

/-- What is declared in a scope is gone after it. -/
theorem inScope (visits : Visits parts binders step) : Visits parts [] (Check.inScope step) := by
  intro state
  obtain ⟨stack, bindings⟩ := visits { state with scopes := [] :: state.scopes }
  refine ⟨?_, bindings⟩
  have popped := congrArg (List.drop 1) stack
  rw [State.stack, ← List.map_drop] at popped
  exact popped.trans (extend_nil _).symm

/-- A body sees nothing from outside, and nothing of it is seen after it. -/
theorem inBody (visits : Visits parts binders step) :
    Visits (fun _ => parts []) [] (Check.inBody step) := by
  intro state
  obtain ⟨_, bindings⟩ := visits { state with scopes := [[]] }
  exact ⟨(extend_nil _).symm, bindings⟩

/-- A node that is no name, with the code in it. -/
theorem entering (children : ∀ visible, node.parts visible = parts visible)
    (nameless : ∀ visible, node.answer? visible = none) (visits : Visits parts binders step) :
    Visits (alike [node]) binders step := by
  intro state
  obtain ⟨stack, bindings⟩ := visits state
  refine ⟨stack, bindings.trans (.of_eq ?_)⟩
  simp [alike, Node.answers_eq, nameless, children]

/-- Items see nothing from outside. -/
theorem outer {items : List Item} (visits : Visits (alike (items.map .item)) binders step) :
    Visits (fun _ => alike (items.map .item) []) binders step := by
  intro state
  obtain ⟨stack, bindings⟩ := visits state
  refine ⟨stack, bindings.trans (.of_eq ?_)⟩
  simp [alike, Node.answersAll, List.flatMap_map, Node.answers_item state.stack.flatten]

end Visits

/-! ## Variables -/

theorem declare_visits (name : String) (known : Local) :
    Visits (alike []) [(name, known.id)] (declare name known) := by
  intro state
  obtain ⟨tables, scopes, notes, fault?⟩ := state
  cases scopes with
  | nil => exact ⟨rfl, .refl _⟩
  | cons scope outer => exact ⟨rfl, .refl _⟩

mutual

theorem bindPattern_visits (table : MethodTable) (ty : SemTy) (pat : Pat) :
    Visits (alike []) pat.binders (bindPattern table ty pat) := by
  cases pat with
  | binding origin name isMut byRef sub =>
    cases sub with
    | none =>
      rw [Pat.binders]
      exact (declare_visits name _).bind_aside fun _ => .pure _
    | some sub =>
      rw [Pat.binders]
      exact (declare_visits name _).bind fun _ => bindPattern_visits table ty sub
  | ref origin isMut inner =>
    rw [Pat.binders]
    exact bindPattern_visits table _ inner
  | tuple _ elems | tupleStruct _ _ elems | slice _ elems | or _ elems =>
    rw [Pat.binders]
    exact bindPatterns_visits table _ elems
  | wild | rest | struct | path | lit =>
    rw [Pat.binders]
    exact .pure _

theorem bindPatterns_visits (table : MethodTable) (tys : List SemTy) (pats : List Pat) :
    Visits (alike []) (Pat.bindersAll pats) (bindPatterns table tys pats) := by
  cases pats with
  | nil => exact .pure _
  | cons pat pats =>
    rw [Pat.bindersAll]
    exact (bindPattern_visits table _ pat).bind fun _ => bindPatterns_visits table _ pats

end

theorem bindParams_visits (table : MethodTable) (env : TypeEnv) (params : List Param) :
    Visits (alike []) (Param.bindersAll params) (bindParams table env params) := by
  induction params with
  | nil => exact .pure _
  | cons param params inductionHypothesis =>
    obtain ⟨origin, pat, ty⟩ := param
    rw [Param.bindersAll, List.map_cons, Pat.bindersAll]
    exact .aside_bind (lower?_quiet table env ty).aside fun _ =>
      (bindPattern_visits table _ pat).bind fun _ => inductionHypothesis

/-! ## Names -/

theorem findLocal_run (name : String) (next : Option Local → Check α) (state : State) :
    (findLocal name >>= next).run state =
      (next (state.scopes.findSome? fun scope => List.lookup name scope)).run state := rfl

theorem answersAll_path (visible : Visible) (origin : Origin) (name : String)
    (genericArgs : List Ty) :
    Node.answersAll (alike [.expr (.path origin [name] genericArgs)] visible) =
      [(origin.id, visible.lookup name)] := by
  simp [alike, Node.answers_eq, Node.answer?, Node.parts_path]

/-- A step that looks a name up notes what lexical scoping answers, whatever it goes on with. -/
theorem findLocal_visits {origin : Origin} {name : String} {genericArgs : List Ty}
    {found : Local → α} {other : Check α} (aside : Aside other) :
    Visits (alike [.expr (.path origin [name] genericArgs)]) [] (do
      match ← findLocal name with
      | some known =>
        recordBinding origin.id known.id
        return found known
      | none => other) := by
  intro state
  have answer := lookup_stack name state.scopes
  rw [findLocal_run, answersAll_path, State.stack, State.stack, extend_nil, answer]
  cases state.scopes.findSome? fun scope => List.lookup name scope with
  | none =>
    obtain ⟨scopes, bindings⟩ := aside state
    exact ⟨by rw [scopes], by rw [bindings]; exact .refl _⟩
  | some known => exact ⟨rfl, .refl _⟩

/-- A path of several segments is no name of a variable. -/
theorem longPath_visits {step : Check α} {origin : Origin} {segments : Path} {genericArgs : List Ty}
    (longer : ∀ name, segments ≠ [name]) (aside : Aside step) :
    Visits (alike [.expr (.path origin segments genericArgs)]) [] step := by
  refine .entering (fun visible => Node.parts_path visible ..) (fun visible => ?_) (.aside aside)
  unfold Node.answer?
  split
  · next same =>
    cases same
    exact absurd rfl (longer _)
  · rfl

theorem pathType_visits (env : TypeEnv) (origin : Origin) (segments : Path)
    (genericArgs : List Ty) :
    Visits (alike [.expr (.path origin segments genericArgs)]) []
      (pathType table env origin.id segments) := by
  unfold pathType
  split
  · exact findLocal_visits (constantType_quiet table env _).aside
  · next longer => exact longPath_visits longer (.pure _)

theorem pathCallee?_visits (env : TypeEnv) (origin : Origin) (segments : Path)
    (genericArgs : List Ty) (args : List SemTy) :
    Visits (alike [.expr (.path origin segments genericArgs)]) []
      (pathCallee? table env origin.id segments genericArgs args) := by
  unfold pathCallee?
  split
  · exact findLocal_visits (.pure _)
  · next longer =>
    refine longPath_visits longer (.bind (ownerType_quiet table env _ _).aside fun owner => ?_)
    split <;> exact .pure _

theorem methodType_aside (env : TypeEnv) (id : Nat) (receiver : SemTy) (method : String)
    (genericArgs : List Ty) : Aside (methodType table env id receiver method genericArgs) := by
  unfold methodType
  split
  · exact .pure _
  · refine .bind (resultType_quiet table _).aside fun _ => ?_
    refine .bind (recordCallee_aside _ _) fun _ => ?_
    split
    · split
      · exact (lower_quiet table env _).aside
      · exact .pure _
    · exact .pure _

theorem fieldType_aside (base : SemTy) (name : String) : Aside (fieldType table base name) := by
  unfold fieldType
  split
  · exact .bind (noteFault_aside _) fun _ => .pure _
  · exact .pure _
  · exact (resultType_quiet table _).aside

/-- What is done with the function that a path calls, if it calls one. -/
theorem callee_aside (id pathId : Nat) (callee? : Option Callee) : Aside (do
    recordType pathId .unknown
    match callee? with
    | none => return .unknown
    | some callee =>
      recordCallee id callee.path
      resultType table callee.result) := by
  refine .bind (recordType_aside _ _) fun _ => ?_
  cases callee? with
  | none => exact .pure _
  | some callee => exact .bind (recordCallee_aside _ _) fun _ => (resultType_quiet table _).aside

/-! ## The inference, node by node -/

/-- The variables that an expression binds where it is inferred: a `let` binds as a condition
only. -/
def bindersAt (isCondition : Bool) : Expr → Visible
  | .letCond _ pat _ => if isCondition then pat.binders else []
  | _ => []

theorem bindersAt_false (value : Expr) : bindersAt false value = [] := by
  cases value <;> rfl

theorem bindersAt_true (cond : Expr) : bindersAt true cond = cond.binders := by
  cases cond <;> rfl

theorem Visits.plain {parts : Visible → List (Visible × Node)} {value : Expr} {step : Check α}
    (visits : Visits parts (bindersAt false value) step) : Visits parts [] step := by
  rwa [bindersAt_false] at visits

theorem Visits.condition {parts : Visible → List (Visible × Node)} {cond : Expr} {step : Check α}
    (visits : Visits parts (bindersAt true cond) step) : Visits parts cond.binders step := by
  rwa [bindersAt_true] at visits

attribute [local simp] alike Node.answer? Node.parts Node.codeChildren Node.children_eq Node.fields
  Node.isCode List.filter_map List.filter_cons Function.comp_def

-- The recursion is that of the inference.  Only the constructs that bind variables have parts which
-- see more than the others do.
mutual

theorem inferExpr_visits (env : TypeEnv) (isCondition : Bool) (value : Expr) :
    Visits (alike [.expr value]) (bindersAt isCondition value)
      (inferExpr table env isCondition value) := by
  cases value with
  | lit origin value suffix => exact .entering (by simp) (by simp) (Visits.pure _).typed
  | path origin segments genericArgs => exact (pathType_visits env origin segments _).typed
  | methodCall origin receiver method args span genericArgs =>
    exact .entering (by simp [← List.map_eq_flatMap]) (by simp)
      (Visits.alike_bind (inferExpr_visits env false receiver).plain fun _ =>
        (inferExprs_visits env args).bind_aside fun _ => methodType_aside env _ _ _ _).typed
  | call origin func args =>
    have children (visible : Visible) : (Node.expr (.call origin func args)).parts visible =
        alike (.expr func :: args.map .expr) visible := by
      simp [← List.map_eq_flatMap]
    -- The arguments are inferred before the function, which the code has first.
    have swapped (visible : Visible) : alike (args.map .expr ++ [.expr func]) visible ~
        alike (.expr func :: args.map .expr) visible := perm_append_comm.map _
    refine .entering children (by simp) ?_
    cases func with
    | path pathOrigin segments genericArgs =>
      exact (Visits.perm (Visits.alike_bind (inferExprs_visits env args) fun argTys =>
        (pathCallee?_visits env pathOrigin segments genericArgs argTys).bind_aside
          (callee_aside _ _)) swapped).typed
    | _ =>
      exact (Visits.perm (Visits.alike_bind (inferExprs_visits env args) fun _ =>
        (inferExpr_visits env false _).plain.bind_pure) swapped).typed
  | field origin base name =>
    exact .entering (by simp) (by simp)
      ((inferExpr_visits env false base).plain.bind_aside fun _ => fieldType_aside _ _).typed
  | unary _ _ value | addrOf _ _ value | question _ value =>
    exact .entering (by simp) (by simp) (inferExpr_visits env false value).plain.bind_pure.typed
  | index _ first second | binary _ _ first second | arrayRepeat _ first second =>
    exact .entering (by simp) (by simp)
      (Visits.alike_bind (inferExpr_visits env false first).plain fun _ =>
        (inferExpr_visits env false second).plain.bind_pure).typed
  | macroCall _ _ values _ _ | tuple _ values | array _ values =>
    exact .entering (by simp [← List.map_eq_flatMap]) (by simp)
      (inferExprs_visits env values).bind_pure.typed
  | assign origin target value op =>
    -- The operator is a field of the node but no code.
    exact .entering (by cases op <;> simp) (by simp)
      (Visits.alike_bind (inferExpr_visits env false target).plain fun _ =>
        (inferExpr_visits env false value).plain.bind_pure).typed
  | cast origin value ty =>
    exact .entering (by simp) (by simp)
      ((inferExpr_visits env false value).plain.bind_aside fun _ =>
        (lower_quiet table env ty).aside).typed
  | range origin start stop inclusive =>
    exact .entering (by simp [← List.map_eq_flatMap]) (by simp)
      (Visits.alike_bind (inferOption_visits env start) fun _ =>
        (inferOption_visits env stop).bind_pure).typed
  | structLit origin path inits base =>
    exact .entering (by simp [← List.map_eq_flatMap]) (by simp)
      (Visits.alike_bind (inferInits_visits env inits) fun _ =>
        (inferOption_visits env base).bind_aside fun _ =>
          (literalType_quiet table env path).aside).typed
  | block block => exact inferBlock_visits env block
  | letCond origin pat init =>
    have inner : Visits (alike [.expr init]) [] (inferExpr table env false init) :=
      (inferExpr_visits env false init).plain
    cases isCondition with
    | true =>
      exact .entering (by simp) (by simp)
        (Visits.alike_bind inner fun ty => (bindPattern_visits table ty pat).bind_pure).typed
    | false => exact .entering (by simp) (by simp) inner.bind_pure.typed
  | ite origin cond onTrue onFalse =>
    have inner : Visits (fun visible => [(visible, .expr cond),
        (cond.binders ++ visible, .expr (.block onTrue))]) [] (Check.inScope do
          let _ ← inferExpr table env true cond
          inferBlock table env onTrue) :=
      ((inferExpr_visits env true cond).condition.bind fun _ =>
        inferBlock_visits env onTrue).inScope
    cases onFalse with
    | none => exact .entering (by simp) (by simp) inner.bind_pure.typed
    | some onFalse =>
      exact .entering (by simp) (by simp)
        (inner.bind fun _ => (inferExpr_visits env false onFalse).plain.bind_pure).typed
  | whileLoop origin cond body header label =>
    exact .entering (by simp) (by simp)
      ((inferExpr_visits env true cond).condition.bind fun _ =>
        (inferBlock_visits env body).bind_pure).inScope.bind_pure.typed
  | loop origin body label =>
    exact .entering (by simp) (by simp) (inferBlock_visits env body).bind_pure.typed
  | forLoop origin pat iter body label =>
    exact .entering (by simp) (by simp)
      ((inferExpr_visits env false iter).plain.bind fun ty =>
        ((bindPattern_visits table (elementType ty) pat).bind fun _ =>
          (inferBlock_visits env body).bind_pure).inScope.bind_pure).typed
  | matchArms origin scrutinee arms =>
    exact .entering (by simp [← List.map_eq_flatMap]) (by simp)
      (Visits.alike_bind (inferExpr_visits env false scrutinee).plain fun ty =>
        inferArms_visits env ty .unknown arms).typed
  | closure origin params body ret isMove =>
    exact .entering (by simp) (by simp)
      ((bindParams_visits table env params).bind fun _ =>
        (inferExpr_visits env false body).plain.bind_pure).inScope.bind_pure.typed
  | breakLoop origin label value | returnFn origin value =>
    exact .entering (by simp [← List.map_eq_flatMap]) (by simp)
      (inferOption_visits env value).bind_pure.typed
  | continueLoop origin label => exact .entering (by simp) (by simp) (Visits.pure _).typed

theorem inferOption_visits (env : TypeEnv) (value? : Option Expr) :
    Visits (alike (value?.toList.map .expr)) [] (inferOption table env value?) := by
  cases value? with
  | none => exact .pure _
  | some value => exact (inferExpr_visits env false value).plain

theorem inferExprs_visits (env : TypeEnv) (values : List Expr) :
    Visits (alike (values.map .expr)) [] (inferExprs table env values) := by
  cases values with
  | nil => exact .pure _
  | cons value values =>
    exact Visits.alike_bind (inferExpr_visits env false value).plain fun _ =>
      (inferExprs_visits env values).bind_pure

theorem inferInits_visits (env : TypeEnv) (inits : List FieldInit) :
    Visits (alike (inits.map (.expr ·.value))) [] (inferInits table env inits) := by
  cases inits with
  | nil => exact .pure _
  | cons init inits =>
    obtain ⟨name, value⟩ := init
    exact Visits.alike_bind (inferExpr_visits env false value).plain fun _ =>
      inferInits_visits env inits

theorem inferArms_visits (env : TypeEnv) (scrutinee result : SemTy) (arms : List Arm) :
    Visits (alike (arms.map .arm)) [] (inferArms table env scrutinee result arms) := by
  cases arms with
  | nil => exact .pure _
  | cons arm arms =>
    obtain ⟨origin, pat, guard, body⟩ := arm
    have inArm : Visits (alike [.arm (.mk origin pat guard body)]) [] (Check.inScope do
        bindPattern table scrutinee pat
        let _ ← inferOption table env guard
        inferExpr table env false body) :=
      .entering (by simp) (by simp)
        ((bindPattern_visits table scrutinee pat).bind fun _ =>
          Visits.alike_bind (inferOption_visits env guard) fun _ =>
            (inferExpr_visits env false body).plain).inScope
    exact Visits.alike_bind inArm fun _ => inferArms_visits env _ _ arms

theorem inferBlock_visits (env : TypeEnv) (block : Block) :
    Visits (alike [.expr (.block block)]) [] (inferBlock table env block) := by
  obtain ⟨origin, stmts, tail, isUnsafe⟩ := block
  cases tail with
  | none =>
    exact .entering (by simp) (by simp) (inferStmts_visits env stmts).bind_pure.inScope.typed
  | some value =>
    exact .entering (by simp) (by simp)
      ((inferStmts_visits env stmts).bind fun _ =>
        (inferExpr_visits env false value).plain).inScope.typed

theorem inferStmts_visits (env : TypeEnv) (stmts : List Stmt) :
    Visits (fun visible => Stmt.parts visible stmts) (Stmt.bindersAll stmts)
      (inferStmts table env stmts) := by
  cases stmts with
  | nil => exact .pure _
  | cons stmt stmts =>
    exact (inferStmt_visits env stmt).bind fun _ => inferStmts_visits env stmts

theorem inferStmt_visits (env : TypeEnv) (stmt : Stmt) :
    Visits (alike [.stmt stmt]) stmt.binders (inferStmt table env stmt) := by
  cases stmt with
  | letStmt origin pat ty init els =>
    -- The pattern is bound after all else, so that its variables are seen by later statements only.
    cases els with
    | none =>
      exact .entering (by simp [← List.map_eq_flatMap]) (by simp)
        (Visits.alike_bind (inferOption_visits env init) fun _ =>
          .aside_bind (lower?_quiet table env ty).aside fun _ => bindPattern_visits table _ pat)
    | some els =>
      exact .entering (by simp [← List.map_eq_flatMap]) (by simp)
        (Visits.alike_bind (inferOption_visits env init) fun _ =>
          .aside_bind (lower?_quiet table env ty).aside fun _ =>
            Visits.alike_bind (inferBlock_visits env els) fun _ => bindPattern_visits table _ pat)
  | expr origin value semi =>
    exact .entering (by simp) (by simp) (inferExpr_visits env false value).plain.bind_pure
  | item origin item => exact .entering (by simp) (by simp) (inferItem_visits [] item)

theorem inferItem_visits (env : TypeEnv) (item : Item) :
    Visits (alike [.item item]) [] (inferItem table env item) := by
  cases item with
  | fnDef origin name generics params ret body attrs =>
    cases body with
    | none => exact .entering (by simp) (by simp) (.pure _)
    | some body =>
      exact .entering (by simp) (by simp)
        ((bindParams_visits table _ params).bind fun _ =>
          (inferBlock_visits _ body).bind_pure).inBody
  | constItem origin name ty value attrs =>
    cases value with
    | none => exact .entering (by simp) (by simp) (.pure _)
    | some value =>
      exact .entering (by simp) (by simp) (inferExpr_visits env false value).plain.bind_pure.inBody
  | implBlock origin generics selfTy traitRef items attrs =>
    exact .entering (by simp [← List.map_eq_flatMap]) (by simp)
      (.aside_bind (lower_quiet table _ selfTy).aside fun _ => (inferItems_visits _ items).outer)
  | traitDef origin name generics items attrs =>
    exact .entering (by simp [← List.map_eq_flatMap]) (by simp) (inferItems_visits _ items).outer
  | modDef origin name items attrs =>
    exact .entering (by simp [← List.map_eq_flatMap]) (by simp) (inferItems_visits _ items).outer
  | _ => exact .entering (by simp [← List.map_eq_flatMap]) (by simp) (.pure _)

theorem inferItems_visits (env : TypeEnv) (items : List Item) :
    Visits (alike (items.map .item)) [] (inferItems table env items) := by
  cases items with
  | nil => exact .pure _
  | cons item items =>
    exact Visits.alike_bind (inferItem_visits env item) fun _ => inferItems_visits env items

end

/-! ## The bindings of a crate -/

section

variable {crate : Crate}

/-- The bindings that the inference of a crate notes are the answers that are variables. -/
theorem inferCrate_bindings (crate : Crate) :
    (inferCrate crate).tables.bindings ~ bindingsOf crate.answers := by
  have children : Node.answersAll (alike (crate.items.map .item) []) = crate.answers := by
    simp [Crate.answers, Node.answers_eq, ← List.map_eq_flatMap]
  have visits : Visits (alike (crate.items.map .item)) []
      (inferItems (MethodTable.ofCrate crate) [] crate.items) := inferItems_visits [] crate.items
  obtain ⟨_, bindings⟩ := visits {}
  -- The inference starts with no scope and nothing noted.
  rw [← children, ← List.append_nil (bindingsOf _)]
  exact bindings

theorem answers_nodup (distinct : (crate.walk.map Node.id).Nodup) :
    (crate.answers.map Prod.fst).Nodup :=
  distinct.sublist ((Node.answers_sublist [] _).trans ((Node.code_sublist _).map Node.id))

theorem bindingsOf_sublist (answers : List (Nat × Option Nat)) :
    (bindingsOf answers).map Prod.fst <+ answers.map Prod.fst := by
  induction answers with
  | nil => exact .slnil
  | cons answer answers inductionHypothesis =>
    obtain ⟨id, _ | binding⟩ := answer
    · exact inductionHypothesis.cons id
    · exact inductionHypothesis.cons_cons id

/-- The binding of a name is its answer. -/
theorem binding_of_answer (distinct : (crate.walk.map Node.id).Nodup) {id : Nat}
    {answer : Option Nat} (answered : (id, answer) ∈ crate.answers) :
    (inferCrate crate).tables.resolver.binding id = answer := by
  have once := answers_nodup distinct
  have same := inferCrate_bindings crate
  have unique : ((inferCrate crate).tables.bindings.map Prod.fst).Nodup :=
    (same.map Prod.fst).nodup_iff.mpr (once.sublist (bindingsOf_sublist _))
  show (inferCrate crate).tables.bindings.lookup id = answer
  cases answer with
  | some binding =>
    exact lookup_of_mem unique (same.mem_iff.mpr (List.mem_filterMap.mpr ⟨_, answered, rfl⟩))
  | none =>
    cases found : (inferCrate crate).tables.bindings.lookup id with
    | none => rfl
    | some binding =>
      -- Another answer of the same name would have been given.
      obtain ⟨⟨other, _ | given⟩, answered', made⟩ :=
        List.mem_filterMap.mp (same.mem_iff.mp (mem_of_lookup found))
      · cases made
      · cases made
        cases List.inj_on_of_nodup_map once answered answered' rfl

/-- A file in which a variable is bound twice under one name. -/
def shadowFile : SourceFile := ⟨"shadow.rs", "fn f(v: u8) \x7b let v = v; v; \x7d".toList⟩

/-- Whether a node is a name that the inference has visited and that refers to a variable. -/
def refers (tables : Tables) : Node → Bool
  | .expr (.path origin [_] _) =>
    (tables.type? origin.id).isSome && (tables.resolver.binding origin.id).isSome
  | _ => false

theorem shadowFile_refers : ∃ crate origin name genericArgs, shadowFile.parse = .ok crate ∧
    Node.expr (.path origin [name] genericArgs) ∈ crate.walk ∧
      refers (inferCrate crate).tables (.expr (.path origin [name] genericArgs)) = true := by
  have evaluated : shadowFile.crateNoted?.any
      (fun crate => crate.walk.any (refers (inferCrate crate).tables)) = true := by decide +kernel
  obtain ⟨crate, parsed, checked⟩ := SourceFile.parse_of_noted evaluated
  obtain ⟨node, listed, refersTo⟩ := List.any_eq_true.mp checked
  have shape := refersTo
  unfold refers at shape
  split at shape
  · exact ⟨crate, _, _, _, parsed, listed, refersTo⟩
  · cases shape

/-- Names have the bindings that lexical scoping gives them, to a variable of that name in the same
body or to none. -/
theorem binding_eq_lexical {source : SourceFile} {origin : Origin} {name : String}
    {genericArgs : List Ty} (parsed : source.parse = .ok crate)
    (listed : Node.expr (.path origin [name] genericArgs) ∈ crate.walk)
    (visited : ((inferCrate crate).tables.type? origin.id).isSome = true) :
    crate.answers.lookup origin.id = some ((inferCrate crate).tables.resolver.binding origin.id) ∧
      ∀ binding, (inferCrate crate).tables.resolver.binding origin.id = some binding →
        ∃ binder, binder.binds? = some (name, binding) ∧
          Node.SameBody (.crate crate) (.expr (.path origin [name] genericArgs)) binder := by
  have distinct := SourceFile.parse_distinct parsed
  -- What has a type is code, so lexical scoping comes to the name too.
  obtain ⟨ty, typed⟩ := Option.isSome_iff_exists.mp visited
  have inTypes : origin.id ∈ (inferCrate crate).tables.types.map Prod.fst :=
    List.mem_map.mpr ⟨_, mem_of_lookup typed, rfl⟩
  have inCode := ((typed_iff_inBody distinct listed).mp inTypes).mem_code
  have visitedToo : ∃ answer, (origin.id, answer) ∈ crate.answers := Node.mem_answers_of_code inCode
  obtain ⟨answer, answered⟩ := visitedToo
  rw [binding_of_answer distinct answered]
  refine ⟨lookup_of_mem (answers_nodup distinct) answered, ?_⟩
  rintro binding rfl
  obtain ⟨_, _, _, binder, inCode', sameId, binds, sameBody⟩ :=
    Node.sameBody_of_answers (.inl rfl) (Node.mem_code_self _) answered
  -- The name with this answer has the number of the name, so it is the name.
  cases List.inj_on_of_nodup_map distinct ((Node.code_sublist _).subset inCode') listed sameId
  exact ⟨binder, binds, sameBody⟩

theorem binding_eq_lexical_shadowFile : ∃ crate origin name genericArgs binding,
    shadowFile.parse = .ok crate ∧
      Node.expr (.path origin [name] genericArgs) ∈ crate.walk ∧
      ((inferCrate crate).tables.type? origin.id).isSome = true ∧
      crate.answers.lookup origin.id = some (some binding) ∧
        ∃ binder, binder.binds? = some (name, binding) ∧
          Node.SameBody (.crate crate) (.expr (.path origin [name] genericArgs)) binder := by
  obtain ⟨crate, origin, name, genericArgs, parsed, listed, refersTo⟩ := shadowFile_refers
  obtain ⟨visited, bound⟩ := Bool.and_eq_true_iff.mp refersTo
  obtain ⟨binding, isBinding⟩ := Option.isSome_iff_exists.mp bound
  obtain ⟨answered, sameBody⟩ := binding_eq_lexical parsed listed visited
  exact ⟨crate, origin, name, genericArgs, binding, parsed, listed, visited,
    by rw [answered, isBinding], sameBody binding isBinding⟩

end

end DrainLint.Typing
