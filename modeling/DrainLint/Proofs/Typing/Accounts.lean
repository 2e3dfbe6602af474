import DrainLint.Keyed
import DrainLint.Proofs.Tree.Code
import DrainLint.Proofs.Typing.Written
import Mathlib.Data.List.Perm.Subperm

/-! # The tables of the inference

What the tables say about the expressions of a crate, for every nesting of nodes.

- `Accounts`: entries that account for some code: a type for every expression and no other, every
  callee with its reason, every method call with the type of its receiver, and a field for a fault;
- `inferExpr_infers` and the theorems beside it: each step accounts for the code that it infers;
- `typeOf_of_mem`: the one entry of an expression is its type;
- `typeOf_of_tailless`: the type of a block without a value;
- `callee_grounded`, `callee_of_found`: the table of callees is the look-up of methods on the table
  of types.
-/

namespace DrainLint.Typing

open Hir Check List

variable {table : MethodTable} {written earlier later : Written} {nodes nodes' : List Node}

/-! ## Entries that account for code -/

/-- Why a callee is written down: the method that the type of the receiver has.  Other nodes than
method calls need no reason. -/
def Grounded (table : MethodTable) (written : Written) (path : Path) : Node → Prop
  | .expr (.methodCall _ receiver method _ _ _) =>
    ∃ ty callee, (receiver.origin.id, ty) ∈ written.types ∧
      table.findMethod? ty method = some callee ∧ callee.path = path
  | _ => True

/-- What is written down about a method call: the type of the receiver and, where that has the
method, the callee and what it comes to.  About a block without a value: the type of no value. -/
def Recorded (table : MethodTable) (written : Written) : Node → Prop
  | .expr (.methodCall origin receiver method _ _ _) =>
    ∃ ty, (receiver.origin.id, ty) ∈ written.types ∧
      ∀ callee, table.findMethod? ty method = some callee →
        (origin.id, callee.path) ∈ written.callees ∧
          (method ≠ "collect" → (origin.id, table.resultType callee.result) ∈ written.types)
  | .expr (.block (.mk origin _ none _)) => (origin.id, .unit) ∈ written.types
  | _ => True

/-- What the inference cannot go on from: a field of a tuple whose digits are no number. -/
def FaultyField (fault : IndexFault) : Node → Prop
  | .expr (.field _ _ name) => tupleIndex? name = .error fault
  | _ => False

/-- Entries that account for some code. -/
structure Accounts (table : MethodTable) (nodes : List Node) (written : Written) : Prop where
  types : written.types.map Prod.fst ~ (nodes.filter Node.isExpr).map Node.id
  callees : ∀ entry ∈ written.callees, ∃ node ∈ nodes, node.id = entry.1 ∧
    Grounded table written entry.2 node
  calls : ∀ node ∈ nodes, Recorded table written node
  faults : ∀ fault, written.fault? = some fault → ∃ node ∈ nodes, FaultyField fault node

/-- Entries of which others are a part. -/
structure Within (part whole : Written) : Prop where
  types : part.types ⊆ whole.types
  callees : part.callees ⊆ whole.callees

theorem Grounded.within {whole : Written} {path : Path} {node : Node}
    (grounded : Grounded table written path node) (within : Within written whole) :
    Grounded table whole path node := by
  unfold Grounded at grounded ⊢
  split
  · obtain ⟨ty, callee, typed, found⟩ := grounded
    exact ⟨ty, callee, within.types typed, found⟩
  · trivial

theorem Recorded.within {whole : Written} {node : Node}
    (recorded : Recorded table written node) (within : Within written whole) :
    Recorded table whole node := by
  unfold Recorded at recorded ⊢
  split
  · obtain ⟨ty, typed, calls⟩ := recorded
    refine ⟨ty, within.types typed, ?_⟩
    intro callee found
    obtain ⟨called, returned⟩ := calls callee found
    exact ⟨within.callees called, fun other => within.types (returned other)⟩
  · exact within.types recorded
  · trivial

namespace Accounts

theorem nothing : Accounts table [] .nothing where
  types := .nil
  callees := by simp [Written.nothing]
  calls := by simp
  faults := by simp [Written.nothing]

theorem append (first : Accounts table nodes earlier) (second : Accounts table nodes' later) :
    Accounts table (nodes ++ nodes') (earlier.followedBy later) := by
  have first' : Within earlier (earlier.followedBy later) :=
    ⟨List.subset_append_right _ _, List.subset_append_right _ _⟩
  have second' : Within later (earlier.followedBy later) :=
    ⟨List.subset_append_left _ _, List.subset_append_left _ _⟩
  refine ⟨?_, ?_, ?_, ?_⟩
  · rw [Written.followedBy, List.map_append, List.filter_append, List.map_append]
    exact (second.types.append first.types).trans perm_append_comm
  · intro entry member
    rcases List.mem_append.mp member with member | member
    · obtain ⟨node, listed, id, grounded⟩ := second.callees entry member
      exact ⟨node, List.mem_append_right _ listed, id, grounded.within second'⟩
    · obtain ⟨node, listed, id, grounded⟩ := first.callees entry member
      exact ⟨node, List.mem_append_left _ listed, id, grounded.within first'⟩
  · intro node listed
    rcases List.mem_append.mp listed with listed | listed
    · exact (first.calls node listed).within first'
    · exact (second.calls node listed).within second'
  · intro fault noted
    rcases Option.or_eq_some_iff.mp noted with noted | ⟨_, noted⟩
    · obtain ⟨node, listed, faulty⟩ := first.faults fault noted
      exact ⟨node, List.mem_append_left _ listed, faulty⟩
    · obtain ⟨node, listed, faulty⟩ := second.faults fault noted
      exact ⟨node, List.mem_append_right _ listed, faulty⟩

/-- A node beside the code, with the entries for it: a type if it is an expression. -/
theorem cons (accounts : Accounts table nodes written) (node : Node) {whole : Written}
    (within : Within written whole)
    (types : node.isExpr = false ∧ whole.types = written.types ∨
      node.isExpr = true ∧ ∃ ty, whole.types = (node.id, ty) :: written.types)
    (callees : ∀ entry ∈ whole.callees, entry ∈ written.callees ∨
      node.id = entry.1 ∧ Grounded table whole entry.2 node)
    (recorded : Recorded table whole node)
    (faults : ∀ fault, whole.fault? = some fault →
      written.fault? = some fault ∨ FaultyField fault node) :
    Accounts table (node :: nodes) whole := by
  refine ⟨?_, ?_, ?_, ?_⟩
  · rcases types with ⟨other, types⟩ | ⟨isExpr, ty, types⟩
    · rw [types, List.filter_cons_of_neg (by simp [other])]
      exact accounts.types
    · rw [types, List.filter_cons_of_pos isExpr]
      exact accounts.types.cons _
  · intro entry member
    rcases callees entry member with inside | ⟨id, grounded⟩
    · obtain ⟨other, listed, id, grounded⟩ := accounts.callees entry inside
      exact ⟨other, List.mem_cons_of_mem _ listed, id, grounded.within within⟩
    · exact ⟨node, List.mem_cons_self, id, grounded⟩
  · intro other listed
    cases listed with
    | head => exact recorded
    | tail _ listed => exact (accounts.calls other listed).within within
  · intro fault noted
    rcases faults fault noted with inside | faulty
    · obtain ⟨other, listed, faulty⟩ := accounts.faults fault inside
      exact ⟨other, List.mem_cons_of_mem _ listed, faulty⟩
    · exact ⟨node, List.mem_cons_self, faulty⟩

theorem perm (accounts : Accounts table nodes written) (same : nodes ~ nodes') :
    Accounts table nodes' written where
  types := accounts.types.trans ((same.filter Node.isExpr).map Node.id)
  callees entry member := by
    obtain ⟨node, listed, rest⟩ := accounts.callees entry member
    exact ⟨node, same.mem_iff.mp listed, rest⟩
  calls node listed := accounts.calls node (same.mem_iff.mpr listed)
  faults fault noted := by
    obtain ⟨node, listed, faulty⟩ := accounts.faults fault noted
    exact ⟨node, same.mem_iff.mp listed, faulty⟩

end Accounts

/-! ## Steps that account for what they infer -/

variable {α β : Type}

/-- A step that accounts for the code of some nodes. -/
def Covers (table : MethodTable) (nodes : List Node) (step : Check α) : Prop :=
  Writes step fun _ written => Accounts table (Node.codeAll nodes) written

/-- A step that accounts for the code of an expression and comes to the type that it writes down. -/
def Infers (table : MethodTable) (value : Expr) (step : Check SemTy) : Prop :=
  Writes step fun ty written => Accounts table (Node.expr value).code written ∧
    (value.origin.id, ty) ∈ written.types

namespace Covers

variable {step : Check α} {next : α → Check β} {node : Node}

theorem pure (value : α) : Covers table [] (Pure.pure value : Check α) := Writes.pure .nothing

theorem bind (first : Covers table nodes step) (second : ∀ value, Covers table nodes' (next value)) :
    Covers table (nodes ++ nodes') (step >>= next) := by
  refine Writes.bind first fun value earlier accounts => ?_
  refine (second value).weaken fun _ later accounts' => ?_
  rw [Node.codeAll_append]
  exact accounts.append accounts'

theorem bind_cons (first : Covers table [node] step)
    (second : ∀ value, Covers table nodes (next value)) :
    Covers table (node :: nodes) (step >>= next) := first.bind second

theorem silent (silent : Silent step) : Covers table [] step := by
  intro state
  obtain ⟨types, callees, fault⟩ := silent state
  exact ⟨.nothing, .nothing, types, callees, by rw [fault, Written.nothing, Option.or_none]⟩

theorem silent_bind (silent : Silent step) (second : ∀ value, Covers table nodes (next value)) :
    Covers table nodes (step >>= next) := Writes.silent_bind silent second

theorem bind_pure (covers : Covers table nodes step) {value : α → β} :
    Covers table nodes (step >>= fun result => Pure.pure (value result)) := by
  have : Covers table (nodes ++ []) (step >>= fun result => Pure.pure (value result)) :=
    covers.bind fun _ => .pure _
  rwa [List.append_nil] at this

theorem inScope (covers : Covers table nodes step) : Covers table nodes (Check.inScope step) :=
  Writes.inScope covers

theorem inBody (covers : Covers table nodes step) : Covers table nodes (Check.inBody step) :=
  Writes.inBody covers

theorem perm (covers : Covers table nodes step) (same : nodes ~ nodes') :
    Covers table nodes' step :=
  covers.weaken fun _ _ accounts => accounts.perm (same.flatMap_right Node.code)

/-- A node that is no expression, with the code in it. -/
theorem entering (other : node.isExpr = false) (children : node.codeChildren = nodes)
    (plain : ∀ written, Recorded table written node) (covers : Covers table nodes step) :
    Covers table [node] step := by
  refine covers.weaken fun _ written accounts => ?_
  rw [Node.codeAll_cons, Node.codeAll_nil, List.append_nil, Node.code_eq, children]
  exact accounts.cons node ⟨List.Subset.refl _, List.Subset.refl _⟩ (.inl ⟨other, rfl⟩)
    (fun _ member => .inl member) (plain written) (fun _ => .inl)

end Covers

theorem Infers.covers {value : Expr} {step : Check SemTy} (infers : Infers table value step) :
    Covers table [.expr value] step := by
  refine infers.weaken fun _ written accounts => ?_
  rw [Node.codeAll_cons, Node.codeAll_nil, List.append_nil]
  exact accounts.1

/-- An expression that is no call, with the code in it. -/
theorem Infers.typed {value : Expr} {step : Check SemTy}
    (children : (Node.expr value).codeChildren = nodes)
    (plain : ∀ written, Recorded table written (.expr value)) (covers : Covers table nodes step) :
    Infers table value (Check.typed value.origin.id step) := by
  refine Writes.typed (covers.weaken fun ty written accounts => ?_)
  refine ⟨?_, List.mem_cons_self⟩
  rw [Node.code_eq, children]
  exact accounts.cons (.expr value) ⟨List.subset_cons_self _ _, List.Subset.refl _⟩
    (.inr ⟨rfl, ty, rfl⟩) (fun _ member => .inl member) (plain _) (fun _ => .inl)

/-! ## Calls -/

theorem methodType_writes (env : TypeEnv) (id : Nat) (receiver : SemTy) (method : String)
    (genericArgs : List Ty) :
    Writes (methodType table env id receiver method genericArgs) fun ty written =>
      match table.findMethod? receiver method with
      | none => written = .nothing
      | some callee => written = ⟨[], [(id, callee.path)], none⟩ ∧
        (method ≠ "collect" → ty = table.resultType callee.result) := by
  unfold methodType
  cases table.findMethod? receiver method with
  | none => exact .pure rfl
  | some callee =>
    intro state
    let called : Written := ⟨[], [(id, callee.path)], none⟩
    cases genericArgs with
    | nil => exact ⟨called, ⟨rfl, fun _ => rfl⟩, rfl, rfl, Option.or_none.symm⟩
    | cons first rest =>
      by_cases collects : method = "collect"
      · simp only [collects, if_true]
        exact ⟨called, ⟨rfl, fun other => absurd rfl other⟩, rfl, rfl, Option.or_none.symm⟩
      · simp only [collects, if_false]
        exact ⟨called, ⟨rfl, fun _ => rfl⟩, rfl, rfl, Option.or_none.symm⟩

attribute [local simp] Node.codeChildren Node.children_eq Node.fields Node.isCode List.filter_map
  List.filter_cons Function.comp_def

/-- A method call, with the receiver and the arguments in it. -/
theorem Infers.methodCall {env : TypeEnv} {origin : Origin} {receiver : Expr} {method : String}
    {args : List Expr} {span : Span} {genericArgs : List Ty} {receiverStep : Check SemTy}
    {argsStep : Check (List SemTy)} (first : Infers table receiver receiverStep)
    (second : Covers table (args.map .expr) argsStep) :
    Infers table (.methodCall origin receiver method args span genericArgs)
      (Check.typed origin.id do
        let receiverTy ← receiverStep
        let _ ← argsStep
        methodType table env origin.id receiverTy method genericArgs) := by
  have children : (Node.expr (.methodCall origin receiver method args span
      genericArgs)).codeChildren = .expr receiver :: args.map .expr := by
    simp [← List.map_eq_flatMap]
  apply Writes.typed
  refine Writes.bind first fun receiverTy earlier ⟨accounts, receiverTyped⟩ => ?_
  refine Writes.bind second fun _ later accounts' => ?_
  refine (methodType_writes env origin.id receiverTy method genericArgs).weaken
    fun ty called calls => ?_
  refine ⟨?_, List.mem_cons_self⟩
  rw [Node.code_eq, children, Node.codeAll_cons]
  -- The entries of the receiver and the arguments account for all but the call itself.
  have inner := accounts.append accounts'
  have receiverTyped' : (receiver.origin.id, receiverTy) ∈ (earlier.followedBy later).types :=
    List.mem_append_right _ receiverTyped
  cases found : table.findMethod? receiverTy method with
  | none =>
    simp only [found] at calls
    subst calls
    rw [Written.followedBy_nothing]
    -- Nothing is called, and the look-up that has to be recorded finds nothing either.
    refine inner.cons _ ⟨List.subset_cons_self _ _, List.Subset.refl _⟩ (.inr ⟨rfl, ty, rfl⟩)
      (fun _ member => .inl member) ⟨receiverTy, List.mem_cons_of_mem _ receiverTyped', ?_⟩
      (fun _ => .inl)
    intro callee same
    rw [found] at same
    cases same
  | some callee =>
    simp only [found] at calls
    obtain ⟨rfl, returned⟩ := calls
    refine inner.cons _ ⟨List.subset_cons_self _ _, List.subset_cons_self _ _⟩ (.inr ⟨rfl, ty, rfl⟩)
      ?_ ⟨receiverTy, List.mem_cons_of_mem _ receiverTyped', ?_⟩ ?_
    · intro entry member
      cases member with
      | head =>
        exact .inr ⟨rfl, receiverTy, callee, List.mem_cons_of_mem _ receiverTyped', found, rfl⟩
      | tail _ member => exact .inl member
    · intro callee' same
      rw [found] at same
      cases same
      refine ⟨List.mem_cons_self, fun other => ?_⟩
      rw [← returned other]
      exact List.mem_cons_self
    · intro fault noted
      simp only [Written.followedBy, Option.or_none] at noted ⊢
      exact .inl noted

/-- A call by path writes down no type for the path, and what it calls under its own number. -/
theorem pathCall_writes (env : TypeEnv) (id : Nat) (pathOrigin : Origin) (segments : Path)
    (genericArgs : List Ty) (argTys : List SemTy) :
    Writes (do
        let callee? ← pathCallee? table env pathOrigin.id segments genericArgs argTys
        recordType pathOrigin.id .unknown
        match callee? with
        | none => return .unknown
        | some callee =>
          recordCallee id callee.path
          resultType table callee.result) fun _ written =>
      written.types = [(pathOrigin.id, SemTy.unknown)] ∧
        (∀ entry ∈ written.callees, id = entry.1) ∧ written.fault? = none := by
  apply Writes.silent_bind (pathCallee?_silent table env _ _ _ _)
  intro callee? state
  cases callee? with
  | none =>
    exact ⟨⟨[(pathOrigin.id, .unknown)], [], none⟩, ⟨rfl, by simp, rfl⟩, rfl, rfl,
      Option.or_none.symm⟩
  | some callee =>
    exact ⟨⟨[(pathOrigin.id, .unknown)], [(id, callee.path)], none⟩, ⟨rfl, by simp, rfl⟩, rfl, rfl,
      Option.or_none.symm⟩

/-- A call by path, with the path and the arguments in it. -/
theorem Infers.pathCall {env : TypeEnv} {origin pathOrigin : Origin} {segments : Path}
    {genericArgs : List Ty} {args : List Expr} {argsStep : Check (List SemTy)}
    (first : Covers table (args.map .expr) argsStep) :
    Infers table (.call origin (.path pathOrigin segments genericArgs) args)
      (Check.typed origin.id do
        let argTys ← argsStep
        let callee? ← pathCallee? table env pathOrigin.id segments genericArgs argTys
        recordType pathOrigin.id .unknown
        match callee? with
        | none => return .unknown
        | some callee =>
          recordCallee origin.id callee.path
          resultType table callee.result) := by
  have children : (Node.expr (.call origin (.path pathOrigin segments genericArgs)
      args)).codeChildren = .expr (.path pathOrigin segments genericArgs) :: args.map .expr := by
    simp [← List.map_eq_flatMap]
  have pathChildren : (Node.expr (.path pathOrigin segments genericArgs)).codeChildren = [] := by
    simp [← List.map_eq_flatMap]
  apply Writes.typed
  refine Writes.bind first fun argTys earlier accounts => ?_
  refine (pathCall_writes env origin.id pathOrigin segments genericArgs argTys).weaken
    fun ty later ⟨types, callees, fault⟩ => ?_
  refine ⟨?_, List.mem_cons_self⟩
  rw [Node.code_eq, children, Node.codeAll_cons, Node.code_eq (.expr (.path ..)), pathChildren]
  -- The path stands below the call, so it is put beside the arguments before the call is.
  have inner : Accounts table (.expr (.path pathOrigin segments genericArgs) ::
      Node.codeAll (args.map .expr))
      ⟨(pathOrigin.id, .unknown) :: earlier.types, earlier.callees, earlier.fault?⟩ :=
    accounts.cons _ ⟨List.subset_cons_self _ _, List.Subset.refl _⟩ (.inr ⟨rfl, .unknown, rfl⟩)
      (fun _ member => .inl member) trivial (fun _ => .inl)
  simp only [Written.followedBy, types, fault, Option.or_none]
  refine inner.cons _ ⟨List.subset_cons_self _ _, List.subset_append_right _ _⟩ (.inr ⟨rfl, ty, rfl⟩)
    ?_ trivial (fun _ => .inl)
  intro entry member
  rcases List.mem_append.mp member with member | member
  · exact .inr ⟨callees entry member, trivial⟩
  · exact .inl member

/-! ## Fields -/

theorem fieldResult?_eq_error {ty : SemTy} {name : String} {fault : IndexFault}
    (failed : table.fieldResult? ty name = .error fault) : tupleIndex? name = .error fault := by
  unfold MethodTable.fieldResult? at failed
  split at failed
  · cases read : tupleIndex? name with
    | error other =>
      rw [read] at failed
      cases failed
      rfl
    | ok index? =>
      rw [read] at failed
      cases failed
  · cases failed
  · cases failed

theorem findSomeM?_eq_error {ε : Type} {f : α → Except ε (Option β)} {values : List α} {fault : ε}
    (failed : values.findSomeM? f = .error fault) : ∃ value ∈ values, f value = .error fault := by
  induction values with
  | nil => cases failed
  | cons value values inductionHypothesis =>
    rw [List.findSomeM?_cons] at failed
    cases found : f value with
    | error other =>
      rw [found] at failed
      cases failed
      exact ⟨value, List.mem_cons_self, found⟩
    | ok found? =>
      rw [found] at failed
      cases found? with
      | none =>
        obtain ⟨other, member, failed⟩ := inductionHypothesis failed
        exact ⟨other, List.mem_cons_of_mem _ member, failed⟩
      | some found => cases failed

theorem fieldType_writes (base : SemTy) (name : String) :
    Writes (fieldType table base name) fun _ written =>
      (written.types = [] ∧ written.callees = []) ∧
        ∀ fault, written.fault? = some fault → tupleIndex? name = .error fault := by
  unfold fieldType
  split
  · next fault failed =>
    obtain ⟨_, _, failed⟩ := findSomeM?_eq_error failed
    intro state
    refine ⟨⟨[], [], some fault⟩, ⟨⟨rfl, rfl⟩, ?_⟩, rfl, rfl, Option.orElse_eq_or⟩
    rintro _ ⟨⟩
    exact fieldResult?_eq_error failed
  · exact .pure ⟨⟨rfl, rfl⟩, by simp [Written.nothing]⟩
  · next result _ =>
    -- The type of the result is read, and no more.
    have quiet : Writes (resultType table result >>= Pure.pure) fun _ written =>
        (written.types = [] ∧ written.callees = []) ∧
          ∀ fault, written.fault? = some fault → tupleIndex? name = .error fault :=
      .silent_bind (resultType_quiet table result).silent
        fun _ => .pure ⟨⟨rfl, rfl⟩, by simp [Written.nothing]⟩
    rwa [bind_pure] at quiet

/-- A field, with the base in it. -/
theorem Infers.field {origin : Origin} {base : Expr} {name : String} {baseStep : Check SemTy}
    (first : Infers table base baseStep) :
    Infers table (.field origin base name)
      (Check.typed origin.id do fieldType table (← baseStep) name) := by
  have children : (Node.expr (.field origin base name)).codeChildren = [.expr base] := by
    simp
  apply Writes.typed
  refine Writes.bind first fun baseTy earlier ⟨accounts, _⟩ => ?_
  refine (fieldType_writes baseTy name).weaken fun ty later ⟨⟨types, callees⟩, faults⟩ => ?_
  refine ⟨?_, List.mem_cons_self⟩
  rw [Node.code_eq, children, Node.codeAll_cons, Node.codeAll_nil, List.append_nil]
  simp only [Written.followedBy, types, callees, List.nil_append]
  refine accounts.cons _ ⟨List.subset_cons_self _ _, List.Subset.refl _⟩ (.inr ⟨rfl, ty, rfl⟩)
    (fun _ member => .inl member) trivial fun fault noted => ?_
  rcases Option.or_eq_some_iff.mp noted with noted | ⟨_, noted⟩
  · exact .inl noted
  · exact .inr (faults fault noted)

/-! ## The inference, node by node -/

theorem bindParams_silent (env : TypeEnv) (params : List Param) :
    Silent (bindParams table env params) := by
  induction params with
  | nil => exact .pure _
  | cons param params inductionHypothesis =>
    obtain ⟨origin, pat, ty⟩ := param
    exact .bind (lower?_quiet table env ty).silent fun _ =>
      .bind (bindPattern_silent table _ pat) fun _ => inductionHypothesis

/-- A call of what is no path, with the function and the arguments in it. -/
theorem Infers.otherCall {origin : Origin} {func : Expr} {args : List Expr}
    {argsStep : Check (List SemTy)} {funcStep : Check SemTy}
    (first : Covers table (args.map .expr) argsStep) (second : Infers table func funcStep) :
    Infers table (.call origin func args)
      (Check.typed origin.id do
        let _ ← argsStep
        let _ ← funcStep
        return .unknown) := by
  have children : (Node.expr (.call origin func args)).codeChildren =
      [.expr func] ++ args.map .expr := by
    simp [← List.map_eq_flatMap]
  -- The arguments are inferred before the function, which the code has first.
  refine .typed children (fun _ => trivial) (Covers.perm ?_ perm_append_comm)
  exact first.bind fun _ => second.covers.bind_pure

/-- A block without a value, with the statements in it. -/
theorem Infers.tailless {origin : Origin} {stmts : List Stmt} {isUnsafe : Bool}
    {stmtsStep : Check Unit} (first : Covers table (stmts.map .stmt) stmtsStep) :
    Infers table (.block (.mk origin stmts none isUnsafe))
      (Check.typed origin.id <| Check.inScope do
        stmtsStep
        return .unit) := by
  have children : (Node.expr (.block (.mk origin stmts none isUnsafe))).codeChildren =
      stmts.map .stmt := by
    simp [← List.map_eq_flatMap]
  apply Writes.typed
  apply Writes.inScope
  refine Writes.bind first fun _ written accounts => Writes.pure ?_
  rw [Written.followedBy_nothing]
  refine ⟨?_, List.mem_cons_self⟩
  rw [Node.code_eq, children]
  exact accounts.cons _ ⟨List.subset_cons_self _ _, List.Subset.refl _⟩ (.inr ⟨rfl, .unit, rfl⟩)
    (fun _ member => .inl member) List.mem_cons_self (fun _ => .inl)

-- The recursion is that of the inference.  Each case names the code below a node and runs through
-- the steps in their order; only method calls and blocks without a value have something recorded.
mutual

theorem inferExpr_infers (env : TypeEnv) (isCondition : Bool) (value : Expr) :
    Infers table value (inferExpr table env isCondition value) := by
  cases value with
  | lit origin value suffix => exact .typed (by simp) (fun _ => trivial) (.pure _)
  | path origin segments genericArgs =>
    exact .typed (by simp [← List.map_eq_flatMap]) (fun _ => trivial)
      (.silent (pathType_silent table env _ _))
  | methodCall origin receiver method args span genericArgs =>
    exact .methodCall (inferExpr_infers env false receiver) (inferExprs_covers env args)
  | call origin func args =>
    cases func with
    | path => exact .pathCall (inferExprs_covers env args)
    | _ => exact .otherCall (inferExprs_covers env args) (inferExpr_infers env false _)
  | macroCall origin path args delimiter tokens =>
    exact .typed (by simp [← List.map_eq_flatMap]) (fun _ => trivial)
      (inferExprs_covers env args).bind_pure
  | field origin base name => exact .field (inferExpr_infers env false base)
  | index origin base index =>
    exact .typed (by simp) (fun _ => trivial)
      (.bind_cons (inferExpr_infers env false base).covers fun _ =>
        (inferExpr_infers env false index).covers.bind_pure)
  | unary origin op operand =>
    exact .typed (by simp) (fun _ => trivial) (inferExpr_infers env false operand).covers.bind_pure
  | addrOf origin isMut operand =>
    exact .typed (by simp) (fun _ => trivial) (inferExpr_infers env false operand).covers.bind_pure
  | binary origin op lhs rhs =>
    exact .typed (by simp) (fun _ => trivial)
      (.bind_cons (inferExpr_infers env false lhs).covers fun _ =>
        (inferExpr_infers env false rhs).covers.bind_pure)
  | assign origin target value op =>
    -- The operator is a field of the node but no code.
    exact .typed (by cases op <;> simp) (fun _ => trivial)
      (.bind_cons (inferExpr_infers env false target).covers fun _ =>
        (inferExpr_infers env false value).covers.bind_pure)
  | cast origin value ty =>
    exact .typed (by simp) (fun _ => trivial)
      (.bind_cons (inferExpr_infers env false value).covers fun _ =>
        .silent (lower_quiet table env ty).silent)
  | question origin value =>
    exact .typed (by simp) (fun _ => trivial) (inferExpr_infers env false value).covers.bind_pure
  | range origin start stop inclusive =>
    exact .typed (by simp [← List.map_eq_flatMap]) (fun _ => trivial)
      (.bind (inferOption_covers env start) fun _ => (inferOption_covers env stop).bind_pure)
  | tuple origin elems =>
    exact .typed (by simp [← List.map_eq_flatMap]) (fun _ => trivial)
      (inferExprs_covers env elems).bind_pure
  | array origin elems =>
    exact .typed (by simp [← List.map_eq_flatMap]) (fun _ => trivial)
      (inferExprs_covers env elems).bind_pure
  | arrayRepeat origin elem count =>
    exact .typed (by simp) (fun _ => trivial)
      (.bind_cons (inferExpr_infers env false elem).covers fun _ =>
        (inferExpr_infers env false count).covers.bind_pure)
  | structLit origin path inits base =>
    exact .typed (by simp [← List.map_eq_flatMap]) (fun _ => trivial)
      (.bind (inferInits_covers env inits) fun _ =>
        .bind (inferOption_covers env base) fun _ =>
          .silent (literalType_quiet table env path).silent)
  | block block => exact inferBlock_infers env block
  | letCond origin pat init =>
    have inner := (inferExpr_infers env false init).covers
    cases isCondition with
    | true =>
      exact .typed (by simp) (fun _ => trivial)
        (.bind_cons inner fun ty => .silent_bind (bindPattern_silent table ty pat) fun _ => .pure _)
    | false => exact .typed (by simp) (fun _ => trivial) (.bind_cons inner fun _ => .pure _)
  | ite origin cond onTrue onFalse =>
    have inner : Covers table [.expr cond, .expr (.block onTrue)] (Check.inScope do
        let _ ← inferExpr table env true cond
        inferBlock table env onTrue) :=
      .inScope (.bind_cons (inferExpr_infers env true cond).covers fun _ =>
        (inferBlock_infers env onTrue).covers)
    cases onFalse with
    | none => exact .typed (by simp) (fun _ => trivial) (inner.bind fun _ => .pure _)
    | some onFalse =>
      exact .typed (by simp) (fun _ => trivial)
        (inner.bind fun _ => (inferExpr_infers env false onFalse).covers.bind_pure)
  | whileLoop origin cond body header label =>
    exact .typed (by simp) (fun _ => trivial)
      (Covers.inScope (.bind_cons (inferExpr_infers env true cond).covers fun _ =>
        (inferBlock_infers env body).covers.bind_pure)).bind_pure
  | loop origin body label =>
    exact .typed (by simp) (fun _ => trivial) (inferBlock_infers env body).covers.bind_pure
  | forLoop origin pat iter body label =>
    exact .typed (by simp) (fun _ => trivial)
      (.bind_cons (inferExpr_infers env false iter).covers fun ty =>
        (Covers.inScope (.silent_bind (bindPattern_silent table (elementType ty) pat) fun _ =>
          (inferBlock_infers env body).covers.bind_pure)).bind_pure)
  | matchArms origin scrutinee arms =>
    exact .typed (by simp [← List.map_eq_flatMap]) (fun _ => trivial)
      (.bind_cons (inferExpr_infers env false scrutinee).covers fun ty =>
        inferArms_covers env ty .unknown arms)
  | closure origin params body ret isMove =>
    exact .typed (by simp [← List.map_eq_flatMap]) (fun _ => trivial)
      (Covers.inScope (.silent_bind (bindParams_silent env params) fun _ =>
        (inferExpr_infers env false body).covers.bind_pure)).bind_pure
  | breakLoop origin label value | returnFn origin value =>
    exact .typed (by simp [← List.map_eq_flatMap]) (fun _ => trivial)
      (inferOption_covers env value).bind_pure
  | continueLoop origin label => exact .typed (by simp) (fun _ => trivial) (.pure _)

theorem inferOption_covers (env : TypeEnv) (value? : Option Expr) :
    Covers table (value?.toList.map .expr) (inferOption table env value?) := by
  cases value? with
  | none => exact .pure _
  | some value => exact (inferExpr_infers env false value).covers

theorem inferExprs_covers (env : TypeEnv) (values : List Expr) :
    Covers table (values.map .expr) (inferExprs table env values) := by
  cases values with
  | nil => exact .pure _
  | cons value values =>
    exact .bind_cons (inferExpr_infers env false value).covers fun _ =>
      (inferExprs_covers env values).bind_pure

theorem inferInits_covers (env : TypeEnv) (inits : List FieldInit) :
    Covers table (inits.map (.expr ·.value)) (inferInits table env inits) := by
  cases inits with
  | nil => exact .pure _
  | cons init inits =>
    obtain ⟨name, value⟩ := init
    exact .bind_cons (inferExpr_infers env false value).covers fun _ =>
      inferInits_covers env inits

theorem inferArms_covers (env : TypeEnv) (scrutinee result : SemTy) (arms : List Arm) :
    Covers table (arms.map .arm) (inferArms table env scrutinee result arms) := by
  cases arms with
  | nil => exact .pure _
  | cons arm arms =>
    obtain ⟨origin, pat, guard, body⟩ := arm
    have inArm : Covers table [.arm (.mk origin pat guard body)] (Check.inScope do
        bindPattern table scrutinee pat
        let _ ← inferOption table env guard
        inferExpr table env false body) :=
      .entering rfl (by simp [← List.map_eq_flatMap]) (fun _ => trivial)
        (.inScope (.silent_bind (bindPattern_silent table _ pat) fun _ =>
          .bind (inferOption_covers env guard) fun _ => (inferExpr_infers env false body).covers))
    exact .bind_cons inArm fun _ => inferArms_covers env _ _ arms

theorem inferBlock_infers (env : TypeEnv) (block : Block) :
    Infers table (.block block) (inferBlock table env block) := by
  obtain ⟨origin, stmts, tail, isUnsafe⟩ := block
  cases tail with
  | none => exact .tailless (inferStmts_covers env stmts)
  | some value =>
    exact .typed (by simp [← List.map_eq_flatMap]) (fun _ => trivial)
      (.inScope (.bind (inferStmts_covers env stmts) fun _ =>
        (inferExpr_infers env false value).covers))

theorem inferStmts_covers (env : TypeEnv) (stmts : List Stmt) :
    Covers table (stmts.map .stmt) (inferStmts table env stmts) := by
  cases stmts with
  | nil => exact .pure _
  | cons stmt stmts =>
    exact .bind_cons (inferStmt_covers env stmt) fun _ => inferStmts_covers env stmts

theorem inferStmt_covers (env : TypeEnv) (stmt : Stmt) :
    Covers table [.stmt stmt] (inferStmt table env stmt) := by
  cases stmt with
  | letStmt origin pat ty init els =>
    cases els with
    | none =>
      exact .entering rfl (by simp [← List.map_eq_flatMap]) (fun _ => trivial)
        (.bind (inferOption_covers env init) fun _ =>
          .silent_bind (lower?_quiet table env ty).silent fun _ =>
            .silent (bindPattern_silent table _ pat))
    | some els =>
      exact .entering rfl (by simp [← List.map_eq_flatMap]) (fun _ => trivial)
        (.bind (inferOption_covers env init) fun _ =>
          .silent_bind (lower?_quiet table env ty).silent fun _ =>
            .bind_cons (inferBlock_infers env els).covers fun _ =>
              .silent (bindPattern_silent table _ pat))
  | expr origin value semi =>
    exact .entering rfl (by simp) (fun _ => trivial) (inferExpr_infers env false value).covers.bind_pure
  | item origin item =>
    exact .entering rfl (by simp) (fun _ => trivial) (inferItem_covers [] item)

theorem inferItem_covers (env : TypeEnv) (item : Item) :
    Covers table [.item item] (inferItem table env item) := by
  cases item with
  | fnDef origin name generics params ret body attrs =>
    cases body with
    | none => exact .entering rfl (by simp [← List.map_eq_flatMap]) (fun _ => trivial) (.pure _)
    | some body =>
      exact .entering rfl (by simp [← List.map_eq_flatMap]) (fun _ => trivial)
        (.inBody (.silent_bind (bindParams_silent _ params) fun _ =>
          (inferBlock_infers _ body).covers.bind_pure))
  | constItem origin name ty value attrs =>
    cases value with
    | none => exact .entering rfl (by simp) (fun _ => trivial) (.pure _)
    | some value =>
      exact .entering rfl (by simp) (fun _ => trivial)
        (.inBody (inferExpr_infers _ false value).covers.bind_pure)
  | implBlock origin generics selfTy traitRef items attrs =>
    exact .entering rfl (by simp [← List.map_eq_flatMap]) (fun _ => trivial)
      (.silent_bind (lower_quiet table _ selfTy).silent fun _ => inferItems_covers _ items)
  | traitDef origin name generics items attrs =>
    exact .entering rfl (by simp [← List.map_eq_flatMap]) (fun _ => trivial)
      (inferItems_covers _ items)
  | modDef origin name items attrs =>
    exact .entering rfl (by simp [← List.map_eq_flatMap]) (fun _ => trivial)
      (inferItems_covers _ items)
  | _ => exact .entering rfl (by simp [← List.map_eq_flatMap]) (fun _ => trivial) (.pure _)

theorem inferItems_covers (env : TypeEnv) (items : List Item) :
    Covers table (items.map .item) (inferItems table env items) := by
  cases items with
  | nil => exact .pure _
  | cons item items =>
    exact .bind_cons (inferItem_covers env item) fun _ => inferItems_covers env items

end

/-! ## The tables of a crate -/

section

variable {crate : Crate} {tables : Tables}

theorem inferCrate_accounts (crate : Crate) :
    Accounts (MethodTable.ofCrate crate) (Node.crate crate).code
      ⟨(inferCrate crate).tables.types, (inferCrate crate).tables.callees,
        (inferCrate crate).fault?⟩ := by
  have children : (Node.crate crate).codeChildren = crate.items.map .item := by
    simp [← List.map_eq_flatMap]
  have covers : Covers (MethodTable.ofCrate crate) (crate.items.map .item)
      (inferItems (MethodTable.ofCrate crate) [] crate.items) := inferItems_covers [] crate.items
  obtain ⟨written, accounts, types, callees, fault⟩ := covers {}
  -- The inference starts with nothing written down, so what it ends with is what it writes.
  have types' : (inferCrate crate).tables.types = written.types :=
    types.trans (List.append_nil _)
  have callees' : (inferCrate crate).tables.callees = written.callees :=
    callees.trans (List.append_nil _)
  have fault' : (inferCrate crate).fault? = written.fault? := fault.trans Option.none_or
  rw [Node.code_eq, children, types', callees', fault']
  exact accounts.cons _ ⟨List.Subset.refl _, List.Subset.refl _⟩ (.inl ⟨rfl, rfl⟩)
    (fun _ member => .inl member) trivial (fun _ => .inl)

theorem result_eq_ok_iff {inference : Inference} :
    inference.result = .ok tables ↔ inference.fault? = none ∧ inference.tables = tables := by
  unfold Inference.result
  cases inference.fault? <;> simp

/-- The tables of a crate whose inference finds no fault. -/
theorem accounts_of_result (inferred : (inferCrate crate).result = .ok tables) :
    Accounts (MethodTable.ofCrate crate) (Node.crate crate).code
      ⟨tables.types, tables.callees, none⟩ := by
  obtain ⟨faultless, rfl⟩ := result_eq_ok_iff.mp inferred
  rw [← faultless]
  exact inferCrate_accounts crate

/-- No expression has two types, where no number is given twice. -/
theorem types_nodup (distinct : (crate.walk.map Node.id).Nodup) :
    ((inferCrate crate).tables.types.map Prod.fst).Nodup := by
  have coded : (((Node.crate crate).code.filter Node.isExpr).map Node.id).Nodup :=
    distinct.sublist ((filter_sublist.trans (Node.code_sublist _)).map Node.id)
  exact (inferCrate_accounts crate).types.nodup_iff.mpr coded

variable (distinct : (crate.walk.map Node.id).Nodup)
  (inferred : (inferCrate crate).result = .ok tables)

include distinct inferred

theorem typeOf_of_mem {id : Nat} {ty : SemTy} (member : (id, ty) ∈ tables.types) :
    tables.typeOf id = ty := by
  obtain ⟨_, rfl⟩ := result_eq_ok_iff.mp inferred
  have unique := types_nodup distinct
  rw [Tables.typeOf, Tables.type?, lookup_of_mem unique member, Option.getD_some]

/-- A block without a value has the type of no value. -/
theorem typeOf_of_tailless {block : Block} (tailless : block.tail = none)
    (inCode : Node.expr (.block block) ∈ (Node.crate crate).code) :
    tables.typeOf block.origin.id = .unit := by
  obtain ⟨origin, stmts, tail, isUnsafe⟩ := block
  cases tailless
  have recorded : (origin.id, .unit) ∈ tables.types := (accounts_of_result inferred).calls _ inCode
  exact typeOf_of_mem distinct inferred recorded

variable {origin : Origin} {receiver : Expr} {method : String} {args : List Expr} {span : Span}
  {genericArgs : List Ty}

theorem callee_grounded {path : Path}
    (member : Node.expr (.methodCall origin receiver method args span genericArgs) ∈ crate.walk)
    (called : tables.resolver.callee origin.id = some path) :
    Node.expr (.methodCall origin receiver method args span genericArgs) ∈
        (Node.crate crate).code ∧
      ∃ callee, (MethodTable.ofCrate crate).findMethod? (tables.typeOf receiver.origin.id) method =
        some callee ∧ callee.path = path := by
  obtain ⟨node, inCode, id, grounded⟩ :=
    (accounts_of_result inferred).callees _ (mem_of_lookup called)
  -- The node with the reason has the number of the call, so it is the call.
  have same := List.inj_on_of_nodup_map distinct ((Node.code_sublist _).subset inCode) member id
  subst same
  obtain ⟨ty, callee, typed, found, path⟩ := grounded
  rw [typeOf_of_mem distinct inferred typed]
  exact ⟨inCode, callee, found, path⟩

/-- The callee of a method call and the type of what it returns are those of the method that the
type of the receiver has. -/
theorem callee_of_found {callee : Callee}
    (inCode : Node.expr (.methodCall origin receiver method args span genericArgs) ∈
      (Node.crate crate).code)
    (found : (MethodTable.ofCrate crate).findMethod? (tables.typeOf receiver.origin.id) method =
      some callee) :
    tables.resolver.callee origin.id = some callee.path ∧ (method ≠ "collect" →
      tables.typeOf origin.id = (MethodTable.ofCrate crate).resultType callee.result) := by
  obtain ⟨ty, typed, calls⟩ := (accounts_of_result inferred).calls _ inCode
  rw [typeOf_of_mem distinct inferred typed] at found
  obtain ⟨called, returned⟩ := calls callee found
  refine ⟨?_, fun other => typeOf_of_mem distinct inferred (returned other)⟩
  -- Another entry of the call may come first, but it has a reason too, and that is the same method.
  have known : (tables.callees.lookup origin.id).isSome :=
    List.lookup_isSome_iff.mpr ⟨_, called, by simp⟩
  obtain ⟨path, listed⟩ := Option.isSome_iff_exists.mp known
  have member := (Node.code_sublist (Node.crate crate)).subset inCode
  obtain ⟨_, callee', found', rfl⟩ := callee_grounded distinct inferred member listed
  rw [typeOf_of_mem distinct inferred typed, found] at found'
  cases found'
  exact listed

end

end DrainLint.Typing
