import DrainLint.Proofs.Grammar.PlacedItems
import DrainLint.Proofs.Lint.Shape
import DrainLint.Proofs.Peg.Noted
import DrainLint.Proofs.Typing.Accounts
import DrainLint.Proofs.Typing.Methods

/-! # Which loops are found

A loop is found by what its calls resolve to.  Told by types, it is a loop in a body that asks
whether a vector is empty and first of all pops from the same vector.

- `OfVec`: the first type of a receiver that offers a method is a vector of the library;
- `ChecksVec`, `PopsVec`: the condition and the popping expression, told by types;
- `Drains`: a loop that drains a vector by hand;
- `examine_found_iff_drains`: exactly the loops in bodies that drain a vector are found.
-/

namespace DrainLint.Lint

open Hir Typing MethodTable

/-! ## Draining, by types -/

/-- Of the types reached from a receiver by implicit dereferences, the first that offers a method is
a vector of the library. -/
def OfVec (crate : Crate) (tables : Tables) (receiver : Expr) (method : String) : Prop :=
  ∃ step, (MethodTable.ofCrate crate).offering? (tables.typeOf receiver.origin.id) method =
    some step ∧ step.isAdt Library.vec = true

/-- The condition `!receiver.is_empty(..)` for a vector. -/
inductive ChecksVec (crate : Crate) (tables : Tables) : Expr → Expr → Prop
  | isEmpty {origin callOrigin : Origin} {receiver : Expr} {args : List Expr} {span : Span}
      {genericArgs : List Ty} (ofVec : OfVec crate tables receiver "is_empty") :
      ChecksVec crate tables
        (.unary origin .not (.methodCall callOrigin receiver "is_empty" args span genericArgs))
        receiver

/-- The expression `receiver.pop(..).unwrap(..)` or `receiver.pop(..).expect(..)` for a vector. -/
inductive PopsVec (crate : Crate) (tables : Tables) : Expr → Expr → Prop
  | popped {origin popOrigin : Origin} {receiver : Expr} {method : String}
      {args popArgs : List Expr} {span popSpan : Span} {genericArgs popGenericArgs : List Ty}
      (unwraps : method = "unwrap" ∨ method = "expect")
      (ofVec : OfVec crate tables receiver "pop") :
      PopsVec crate tables
        (.methodCall origin (.methodCall popOrigin receiver "pop" popArgs popSpan popGenericArgs)
          method args span genericArgs) receiver

/-- A loop that drains a vector by hand: the condition checks a vector, and the first statement, by
a `let` or in an argument of a call, pops and unwraps an element of the same vector. -/
def Drains (crate : Crate) (tables : Tables) (cond : Expr) (body : Block) : Prop :=
  ∃ checked popped first rest form span expr, ChecksVec crate tables cond checked ∧
    body.stmts = first :: rest ∧ Takes first form span expr ∧ PopsVec crate tables expr popped ∧
      Comparison.sameExpr { resolver? := some tables.resolver } popped checked = true

/-! ## Calls told by their callees -/

/-- A popping expression, told by its callees. -/
inductive PopsBy (resolver : Resolver) : Expr → Expr → Prop
  | popped {origin popOrigin : Origin} {receiver : Expr} {popMethod method : String}
      {popArgs args : List Expr} {popSpan span : Span} {popGenericArgs genericArgs : List Ty}
      (unwraps : resolver.callee origin.id = some Library.optionUnwrap ∨
        resolver.callee origin.id = some Library.optionExpect)
      (pops : resolver.callee popOrigin.id = some Library.vecPop) :
      PopsBy resolver
        (.methodCall origin
          (.methodCall popOrigin receiver popMethod popArgs popSpan popGenericArgs)
          method args span genericArgs) receiver

theorem isMethodCallOf_iff {resolver : Resolver} {definition : Path} {origin : Origin}
    {receiver : Expr} {method : String} {args : List Expr} {span : Span} {genericArgs : List Ty} :
    isMethodCallOf resolver definition (.methodCall origin receiver method args span genericArgs) =
      true ↔ resolver.callee origin.id = some definition := by
  simp [isMethodCallOf, Library.isDefinition, methodCallee?]

theorem poppedReceiver?_eq_some {resolver : Resolver} {expr receiver : Expr} :
    poppedReceiver? resolver expr = some receiver ↔ PopsBy resolver expr receiver := by
  constructor
  · intro popped
    unfold poppedReceiver? at popped
    split at popped
    · split at popped
      · next calls =>
        cases popped
        simp only [isMethodCallOfAny, unwrapMethods, List.any_cons, List.any_nil, Bool.or_false,
          Bool.and_eq_true, Bool.or_eq_true, isMethodCallOf_iff] at calls
        exact .popped calls.1 calls.2
      · cases popped
    · cases popped
  · rintro ⟨unwraps, pops⟩
    simp only [poppedReceiver?, isMethodCallOfAny, unwrapMethods, List.any_cons, List.any_nil,
      Bool.or_false, Bool.and_eq_true, Bool.or_eq_true, isMethodCallOf_iff]
    rw [if_pos ⟨unwraps, pops⟩]

theorem popsFrom_iff {resolver : Resolver} {checked expr : Expr} :
    popsFrom resolver checked expr = true ↔ ∃ popped, PopsBy resolver expr popped ∧
      Comparison.sameExpr { resolver? := some resolver } popped checked = true := by
  unfold popsFrom
  simp only [← poppedReceiver?_eq_some]
  cases poppedReceiver? resolver expr <;> simp

/-! ## Calls told by types -/

section

variable {crate : Crate} {tables : Tables} (distinct : (crate.walk.map Node.id).Nodup)
  (inferred : (inferCrate crate).result = .ok tables)

include distinct inferred

variable {origin : Origin} {receiver : Expr} {method : String} {args : List Expr} {span : Span}
  {genericArgs : List Ty}

/-- A call of a method of vectors is a call of that name on a vector, in the code of the crate. -/
theorem ofVec_of_callee {name : String} (other : name ≠ "clone")
    (member : Node.expr (.methodCall origin receiver method args span genericArgs) ∈ crate.walk)
    (called : tables.resolver.callee origin.id = some (Library.vec ++ [name])) :
    Node.expr (.methodCall origin receiver method args span genericArgs) ∈ (Node.crate crate).code ∧
      method = name ∧ OfVec crate tables receiver name := by
  obtain ⟨inCode, callee, found, path⟩ := callee_grounded distinct inferred member called
  -- The path of the callee names the method; the type that offers it is looked at afterwards.
  obtain ⟨step, _, foundAt⟩ := findSome?_eq_some.mp found
  obtain ⟨isVec, rfl⟩ := isAdt_of_path (.inl rfl) foundAt path
  obtain ⟨step, offering, foundAt⟩ := (findMethod?_eq_some other).mp found
  exact ⟨inCode, rfl, step, offering, (isAdt_of_path (.inl rfl) foundAt path).1⟩

/-- A call of `Option::unwrap` or `Option::expect` has that name. -/
theorem unwraps_of_callee
    (member : Node.expr (.methodCall origin receiver method args span genericArgs) ∈ crate.walk)
    (called : tables.resolver.callee origin.id = some Library.optionUnwrap ∨
      tables.resolver.callee origin.id = some Library.optionExpect) :
    method = "unwrap" ∨ method = "expect" := by
  have named : ∀ name, tables.resolver.callee origin.id = some (Library.option ++ [name]) →
      method = name := by
    intro name called
    obtain ⟨_, callee, found, path⟩ := callee_grounded distinct inferred member called
    obtain ⟨step, _, foundAt⟩ := findSome?_eq_some.mp found
    exact (isAdt_of_path (.inr rfl) foundAt path).2
  exact called.imp (named _) (named _)

/-- A call on a vector resolves to the method of vectors and returns what the library says, unless
an implementation has an inherent method of the name. -/
theorem callee_of_ofVec {returned : ReturnType} (other : method ≠ "clone")
    (known : libraryMethod? Library.vec method = some returned)
    (inCode : Node.expr (.methodCall origin receiver method args span genericArgs) ∈
      (Node.crate crate).code) (ofVec : OfVec crate tables receiver method) :
    tables.resolver.callee origin.id = some (Library.vec ++ [method]) ∧
      (NoInherent (Declarations.ofCrate crate) Library.vec → method ≠ "collect" →
        ∃ step, tables.typeOf origin.id = returned step) := by
  obtain ⟨step, offering, isVec⟩ := ofVec
  obtain ⟨callee, foundAt, path, result⟩ := methodOn?_of_library (.ofCrate crate) isVec known
  have found := (findMethod?_eq_some other).mpr ⟨step, offering, foundAt⟩
  obtain ⟨called, typed⟩ := callee_of_found distinct inferred inCode found
  refine ⟨by rw [called, path], fun foreign uncollected => ⟨step, ?_⟩⟩
  rw [typed uncollected, result (inherentMethod?_eq_none foreign isVec), resultType]

/-- A call that takes the value out of an option resolves to the method of options. -/
theorem callee_of_option {element : SemTy} (unwraps : method = "unwrap" ∨ method = "expect")
    (typed : tables.typeOf receiver.origin.id = .option element)
    (inCode : Node.expr (.methodCall origin receiver method args span genericArgs) ∈
      (Node.crate crate).code) :
    tables.resolver.callee origin.id = some (Library.option ++ [method]) := by
  have isOption : (SemTy.option element).isAdt Library.option = true := rfl
  have known : libraryMethod? Library.option method = some SemTy.inner := by
    rcases unwraps with rfl | rfl <;> rfl
  have isKnown : (SemTy.option element).isKnown = true := rfl
  obtain ⟨callee, foundAt, path, _⟩ := methodOn?_of_library (.ofCrate crate) isOption known
  -- An option is known, so the look-up starts and ends at it.
  have found : (MethodTable.ofCrate crate).findMethod? (tables.typeOf receiver.origin.id) method =
      some callee := by
    rw [typed, findMethod?, autoderef, autoderefWithin, if_pos isKnown, List.findSome?_cons,
      foundAt]
  rw [(callee_of_found distinct inferred inCode found).1, path]

end

/-! ## The loops that are found -/

section

variable {crate : Crate} {tables : Tables} (distinct : (crate.walk.map Node.id).Nodup)
  (inferred : (inferCrate crate).result = .ok tables)
  {origin : Origin} {cond : Expr} {body : Block} {header : Span} {label : Option String}

theorem cond_mem_code : Node.expr cond ∈
    (Node.expr (.whileLoop origin cond body header label)).code :=
  Node.mem_code_child (by simp [Node.children_eq, Node.fields]) rfl

theorem body_mem_code : Node.expr (.block body) ∈
    (Node.expr (.whileLoop origin cond body header label)).code :=
  Node.mem_code_child (by simp [Node.children_eq, Node.fields]) rfl

theorem taken_mem_code {first : Stmt} {rest : List Stmt} {form : PopForm} {span : Span}
    {expr : Expr} (listed : body.stmts = first :: rest) (takes : Takes first form span expr) :
    Node.expr expr ∈ (Node.expr (.whileLoop origin cond body header label)).code := by
  have isFirst : first ∈ body.stmts := by
    rw [listed]
    exact List.mem_cons_self
  exact Node.mem_code_trans body_mem_code
    (Node.mem_code_trans (mem_code_of_mem_stmts isFirst) takes.expr_mem)

theorem receiver_mem_code {receiver : Expr} {method : String} {args : List Expr} {span : Span}
    {genericArgs : List Ty} : Node.expr receiver ∈
      (Node.expr (.methodCall origin receiver method args span genericArgs)).code :=
  Node.mem_code_child (by simp [Node.children_eq, Node.fields]) rfl

include distinct inferred

theorem drains_of_found {finding : Finding}
    (listed : Node.expr (.whileLoop origin cond body header label) ∈ crate.walk)
    (found : examine tables.resolver cond (.block body) header = .found finding) :
    Node.InBody (.crate crate) (.expr (.whileLoop origin cond body header label)) ∧
      Drains crate tables cond body := by
  obtain ⟨call, checked, first, rest, form, span, expr, tests, emptiness, stmts, takes, pops⟩ :=
    examine_found_iff.mp ⟨finding, found⟩
  obtain ⟨popped, popsBy, same⟩ := popsFrom_iff.mp pops
  have inLoop : ∀ node, node ∈ (Node.expr (.whileLoop origin cond body header label)).code →
      node ∈ crate.walk := fun node below =>
    Node.mem_walk_trans listed ((Node.code_sublist _).subset below)
  have callInLoop : Node.expr call ∈ (Node.expr (.whileLoop origin cond body header label)).code :=
    Node.mem_code_trans cond_mem_code tests.call_mem
  have exprInLoop : Node.expr expr ∈ (Node.expr (.whileLoop origin cond body header label)).code :=
    taken_mem_code stmts takes
  cases popsBy with
  | @popped outer popOrigin _ popMethod method popArgs args popSpan span popGenericArgs genericArgs
      unwraps isPop =>
    have popInLoop := Node.mem_code_trans exprInLoop receiver_mem_code
    cases tests with
    | @negated _ callOrigin _ isEmpty callArgs callSpan callGenericArgs =>
      obtain ⟨inCode, rfl, checksVec⟩ := ofVec_of_callee distinct inferred (by decide)
        (inLoop _ callInLoop) (isMethodCallOf_iff.mp emptiness)
      obtain ⟨_, rfl, popsVec⟩ := ofVec_of_callee distinct inferred (by decide)
        (inLoop _ popInLoop) isPop
      have isUnwrap := unwraps_of_callee distinct inferred (inLoop _ exprInLoop) unwraps
      -- The call is in the code of the crate, so the loop above it is too.
      have loopInCode := Node.mem_code_of_below distinct listed
        ((Node.code_sublist _).subset callInLoop) inCode
      exact ⟨Node.inBody_of_mem_code loopInCode, checked, popped, first, rest, form, _, _,
        .isEmpty checksVec, stmts, takes, .popped isUnwrap popsVec, same⟩

theorem found_of_drains (foreign : NoInherent (Declarations.ofCrate crate) Library.vec)
    (inBody : Node.InBody (.crate crate) (.expr (.whileLoop origin cond body header label)))
    (drains : Drains crate tables cond body) :
    ∃ finding, examine tables.resolver cond (.block body) header = .found finding := by
  obtain ⟨checked, popped, first, rest, form, span, expr, checks, stmts, takes, pops, same⟩ := drains
  have inCode : ∀ node, node ∈ (Node.expr (.whileLoop origin cond body header label)).code →
      node ∈ (Node.crate crate).code := fun node below => Node.mem_code_trans inBody.mem_code below
  have exprInLoop : Node.expr expr ∈ (Node.expr (.whileLoop origin cond body header label)).code :=
    taken_mem_code stmts takes
  cases checks with
  | @isEmpty condOrigin callOrigin _ callArgs callSpan callGenericArgs checksVec =>
    have callInLoop : Node.expr (.methodCall callOrigin checked "is_empty" callArgs callSpan
        callGenericArgs) ∈ (Node.expr (.whileLoop origin (.unary condOrigin .not (.methodCall
          callOrigin checked "is_empty" callArgs callSpan callGenericArgs)) body header
            label)).code :=
      Node.mem_code_trans cond_mem_code Tests.negated.call_mem
    cases pops with
    | @popped outer popOrigin _ method args popArgs span popSpan genericArgs popGenericArgs unwraps
        popsVec =>
      have popInLoop := Node.mem_code_trans exprInLoop receiver_mem_code
      obtain ⟨isEmptyCallee, _⟩ := callee_of_ofVec distinct inferred (by decide) rfl
        (inCode _ callInLoop) checksVec
      obtain ⟨popCallee, returned⟩ := callee_of_ofVec distinct inferred (by decide) rfl
        (inCode _ popInLoop) popsVec
      -- `pop` returns an option of the element, at which `unwrap` and `expect` are looked up.
      obtain ⟨step, returnedType⟩ := returned foreign (by decide)
      have typed : tables.typeOf (Expr.methodCall popOrigin popped "pop" popArgs popSpan
        popGenericArgs).origin.id = .option step.inner := returnedType
      have unwrapCallee := callee_of_option distinct inferred unwraps typed (inCode _ exprInLoop)
      have unwraps' : tables.resolver.callee outer.id = some Library.optionUnwrap ∨
          tables.resolver.callee outer.id = some Library.optionExpect := by
        rcases unwraps with rfl | rfl
        · exact .inl unwrapCallee
        · exact .inr unwrapCallee
      exact examine_found_iff.mpr ⟨_, checked, first, rest, form, _, _, .negated,
        isMethodCallOf_iff.mpr isEmptyCallee, stmts, takes,
        popsFrom_iff.mpr ⟨popped, .popped unwraps' popCallee, same⟩⟩

end

/-! ## A loop over one operand -/

/-- A name with the same binding on both sides, below the same operators. -/
def sameOperand (resolver : Resolver) : Expr → Expr → Bool
  | .path left leftName [], .path right rightName [] =>
    leftName == rightName && resolver.binding left.id == resolver.binding right.id &&
      (resolver.binding right.id).isSome
  | .unary _ leftOp left, .unary _ rightOp right =>
    leftOp == rightOp && sameOperand resolver left right
  | _, _ => false

theorem sameExpr_of_sameOperand {resolver : Resolver} {left right : Expr}
    (same : sameOperand resolver left right = true) :
    Comparison.sameExpr { resolver? := some resolver } left right = true := by
  -- Paths that are bound are compared by their binding alone, operators by their fields.
  induction left, right using sameOperand.induct with
  | case1 left leftName right rightName =>
    simp only [sameOperand, Bool.and_eq_true, beq_iff_eq] at same
    obtain ⟨⟨rfl, bound⟩, isBound⟩ := same
    obtain ⟨binding, isBinding⟩ := Option.isSome_iff_exists.mp isBound
    simp [Comparison.sameExpr, Comparison.sameNode, Comparison.identity?, Comparison.binding?,
      Node.className, bound, isBinding]
  | case2 leftOrigin leftOp left rightOrigin rightOp right inductionHypothesis =>
    simp only [sameOperand, Bool.and_eq_true, beq_iff_eq] at same
    obtain ⟨rfl, same⟩ := same
    have sameBelow : Comparison.sameNode { resolver? := some resolver } (.expr left)
      (.expr right) := inductionHypothesis same
    rw [Comparison.sameExpr, Comparison.sameNode]
    simp [Comparison.identity?, Node.className, Node.fields, Value.ofExpr, Comparison.sameValues,
      Comparison.sameValue, sameBelow]
  | case3 left right notPaths notUnaries => simp_all [sameOperand]

/-- A loop that starts by popping from the operand it checks into a variable. -/
def drainsOperand (resolver : Resolver) : Node → Bool
  | .expr (.whileLoop _ (.unary _ .not (.methodCall isEmpty checked _ _ _ _))
      (.mk _ (.letStmt _ _ _ (some (.methodCall unwrap (.methodCall pop popped _ _ _ _) _ _ _ _))
        _ :: _) _ _) _ _) =>
    resolver.callee isEmpty.id == some Library.vecIsEmpty &&
      resolver.callee pop.id == some Library.vecPop &&
      resolver.callee unwrap.id == some Library.optionUnwrap && sameOperand resolver popped checked
  | _ => false

theorem examine_of_drainsOperand {resolver : Resolver} {node : Node}
    (drains : drainsOperand resolver node = true) :
    ∃ origin cond body header label, node = .expr (.whileLoop origin cond body header label) ∧
      ∃ finding, examine resolver cond (.block body) header = .found finding := by
  unfold drainsOperand at drains
  split at drains
  · simp only [Bool.and_eq_true, beq_iff_eq] at drains
    obtain ⟨⟨⟨isEmptyCallee, popCallee⟩, unwrapCallee⟩, same⟩ := drains
    exact ⟨_, _, _, _, _, rfl, examine_found_iff.mpr ⟨_, _, _, _, _, _, _, .negated,
      isMethodCallOf_iff.mpr isEmptyCallee, rfl, .letStmt, popsFrom_iff.mpr
        ⟨_, .popped (.inl unwrapCallee) popCallee, sameExpr_of_sameOperand same⟩⟩⟩
  · cases drains

/-- A function that drains a vector by hand. -/
def drainFile : SourceFile := ⟨"drain.rs",
  "fn f(v: &mut Vec<i32>) { while !v.is_empty() { let x = v.pop().unwrap(); } }".toList⟩

theorem drainFile_found : ∃ crate tables origin cond body header label finding,
    drainFile.parse = .ok crate ∧ (inferCrate crate).result = .ok tables ∧
      NoInherent (Declarations.ofCrate crate) Library.vec ∧
      Node.expr (.whileLoop origin cond body header label) ∈ crate.walk ∧
      examine tables.resolver cond (.block body) header = .found finding := by
  have evaluated : drainFile.crateNoted?.any (fun crate => (inferCrate crate).fault?.isNone &&
      (Declarations.ofCrate crate).impls.isEmpty &&
      crate.walk.any (drainsOperand (inferCrate crate).tables.resolver)) = true := by decide +kernel
  obtain ⟨crate, parsed, checked⟩ := SourceFile.parse_of_noted evaluated
  simp only [Bool.and_eq_true, Option.isNone_iff_eq_none, List.isEmpty_iff,
    List.any_eq_true] at checked
  obtain ⟨⟨faultless, noImpl⟩, node, listed, drains⟩ := checked
  obtain ⟨origin, cond, body, header, label, rfl, finding, found⟩ := examine_of_drainsOperand drains
  have inferred : (inferCrate crate).result = .ok (inferCrate crate).tables := by
    rw [Inference.result, faultless]
  have foreign : NoInherent (Declarations.ofCrate crate) Library.vec := by
    intro impl isListed
    rw [noImpl] at isListed
    cases isListed
  exact ⟨crate, _, origin, cond, body, header, label, finding, parsed, inferred, foreign, listed,
    found⟩

/-! ## Exactness -/

/-- Exactly the loops in bodies that drain a vector by hand are found: what the side tables say of
the calls agrees with the types of their receivers, for every nesting of nodes. -/
theorem examine_found_iff_drains {source : SourceFile} {crate : Crate} {tables : Tables}
    {origin : Origin} {cond : Expr} {body : Block} {header : Span} {label : Option String}
    (parsed : source.parse = .ok crate) (inferred : (inferCrate crate).result = .ok tables)
    (foreign : NoInherent (Declarations.ofCrate crate) Library.vec)
    (listed : Node.expr (.whileLoop origin cond body header label) ∈ crate.walk) :
    (∃ finding, examine tables.resolver cond (.block body) header = .found finding) ↔
      Node.InBody (.crate crate) (.expr (.whileLoop origin cond body header label)) ∧
        Drains crate tables cond body := by
  obtain ⟨last, placed⟩ := source.parse_inPlace parsed
  have distinct : (crate.walk.map Node.id).Nodup := by
    have := placed.distinct
    rwa [Node.walkAll_cons, Node.walkAll_nil, List.append_nil] at this
  -- A file that parses gives no number twice, so the tables have one entry for each node.
  constructor
  · rintro ⟨finding, found⟩
    exact drains_of_found distinct inferred listed found
  · rintro ⟨inBody, drains⟩
    exact found_of_drains distinct inferred foreign inBody drains

theorem examine_found_iff_drains_drainFile : ∃ crate tables origin cond body header label,
    drainFile.parse = .ok crate ∧ (inferCrate crate).result = .ok tables ∧
      NoInherent (Declarations.ofCrate crate) Library.vec ∧
      Node.expr (.whileLoop origin cond body header label) ∈ crate.walk ∧
      Node.InBody (.crate crate) (.expr (.whileLoop origin cond body header label)) ∧
        Drains crate tables cond body := by
  obtain ⟨crate, tables, origin, cond, body, header, label, finding, parsed, inferred, foreign,
    listed, found⟩ := drainFile_found
  exact ⟨crate, tables, origin, cond, body, header, label, parsed, inferred, foreign, listed,
    (examine_found_iff_drains parsed inferred foreign listed).mp ⟨finding, found⟩⟩

end DrainLint.Lint
