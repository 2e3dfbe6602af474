import DrainLint.Proofs.Fix.Landing
import DrainLint.Proofs.Scoping.Places

/-! # The variable that a fix introduces

Where an argument pops, the fixed loop binds the placeholder for its whole body.

- `body_source`: a use in the body of a loop leads to a variable bound in the body, or to one that
  the loop sees;
- `answers_kept`: a new variable takes no use from another one unless that has its name;
- `PlaceholderScope`: both, for the placeholder of a loop that is found, and what it captures;
- `placeholder_captures`: every loop that is found has it;
- `placeholder_hides_parameter_elementFile`: a use that leads out of the body.
-/

namespace DrainLint.Lint

open Hir Typing

section

variable {crate : Crate} {origin : Origin} {cond : Expr} {body : Block} {header : Span}
  {label : Option String} {name : String} {visible : Visible}

/-- A condition that tests a receiver binds nothing. -/
theorem Tests.binders {call receiver : Expr} (tests : Tests cond call receiver) :
    cond.binders = [] := by
  cases tests
  rfl

/-- Below a condition that binds nothing, the body of a loop sees what the loop sees. -/
theorem sees_body_of_loop (unbound : cond.binders = [])
    (sees : Node.Sees (.crate crate) [] visible (.expr (.whileLoop origin cond body header label))) :
    Node.Sees (.crate crate) [] visible (.expr (.block body)) := by
  have isBody : (visible, Node.expr (.block body)) ∈
      (Node.expr (.whileLoop origin cond body header label)).parts visible := by
    simp [Node.parts, unbound]
  exact sees.part isBody

/-- A use in the body of a loop leads to a variable that is bound in the body, or to one that the
loop sees. -/
theorem body_source (distinct : (crate.walk.map Node.id).Nodup) (unbound : cond.binders = [])
    (listed : Node.expr (.whileLoop origin cond body header label) ∈ crate.walk)
    {use : Origin} {genericArgs : List Ty} {binding : Nat}
    (inside : Node.expr (.path use [name] genericArgs) ∈ (Node.expr (.block body)).walk)
    (resolves : (inferCrate crate).tables.resolver.binding use.id = some binding) :
    Node.BindsBelow (.expr (.block body)) (name, binding) ∨
      ∃ visible, Node.Sees (.crate crate) [] visible
          (.expr (.whileLoop origin cond body header label)) ∧
        visible.lookup name = some binding := by
  have isBody : Node.expr (.block body) ∈
      (Node.expr (.whileLoop origin cond body header label)).children := by
    simp [Node.children_eq, Node.fields]
  have below := Node.mem_walk_of_child isBody inside
  -- What resolves is code, so the loop above it is, and stands at some place.
  have inCode := mem_code_of_binding distinct (Node.mem_walk_trans listed below) resolves
  obtain ⟨visible, sees⟩ :=
    Node.exists_sees [] (Node.mem_code_of_below distinct listed below inCode)
  have source := binding_source distinct (sees_body_of_loop unbound sees) inside resolves
  rcases source.bound_or_seen with bound | seen
  · exact .inl bound
  · exact .inr ⟨visible, sees, seen⟩

/-- A new variable takes no use from another one unless that has its name. -/
theorem answers_kept {node : Node} {added use binding : Nat} (free : visible.lookup name = none)
    (answered : (use, some binding) ∈ node.answers visible) :
    (use, some binding) ∈ node.answers ((name, added) :: visible) := by
  refine Node.answers_mono (fun other binding seen => ?_) answered
  have different : other ≠ name := by
    rintro rfl
    rw [free] at seen
    cases seen
  rw [List.lookup_cons, beq_false_of_ne different]
  exact seen

end

/-! ## Loops with an argument that pops -/

/-- A loop over an empty check that starts with a call is found in the argument form where one of the
arguments pops. -/
theorem examine_of_argument {resolver : Resolver} {cond call checked value arg : Expr}
    {body : Block} {origin : Origin} {semi : Bool} {rest : List Stmt} (header : Span)
    (tests : Tests cond call checked)
    (emptiness : isMethodCallOf resolver Library.vecIsEmpty call = true)
    (starts : body.stmts = .expr origin value semi :: rest) (listed : arg ∈ callArgs value)
    (pops : popsFrom resolver checked arg = true) :
    ∃ finding, examine resolver cond (.block body) header = .found finding ∧
      finding.form = .argument := by
  obtain ⟨finding, found⟩ := examine_found_iff.mpr
    ⟨call, checked, _, rest, .argument, _, arg, tests, emptiness, starts, .argument listed, pops⟩
  obtain ⟨_, _, first, _, _, listed, takes⟩ := examine_describes found
  rw [starts] at listed
  cases listed
  refine ⟨finding, found, ?_⟩
  generalize finding.form = form, finding.popSpan = span at takes
  cases takes
  rfl

/-- Whether a loop starts with a call whose first argument pops from the operand it checks. -/
def drainsArgument (resolver : Resolver) : Node → Bool
  | .expr (.whileLoop _ (.unary _ .not (.methodCall isEmpty checked _ _ _ _))
      (.mk _ (.expr _ (.call _ _
        (.methodCall unwrap (.methodCall pop popped _ _ _ _) _ _ _ _ :: _)) _ :: _) _ _) _ _) =>
    resolver.callee isEmpty.id == some Library.vecIsEmpty &&
      resolver.callee pop.id == some Library.vecPop &&
      resolver.callee unwrap.id == some Library.optionUnwrap && sameOperand resolver popped checked
  | _ => false

theorem examine_of_drainsArgument {resolver : Resolver} {origin : Origin} {cond : Expr}
    {body : Block} {header : Span} {label : Option String}
    (drains : drainsArgument resolver (.expr (.whileLoop origin cond body header label)) = true) :
    ∃ finding, examine resolver cond (.block body) header = .found finding ∧
      finding.form = .argument := by
  unfold drainsArgument at drains
  split at drains
  · next shape =>
    cases shape
    simp only [Bool.and_eq_true, beq_iff_eq] at drains
    obtain ⟨⟨⟨isEmptyCallee, popCallee⟩, unwrapCallee⟩, same⟩ := drains
    refine examine_of_argument _ .negated (isMethodCallOf_iff.mpr isEmptyCallee) rfl
      List.mem_cons_self (popsFrom_iff.mpr ?_)
    exact ⟨_, .popped (.inl unwrapCallee) popCallee, sameExpr_of_sameOperand same⟩
  · cases drains

/-- A function that drains a vector into calls, with an argument named like the placeholder. -/
def elementFile : SourceFile := ⟨"element.rs",
  "fn f(mut v: Vec<i32>, element: i32) { while !v.is_empty() { g(v.pop().unwrap(), element); } }"
    |>.toList⟩

/-- The uses of the placeholder's name in the body of a loop that lead out of the body. -/
def leadsOut (resolver : Resolver) (body : Block) : Node → Bool
  | .expr (.path use ["element"] _) =>
    (resolver.binding use.id).any fun binding =>
      (Node.expr (.block body)).walk.all fun binder => binder.binds? != some ("element", binding)
  | _ => false

theorem exists_of_leadsOut {resolver : Resolver} {body : Block} {node : Node}
    (leads : leadsOut resolver body node = true) :
    ∃ use genericArgs binding, node = .expr (.path use [placeholder] genericArgs) ∧
      resolver.binding use.id = some binding ∧
      ¬ Node.BindsBelow (.expr (.block body)) (placeholder, binding) := by
  unfold leadsOut at leads
  split at leads
  · obtain ⟨binding, resolves, outside⟩ := (Option.any_eq_true _ _).mp leads
    refine ⟨_, _, binding, rfl, resolves, ?_⟩
    rintro ⟨binder, inside, binds⟩
    exact bne_iff_ne.mp (List.all_eq_true.mp outside binder inside) binds
  · cases leads

def loopBody? : Node → Option Block
  | .expr (.whileLoop _ _ body _ _) => some body
  | _ => none

theorem eq_loop_of_loopBody? {node : Node} {body : Block} (isLoop : loopBody? node = some body) :
    ∃ origin cond header label, node = .expr (.whileLoop origin cond body header label) := by
  unfold loopBody? at isLoop
  split at isLoop
  · cases isLoop
    exact ⟨_, _, _, _, rfl⟩
  · cases isLoop

theorem elementFile_found : ∃ crate origin cond body header label finding use genericArgs binding,
    elementFile.parse = .ok crate ∧
      (inferCrate crate).result = .ok (inferCrate crate).tables ∧
      Node.expr (.whileLoop origin cond body header label) ∈ crate.walk ∧
      examine (inferCrate crate).tables.resolver cond (.block body) header = .found finding ∧
      finding.form = .argument ∧
      Node.expr (.path use [placeholder] genericArgs) ∈ (Node.expr (.block body)).walk ∧
      (inferCrate crate).tables.resolver.binding use.id = some binding ∧
      ¬ Node.BindsBelow (.expr (.block body)) (placeholder, binding) := by
  have evaluated : elementFile.crateNoted?.any (fun crate =>
      (inferCrate crate).fault?.isNone && crate.walk.any fun node =>
        drainsArgument (inferCrate crate).tables.resolver node &&
          (loopBody? node).any fun body => (Node.expr (.block body)).walk.any
            (leadsOut (inferCrate crate).tables.resolver body)) = true := by
    decide +kernel
  obtain ⟨crate, parsed, checked⟩ := SourceFile.parse_of_noted evaluated
  simp only [Bool.and_eq_true, Option.isNone_iff_eq_none, List.any_eq_true] at checked
  obtain ⟨faultless, node, listed, drains, uses⟩ := checked
  obtain ⟨body, isLoop, uses⟩ := (Option.any_eq_true _ _).mp uses
  obtain ⟨origin, cond, header, label, rfl⟩ := eq_loop_of_loopBody? isLoop
  obtain ⟨inner, inside, leads⟩ := List.any_eq_true.mp uses
  obtain ⟨use, genericArgs, binding, rfl, resolves, outside⟩ := exists_of_leadsOut leads
  obtain ⟨finding, found, isArgument⟩ := examine_of_drainsArgument drains
  have inferred : (inferCrate crate).result = .ok (inferCrate crate).tables := by
    rw [Inference.result, faultless]
  exact ⟨crate, origin, cond, body, header, label, finding, use, genericArgs, binding, parsed,
    inferred, listed, found, isArgument, inside, resolves, outside⟩

/-! ## What the placeholder captures -/

/-- Where the uses of the placeholder's name in the body of a loop lead, before and after the header
binds the placeholder. -/
structure PlaceholderScope (crate : Crate) (loop : Node) (body : Block) (form : PopForm) : Prop where
  source : ∀ use genericArgs binding,
    Node.expr (.path use [placeholder] genericArgs) ∈ (Node.expr (.block body)).walk →
    (inferCrate crate).tables.resolver.binding use.id = some binding →
      Node.BindsBelow (.expr (.block body)) (placeholder, binding) ∨
        ∃ visible, Node.Sees (.crate crate) [] visible loop ∧
          visible.lookup placeholder = some binding
  kept : ∀ visible, Node.Sees (.crate crate) [] visible loop →
    visible.lookup placeholder = none →
      Node.Sees (.crate crate) [] visible (.expr (.block body)) ∧
        ∀ pat, form.BoundBy pat → ∀ use binding,
          (use, some binding) ∈ (Node.expr (.block body)).answers visible →
            (use, some binding) ∈ (Node.expr (.block body)).answers (pat.binders ++ visible)
  captured : ∀ visible, Node.Sees (.crate crate) [] visible loop → ∀ pat, form.BoundBy pat →
    ∀ use genericArgs binding,
      Node.expr (.path use [placeholder] genericArgs) ∈ (Node.expr (.block body)).walk →
      (inferCrate crate).tables.resolver.binding use.id = some binding →
      ¬ Node.BindsBelow (.expr (.block body)) (placeholder, binding) →
        (use.id, some pat.origin.id) ∈ (Node.expr (.block body)).answers (pat.binders ++ visible)

/-- In the body of a loop with an argument that pops, a use of the placeholder's name leads to a
variable bound in the body or to one that the loop sees.  If the loop sees none, the header of the
fixed loop leaves every use in the body with its variable; and it takes each use that leads out of the
body for itself. -/
theorem placeholder_captures {source : SourceFile} {crate : Crate} {resolver : Resolver}
    {origin : Origin} {cond : Expr} {body : Block} {header : Span} {label : Option String}
    {finding : Finding} (parsed : source.parse = .ok crate)
    (listed : Node.expr (.whileLoop origin cond body header label) ∈ crate.walk)
    (found : examine resolver cond (.block body) header = .found finding)
    (isArgument : finding.form = .argument) :
    PlaceholderScope crate (.expr (.whileLoop origin cond body header label)) body finding.form := by
  obtain ⟨_, ⟨_, _, tests, _⟩, _⟩ := examine_describes found
  constructor
  case source =>
    intro use genericArgs binding inside resolves
    exact body_source (SourceFile.parse_distinct parsed) tests.binders listed inside resolves
  case kept =>
    intro visible sees free
    refine ⟨sees_body_of_loop tests.binders sees, fun pat bound use binding answered => ?_⟩
    rw [isArgument] at bound
    obtain ⟨patOrigin, rfl⟩ := bound
    exact answers_kept free answered
  case captured =>
    intro visible sees pat bound use genericArgs binding inside resolves outside
    rw [isArgument] at bound
    obtain ⟨patOrigin, rfl⟩ := bound
    have source := binding_source (SourceFile.parse_distinct parsed)
      (sees_body_of_loop tests.binders sees) inside resolves
    cases source with
    | inner within _ => exact absurd within outside
    | outer _ follows => exact follows _ _ rfl

theorem placeholder_captures_elementFile : ∃ crate origin cond body header label finding,
    elementFile.parse = .ok crate ∧
      Node.expr (.whileLoop origin cond body header label) ∈ crate.walk ∧
      examine (inferCrate crate).tables.resolver cond (.block body) header = .found finding ∧
      finding.form = .argument ∧
      PlaceholderScope crate (.expr (.whileLoop origin cond body header label)) body
        finding.form := by
  obtain ⟨crate, origin, cond, body, header, label, finding, _, _, _, parsed, _, listed, found,
    isArgument, _⟩ := elementFile_found
  exact ⟨crate, origin, cond, body, header, label, finding, parsed, listed, found, isArgument,
    placeholder_captures parsed listed found isArgument⟩

/-- A loop is found although a use of the placeholder's name in its body leads out of the body, to
the parameter of the function. -/
theorem placeholder_hides_parameter_elementFile : ∃ crate origin cond body header label finding,
    elementFile.parse = .ok crate ∧
      (inferCrate crate).result = .ok (inferCrate crate).tables ∧
      Node.expr (.whileLoop origin cond body header label) ∈ crate.walk ∧
      examine (inferCrate crate).tables.resolver cond (.block body) header = .found finding ∧
      finding.form = .argument ∧
      ¬ ∀ use genericArgs binding,
        Node.expr (.path use [placeholder] genericArgs) ∈ (Node.expr (.block body)).walk →
        (inferCrate crate).tables.resolver.binding use.id = some binding →
          Node.BindsBelow (.expr (.block body)) (placeholder, binding) := by
  obtain ⟨crate, origin, cond, body, header, label, finding, use, genericArgs, binding, parsed,
    inferred, listed, found, isArgument, inside, resolves, outside⟩ := elementFile_found
  exact ⟨crate, origin, cond, body, header, label, finding, parsed, inferred, listed, found,
    isArgument, fun bound => outside (bound use genericArgs binding inside resolves)⟩

end DrainLint.Lint
