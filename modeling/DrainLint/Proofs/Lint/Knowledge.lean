import DrainLint.Proofs.Lint.Detection
import DrainLint.Proofs.SameCode.Equivalence

/-! # Findings and what is known of the calls

A call that is not resolved is not matched.  The more calls are resolved, the more loops are found:
no loop is lost by it, and what is reported of a loop stays, except that an earlier argument of the
call in its first statement may turn out to pop as well.

- `Resolver.Extends`: the same bindings, and whatever else was known of the calls;
- `sameExpr_of_binding`: which code is the same depends on the bindings only;
- `Earlier`: the arguments of a call in the order in which they are tried;
- `Finding.Anticipates`: what a finding may become;
- `examineAll_extends`: of the loops of a crate, those that were found are found still;
- `examine_extends`: a loop that is found is found still when more is known, and none is found when
  nothing is.
-/

namespace DrainLint

namespace Hir

/-- A resolver that has the bindings of another and resolves every call that it resolves alike. -/
structure Resolver.Extends (more less : Resolver) : Prop where
  binding : more.binding = less.binding
  callee : ∀ {id : Nat} {path : Path}, less.callee id = some path → more.callee id = some path

namespace Comparison

/-! ## Bindings -/

section

variable (left right : Comparison) (effects : left.allowsEffects = right.allowsEffects)
  (bindings : left.binding? = right.binding?)

include bindings in
theorem identity?_of_binding (node : Node) : left.identity? node = right.identity? node := by
  cases node with
  | expr expr =>
    cases expr with
    -- Nothing but a path is looked up.
    | path origin segments genericArgs => rw [identity?, identity?, bindings]
    | _ => rfl
  | stmt stmt => cases stmt <;> rfl
  | _ => rfl

include effects bindings in
/-- Beside whether effects are allowed, a comparison asks for the bindings and for nothing else. -/
theorem same_of_binding :
    FieldInduction (fun first => ∀ second, left.sameNode first second = right.sameNode first second)
      (fun first => ∀ second, left.sameValue first second = right.sameValue first second)
      (fun firsts => ∀ seconds, left.sameValues firsts seconds = right.sameValues firsts seconds) where
  node first fields second := by
    rw [sameNode, sameNode, effects, identity?_of_binding left right bindings first,
      identity?_of_binding left right bindings second, fields]
  ofNode first same second := by cases second <;> simp only [sameValue, same]
  ofList firsts same second := by cases second <;> simp only [sameValue, same]
  plain first isPlain second := by
    cases first with
    | node | list => cases isPlain
    | _ => cases second <;> simp only [sameValue]
  nil seconds := by cases seconds <;> simp only [sameValues]
  cons first firsts sameHead sameTail seconds := by
    cases seconds <;> simp only [sameValues, sameHead, sameTail]

end

theorem sameExpr_of_binding {more less : Resolver} (bindings : more.binding = less.binding)
    (first second : Expr) :
    sameExpr { resolver? := some more } first second =
      sameExpr { resolver? := some less } first second :=
  (same_of_binding { resolver? := some more } { resolver? := some less } rfl bindings).toNode _ _

end Comparison
end Hir

namespace Lint

open Hir

/-! ## Arguments -/

/-- The spans of two arguments of the call in a statement, one before the other. -/
inductive Earlier : Stmt → Span → Span → Prop
  | argument {origin : Origin} {expr early late : Expr} {semi : Bool}
      (ordered : [early, late].Sublist (callArgs expr)) :
      Earlier (.expr origin expr semi) early.origin.span late.origin.span

/-- What passes a weaker test is found no later. -/
theorem find?_weaker {α : Type} {weak strong : α → Bool}
    (implied : ∀ a, strong a = true → weak a = true) {as : List α} {late : α}
    (found : as.find? strong = some late) :
    ∃ early, as.find? weak = some early ∧ (early = late ∨ [early, late].Sublist as) := by
  induction as with
  | nil => cases found
  | cons a as inductionHypothesis =>
    by_cases isStrong : strong a = true
    · rw [List.find?_cons_of_pos isStrong] at found
      obtain rfl := Option.some.inj found
      exact ⟨a, List.find?_cons_of_pos (implied a isStrong), .inl rfl⟩
    · rw [List.find?_cons_of_neg isStrong] at found
      -- What passes the weaker test alone is found first, and stands before the other.
      by_cases isWeak : weak a = true
      · have listed := List.singleton_sublist.mpr (List.mem_of_find?_eq_some found)
        exact ⟨a, List.find?_cons_of_pos isWeak, .inr (listed.cons_cons a)⟩
      · obtain ⟨early, first, ordered⟩ := inductionHypothesis found
        exact ⟨early, (List.find?_cons_of_neg isWeak).trans first, ordered.imp_right (.cons a)⟩

/-! ## Findings -/

/-- A finding of the same loop and the same form, in the same place or at an earlier argument of
the first statement. -/
structure Finding.Anticipates (stmt : Stmt) (early late : Finding) : Prop where
  form : early.form = late.form
  loopSpan : early.loopSpan = late.loopSpan
  receiverSpan : early.receiverSpan = late.receiverSpan
  popSpan : early.popSpan = late.popSpan ∨ Earlier stmt early.popSpan late.popSpan

section

variable {more less : Resolver} (knows : more.Extends less) {checked expr : Expr} {stmt : Stmt}
  {header : Span} {finding : Finding}

include knows

theorem isMethodCallOf_extends {definition : Path}
    (calls : isMethodCallOf less definition expr = true) :
    isMethodCallOf more definition expr = true := by
  cases expr with
  | methodCall => exact isMethodCallOf_iff.mpr (knows.callee (isMethodCallOf_iff.mp calls))
  | _ => cases calls

theorem popsFrom_extends (pops : popsFrom less checked expr = true) :
    popsFrom more checked expr = true := by
  obtain ⟨popped, isPopped, same⟩ := popsFrom_iff.mp pops
  refine popsFrom_iff.mpr ⟨popped, ?_, ?_⟩
  · cases isPopped with
    | popped unwraps popsVec =>
      exact .popped (unwraps.imp knows.callee knows.callee) (knows.callee popsVec)
  · rw [Comparison.sameExpr_of_binding knows.binding, same]

theorem letFinding?_extends (found : letFinding? less checked header stmt = some finding) :
    letFinding? more checked header stmt = some finding := by
  unfold letFinding? at found ⊢
  split at found
  · obtain ⟨pops, same⟩ := Option.ite_none_right_eq_some.mp found
    exact Option.ite_none_right_eq_some.mpr ⟨popsFrom_extends knows pops, same⟩
  · cases found

theorem argumentFinding?_extends
    (found : argumentFinding? less checked header stmt = some finding) :
    ∃ early, argumentFinding? more checked header stmt = some early ∧
      early.Anticipates stmt finding := by
  unfold argumentFinding? at found ⊢
  split at found
  · obtain ⟨late, isLate, rfl⟩ := Option.map_eq_some_iff.mp found
    obtain ⟨early, isEarly, place⟩ := find?_weaker (fun _ => popsFrom_extends knows) isLate
    refine ⟨_, Option.map_eq_some_iff.mpr ⟨early, isEarly, rfl⟩, rfl, rfl, rfl, ?_⟩
    exact place.imp (congrArg fun arg : Expr => arg.origin.span) .argument
  · cases found

theorem classifyFirst?_extends (found : classifyFirst? less checked header stmt = some finding) :
    ∃ early, classifyFirst? more checked header stmt = some early ∧
      early.Anticipates stmt finding := by
  unfold classifyFirst? at found ⊢
  cases asLet : letFinding? less checked header stmt with
  | some inner =>
    rw [asLet] at found
    cases found
    rw [letFinding?_extends knows asLet]
    exact ⟨finding, rfl, rfl, rfl, rfl, .inl rfl⟩
  | none =>
    rw [asLet] at found
    obtain ⟨early, isEarly, anticipates⟩ := argumentFinding?_extends knows found
    -- A statement with arguments is no `let`, whatever is known.
    have noLet : letFinding? more checked header stmt = none := by
      cases stmt with
      | expr => rfl
      | _ => cases found
    rw [noLet]
    exact ⟨early, isEarly, anticipates⟩

/-! ## Loops -/

theorem found_of_extends {cond body : Expr} (found : examine less cond body header = .found finding) :
    ∃ first rest early, blockStmts body = first :: rest ∧
      examine more cond body header = .found early ∧ early.Anticipates first finding := by
  unfold examine at found
  split at found
  · next origin callOrigin receiver method args span genericArgs =>
    split at found
    · next emptiness =>
      have emptiness' := isMethodCallOf_extends knows emptiness
      cases listed : blockStmts body with
      | nil =>
        rw [listed] at found
        cases found
      | cons first rest =>
        rw [listed] at found
        cases classified : classifyFirst? less receiver header first with
        | none =>
          simp only [classified] at found
          cases found
        | some late =>
          simp only [classified] at found
          cases found
          obtain ⟨early, isEarly, anticipates⟩ := classifyFirst?_extends knows classified
          refine ⟨first, rest, early, rfl, ?_, anticipates⟩
          simp only [examine, emptiness', if_true, listed, isEarly]
    · cases found
  · cases found
  · cases found

/-- The loops of a crate are the same whatever is known, and those that were found are found still. -/
theorem examineAll_extends (crate : Crate) :
    List.Forall₂
      (fun late early : Span × Verdict => late.1 = early.1 ∧
        ∀ finding, late.2 = .found finding → ∃ first earlier,
          early.2 = .found earlier ∧ earlier.Anticipates first finding)
      (examineAll less crate) (examineAll more crate) := by
  unfold examineAll
  induction crate.walk with
  | nil => exact .nil
  | cons node nodes inductionHypothesis =>
    cases isLoop : examineLoop? less node with
    | none =>
      have noLoop : examineLoop? more node = none := by
        unfold examineLoop? at isLoop ⊢
        split at isLoop
        · cases isLoop
        · rfl
      rw [List.filterMap_cons_none isLoop, List.filterMap_cons_none noLoop]
      exact inductionHypothesis
    | some late =>
      unfold examineLoop? at isLoop
      split at isLoop
      · next origin cond body header label =>
        cases isLoop
        refine .cons ⟨rfl, fun finding found => ?_⟩ inductionHypothesis
        obtain ⟨first, rest, early, -, isEarly, anticipates⟩ := found_of_extends knows found
        exact ⟨first, early, isEarly, anticipates⟩
      · cases isLoop

end

theorem not_found_of_unresolved {resolver : Resolver} (unresolved : ∀ id, resolver.callee id = none)
    (cond body : Expr) (header : Span) : (examine resolver cond body header).finding? = none := by
  unfold examine
  split
  · next origin callOrigin receiver method args span genericArgs =>
    rw [if_neg]
    · rfl
    · intro calls
      cases (unresolved _).symm.trans (isMethodCallOf_iff.mp calls)
  · rfl
  · rfl

/-- A loop that is found is found whatever else becomes known of the calls, in the same form and with
the same spans, except that an earlier argument may be the first to pop.  Where no call is resolved,
no loop is found. -/
theorem examine_extends {more less : Resolver} (knows : more.Extends less) (cond body : Expr)
    (header : Span) :
    (∀ finding, examine less cond body header = .found finding →
      ∃ first rest early, blockStmts body = first :: rest ∧
        examine more cond body header = .found early ∧ early.Anticipates first finding) ∧
    ∀ resolver : Resolver, (∀ id, resolver.callee id = none) →
      (examine resolver cond body header).finding? = none :=
  ⟨fun _ found => found_of_extends knows found,
    fun _ unresolved => not_found_of_unresolved unresolved cond body header⟩

/-! ## A loop with two arguments -/

/-- The name of a vector at an offset, with a number. -/
def vectorAt (id lo : Nat) : Expr := .path ⟨id, .between lo (lo + 1)⟩ ["v"] []

/-- The argument `v.pop().unwrap()` at an offset, numbered from a number on. -/
def popAt (id lo : Nat) : Expr :=
  .methodCall ⟨id, .between lo (lo + 16)⟩
    (.methodCall ⟨id + 1, .between lo (lo + 7)⟩ (vectorAt (id + 2) lo) "pop" []
      (.between (lo + 2) (lo + 5)) [])
    "unwrap" [] (.between (lo + 8) (lo + 14)) []

/-- The condition of `while !v.is_empty() { f(v.pop().unwrap(), v.pop().unwrap()); }`. -/
def popsTwiceCond : Expr :=
  .unary ⟨1, .between 6 19⟩ .not
    (.methodCall ⟨2, .between 7 19⟩ (vectorAt 3 7) "is_empty" [] (.between 9 17) [])

def popsTwiceFirst : Stmt :=
  .expr ⟨4, .between 22 60⟩
    (.call ⟨5, .between 22 59⟩ (.path ⟨6, .between 22 23⟩ ["f"] []) [popAt 7 24, popAt 10 42]) true

def popsTwiceBody : Block := .mk ⟨13, .between 20 62⟩ [popsTwiceFirst] none false

def popsTwiceHeader : Span := .between 0 19

/-- A resolver that knows some calls; every name has the same binding. -/
def ofCalls (calls : List (Nat × Path)) : Resolver := ⟨(calls.lookup ·), fun _ => some 14⟩

theorem ofCalls_append_extends (calls others : List (Nat × Path)) :
    (ofCalls (calls ++ others)).Extends (ofCalls calls) where
  binding := rfl
  callee {id path} known := by
    show (calls ++ others).lookup id = some path
    have found : calls.lookup id = some path := known
    rw [List.lookup_append, found]
    rfl

/-- The calls of the condition and of the second argument. -/
def secondCalls : List (Nat × Path) :=
  [(2, Library.vecIsEmpty), (10, Library.optionUnwrap), (11, Library.vecPop)]

def firstCalls : List (Nat × Path) := [(7, Library.optionUnwrap), (8, Library.vecPop)]

/-- An argument that pops from the checked vector, by calls that are known. -/
theorem popAt_popsFrom {calls : List (Nat × Path)} {id lo : Nat}
    (unwraps : calls.lookup id = some Library.optionUnwrap)
    (pops : calls.lookup (id + 1) = some Library.vecPop) :
    popsFrom (ofCalls calls) (vectorAt 3 7) (popAt id lo) = true :=
  popsFrom_iff.mpr ⟨_, .popped (.inl unwraps) pops, sameExpr_of_sameOperand rfl⟩

theorem popsTwice_found (calls : List (Nat × Path)) (arg : Expr)
    (emptiness : calls.lookup 2 = some Library.vecIsEmpty)
    (first : [popAt 7 24, popAt 10 42].find? (popsFrom (ofCalls calls) (vectorAt 3 7)) = some arg) :
    examine (ofCalls calls) popsTwiceCond (.block popsTwiceBody) popsTwiceHeader =
      .found ⟨arg.origin.span, popsTwiceHeader, .between 7 8, .argument⟩ := by
  have classified : classifyFirst? (ofCalls calls) (vectorAt 3 7) popsTwiceHeader popsTwiceFirst =
      some ⟨arg.origin.span, popsTwiceHeader, .between 7 8, .argument⟩ :=
    congrArg (Option.map _) first
  unfold examine popsTwiceCond
  simp only [popsTwiceBody, blockStmts, Block.stmts, classified]
  exact if_pos (isMethodCallOf_iff.mpr emptiness)

/-- With the calls of the first argument the finding moves there. -/
theorem examine_extends_popsTwice : ∃ late early,
    examine (ofCalls secondCalls) popsTwiceCond (.block popsTwiceBody) popsTwiceHeader =
      .found late ∧
    examine (ofCalls (secondCalls ++ firstCalls)) popsTwiceCond (.block popsTwiceBody)
      popsTwiceHeader = .found early ∧
    early.Anticipates popsTwiceFirst late ∧ early.popSpan.lo = 24 ∧ late.popSpan.lo = 42 := by
  have isLate := popsTwice_found secondCalls (popAt 10 42) rfl <| by
    have skipped : popsFrom (ofCalls secondCalls) (vectorAt 3 7) (popAt 7 24) = false := rfl
    rw [List.find?_cons_of_neg (by simp [skipped]), List.find?_cons_of_pos (popAt_popsFrom rfl rfl)]
  have moved := popsTwice_found (secondCalls ++ firstCalls) (popAt 7 24) rfl
    (List.find?_cons_of_pos (popAt_popsFrom rfl rfl))
  obtain ⟨first, rest, early, isFirst, isEarly, anticipates⟩ :=
    (examine_extends (ofCalls_append_extends secondCalls firstCalls) popsTwiceCond
      (.block popsTwiceBody) popsTwiceHeader).1 _ isLate
  cases isFirst
  cases moved.symm.trans isEarly
  exact ⟨_, _, isLate, moved, anticipates, rfl, rfl⟩

end Lint
end DrainLint
