import DrainLint.Proofs.Grammar.Members

/-! # Members in shared parts, literals, types and patterns

None of these expressions makes a node with contents of its own: what they hold is what they are
given.
-/

namespace DrainLint.Grammar

open Hir Peg List

set_option synthInstance.maxSize 1024

attribute [local simp] Node.children_eq Node.fields

variable {text : List Char}

/-! ## Shared expressions -/

instance : Honest text ws := inferInstanceAs (Honest text (.token _))

instance (sign : String) : Honest text (sym sign) := inferInstanceAs (Honest text (.token _))

instance (name : String) : Honest text (kw name) := inferInstanceAs (Honest text (.token _))

instance : Honest text ident := inferInstanceAs (Honest text (.token _))

instance : Honest text lifetimeName := inferInstanceAs (Honest text (.token _))

instance : Honest text colon := inferInstanceAs (Honest text (.token _))

instance : Honest text equalsSign := inferInstanceAs (Honest text (.token _))

instance : Honest text arrow := inferInstanceAs (Honest text (.token _))

instance : Honest text underscore := inferInstanceAs (Honest text (.token _))

instance (name : Rule) : Honest text (call name) := inferInstanceAs (Honest text (.rule name))

instance : Honest text ty := inferInstanceAs (Honest text (.rule .ty))

instance : Honest text tyPath := inferInstanceAs (Honest text (.rule .tyPath))

instance : Honest text pat := inferInstanceAs (Honest text (.rule .pat))

instance : Honest text expr := inferInstanceAs (Honest text (.rule .expr))

instance : Honest text block := inferInstanceAs (Honest text (.rule .block))

instance : Honest text tokenTrees := inferInstanceAs (Honest text (.rule .tokenTrees))

instance : Honest text literal := inferInstanceAs (Honest text (.rule .literal))

instance : Honest text stringLiteral := inferInstanceAs (Honest text (.rule .stringLit))

instance : Honest text exprList := inferInstanceAs (Honest text (.rule .exprList))

instance : Honest text genericArgs := inferInstanceAs (Honest text (.rule .genericArgs))

instance : Honest text simplePath := inferInstanceAs (Honest text (.rule .simplePath))

instance : Honest text armPat := inferInstanceAs (Honest text (.rule .armPat))

instance : Honest text declaration := inferInstanceAs (Honest text (.rule .declaration))

section

variable {α : Type} [Forest α]

instance (piece : G α) [Honest text piece] : Honest text (present piece) := by
  unfold present
  infer_instance

instance (piece : G (List α)) [Honest text piece] : Honest text (optionalList piece) := by
  have : Faithful text fun found : Option (List α) => found.getD [] :=
    Gathers.faithful fun found => by cases found <;> simp
  unfold optionalList
  infer_instance

instance (piece : G α) [Honest text piece] : Honest text (commaList piece) := by
  unfold commaList
  infer_instance

instance (opening closing : String) (pieces : G (List α)) [Honest text pieces] :
    Honest text (delimited opening closing pieces) := by
  unfold delimited
  infer_instance

end

/-- A piece between parentheses stands for itself; several become a node. -/
theorem parenthesized_honest {α : Type} [IsNode α] {tuple : Origin → List α → α}
    {pieces : G (List α)} [Honest text pieces]
    (gathers : Gathers [] fun (values : List α) (o : Origin) => tuple o values) :
    Honest text (parenthesized tuple pieces) := by
  refine Honest.building fun {value last built last'} bears succeeded => ?_
  obtain ⟨span, written, values⟩ := value
  have joined : ∀ {values last'}, BearsOut text values →
      Build.node span (tuple · values) last = .ok (built, last') → BearsOut text built := by
    intro values last' bears succeeded
    obtain ⟨rfl, rfl⟩ := Build.node_eq_ok.mp succeeded
    exact Gatherer.bearsOut gathers .nil values bears _
  simp only at succeeded
  split at succeeded
  · split at succeeded
    · exact joined bears succeeded
    · obtain ⟨rfl, rfl⟩ := Build.pure_eq_ok.mp succeeded
      exact bears
  · exact joined bears succeeded

instance (first : G String) [Honest text first] : Honest text (pathOf first) := by
  unfold pathOf
  infer_instance

instance (mark : String) : Honest text (attributeAfter mark) := by
  unfold attributeAfter
  infer_instance

instance : Honest text outerAttr := inferInstanceAs (Honest text (attributeAfter _))

instance : Honest text innerAttr := inferInstanceAs (Honest text (attributeAfter _))

instance : Honest text outerAttrs := by
  unfold outerAttrs
  infer_instance

instance : Honest text visibility := by
  unfold visibility
  infer_instance

/-! ## Literals and token trees -/

instance (word : List Char → Option Nat)
    (read : List Char → Except LiteralFault (Literal × String)) :
    Honest text (literalNode word read) := by
  refine Honest.building fun {value last built last'} bears succeeded => ?_
  obtain ⟨⟨value, suffix⟩, between, known, succeeded⟩ := Build.bind_eq_ok.mp succeeded
  obtain ⟨rfl, rfl⟩ := Build.node_eq_ok.mp succeeded
  exact AllWritten.nil.over (by simp) (.of_empty rfl)

instance : Honest text stringLitRule := inferInstanceAs (Honest text (literalNode _ _))

instance : Honest text charLitRule := inferInstanceAs (Honest text (literalNode _ _))

instance : Honest text charLiteral := inferInstanceAs (Honest text (.rule .charLit))

instance : Honest text literalRule := by
  have : Faithful text fun (value : Bool) o => Expr.lit o (.bool value) "" :=
    Gathers.faithful fun value o => ⟨by simp, rfl⟩
  unfold literalRule
  infer_instance

instance : Honest text tokenTree := by
  unfold tokenTree
  infer_instance

instance : Honest text tokenTreesRule := by
  unfold tokenTreesRule
  infer_instance

/-! ## Types and generics -/

instance : Honest text bounds := inferInstanceAs (Honest text (.rule .bounds))

instance : Honest text genericParam := by
  unfold genericParam
  dsimp only
  infer_instance

instance : Honest text genericParamsRule := by
  unfold genericParamsRule
  infer_instance

instance : @Honest text (List String) _ (call .genericParams) :=
  inferInstanceAs (Honest text (.rule .genericParams))

instance : Honest text (call .genericParams <* ws : G (List String)) := seqLeft_honest _ _

instance : Honest text generics := by
  unfold generics
  infer_instance

instance : Honest text bound := by
  unfold bound
  infer_instance

instance : Honest text boundsRule := by
  have : Faithful text fun (first : Option Ty) rest => (first :: rest).filterMap id :=
    Gathers.faithful fun first rest => by
      rw [gathers_iff, nodes_filterMap_id]
      simp
  unfold boundsRule
  infer_instance

instance : Honest text wherePredicate := by
  unfold wherePredicate
  infer_instance

instance : Honest text whereClause := by
  unfold whereClause
  infer_instance

instance : Honest text refTy := by
  have : Faithful text fun isMut inner o => Ty.ref o isMut inner :=
    Gathers.faithful fun isMut inner o => ⟨by simp, rfl⟩
  unfold refTy
  infer_instance

instance : Honest text ptrTy := by
  have : Faithful text fun isMut inner o => Ty.ptr o isMut inner :=
    Gathers.faithful fun isMut inner o => ⟨by simp, rfl⟩
  unfold ptrTy
  infer_instance

instance : Honest text tupleTy := parenthesized_honest fun values o => ⟨by simp, rfl⟩

instance : Honest text sliceTy := by
  have : Faithful text fun inner length o => Ty.slice o inner length :=
    Gathers.faithful fun inner length o => ⟨by simp, rfl⟩
  unfold sliceTy
  infer_instance

instance : Honest text neverTy := by
  have : Faithful text fun (_ : Unit) o => Ty.never o :=
    Gathers.faithful fun _ o => ⟨by simp, rfl⟩
  unfold neverTy
  infer_instance

instance : Honest text inferTy := by
  have : Faithful text fun (_ : Unit) o => Ty.infer o :=
    Gathers.faithful fun _ o => ⟨by simp, rfl⟩
  unfold inferTy
  infer_instance

instance : Honest text boundedTy := by
  have : Faithful text fun keyword (found : List Ty) o => Ty.bounded o keyword found.head? :=
    Gathers.faithful fun keyword found o => ⟨by cases found <;> simp, rfl⟩
  unfold boundedTy
  infer_instance

instance : Honest text fnPtrTy := by
  have : Faithful text fun params ret o => Ty.fnPtr o params ret :=
    Gathers.faithful fun params ret o => ⟨by simp, rfl⟩
  unfold fnPtrTy
  infer_instance

instance : Honest text tyRule := by
  unfold tyRule
  infer_instance

instance : Honest text assocBinding := by
  unfold assocBinding
  infer_instance

instance : Honest text genericArg := by
  unfold genericArg
  infer_instance

instance : Honest text genericArgsRule := by
  unfold genericArgsRule
  infer_instance

instance : Honest text callArgs := by
  unfold callArgs
  infer_instance

instance : Honest text tyPathSegment := by
  unfold tyPathSegment
  infer_instance

instance : Honest text tyPathRule := by
  have : Faithful text fun (first : String × List Ty) rest o =>
      Ty.path o ((first :: rest).map Prod.fst) (lastArgs (first :: rest)) := by
    refine Gathers.faithful fun first rest o => ⟨?_, rfl⟩
    have kept := (lastArgs_sublist (first :: rest)).flatMap fun ty => [Node.ty ty]
    simpa [List.flatMap_assoc] using kept.subset
  unfold tyPathRule
  infer_instance

/-! ## Patterns -/

instance : Honest text refPat := by
  have : Faithful text fun isMut inner o => Pat.ref o isMut inner :=
    Gathers.faithful fun isMut inner o => ⟨by simp, rfl⟩
  unfold refPat
  infer_instance

instance : Honest text tuplePat := parenthesized_honest fun values o => ⟨by simp, rfl⟩

instance : Honest text slicePat := by
  have : Faithful text fun elems o => Pat.slice o elems :=
    Gathers.faithful fun elems o => ⟨by simp, rfl⟩
  unfold slicePat
  infer_instance

instance : Honest text restPat := by
  have : Faithful text fun (_ : Unit) o => Pat.rest o :=
    Gathers.faithful fun _ o => ⟨by simp, rfl⟩
  unfold restPat
  infer_instance

instance : Honest text wildPat := by
  have : Faithful text fun (_ : Unit) o => Pat.wild o :=
    Gathers.faithful fun _ o => ⟨by simp, rfl⟩
  unfold wildPat
  infer_instance

instance : Honest text litPat := by
  refine Honest.building fun {value last built last'} bears succeeded => ?_
  obtain ⟨span, isNegative, value⟩ := value
  have finished : ∀ {signed between}, AllWritten text [.expr signed] →
      Build.node span (Pat.lit · signed) between = .ok (built, last') → BearsOut text built := by
    intro signed between written made
    obtain ⟨rfl, rfl⟩ := Build.node_eq_ok.mp made
    exact written.over (by simp) (.of_empty rfl)
  have literal : AllWritten text [.expr value] := bears
  simp only at succeeded
  split at succeeded
  · obtain ⟨signed, between, sign, made⟩ := Build.bind_eq_ok.mp succeeded
    obtain ⟨rfl, rfl⟩ := Build.node_eq_ok.mp sign
    exact finished (literal.over (by simp) (.of_empty rfl)) made
  · exact finished literal succeeded

instance : Honest text tupleStructPat := by
  have : Faithful text fun path elems o => Pat.tupleStruct o path elems :=
    Gathers.faithful fun path elems o => ⟨by simp, rfl⟩
  unfold tupleStructPat
  infer_instance

instance : Honest text structPat := by
  have : Faithful text fun path o => Pat.struct o path :=
    Gathers.faithful fun path o => ⟨by simp, rfl⟩
  unfold structPat
  infer_instance

instance : Honest text pathPat := by
  have : Faithful text fun first second rest o => Pat.path o (first :: second :: rest) :=
    Gathers.faithful fun first second rest o => ⟨by simp, rfl⟩
  unfold pathPat
  infer_instance

instance : Honest text identPat := by
  have : Faithful text fun byRef isMut name (sub : Option Pat) o =>
      if !(byRef || isMut || sub.isSome) && isCapitalised name then Pat.path o [name]
      else Pat.binding o name isMut byRef sub := by
    refine Gathers.faithful fun byRef isMut name sub o => ?_
    by_cases isPath : (!(byRef || isMut || sub.isSome) && isCapitalised name) = true
    · simp only [isPath, if_true]
      exact ⟨by simp, rfl⟩
    · simp only [isPath]
      exact ⟨by simp, rfl⟩
  unfold identPat
  infer_instance

instance : Honest text patRule := by
  unfold patRule
  infer_instance

instance : Honest text armPatRule := by
  refine Honest.building fun {value last built last'} bears succeeded => ?_
  obtain ⟨span, first, rest⟩ := value
  have alternatives : AllWritten text (nodes (first, rest)) := bears
  simp only at succeeded
  split at succeeded
  · obtain ⟨rfl, rfl⟩ := Build.pure_eq_ok.mp succeeded
    exact alternatives.mono (by simp)
  · obtain ⟨rfl, rfl⟩ := Build.node_eq_ok.mp succeeded
    exact alternatives.over (by simp) (.of_empty rfl)

instance : Honest text simplePathRule := inferInstanceAs (Honest text (pathOf ident))

end DrainLint.Grammar
