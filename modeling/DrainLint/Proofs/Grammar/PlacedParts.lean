import DrainLint.Proofs.Grammar.Placement

/-! # Placement of shared parts, types and patterns

The expressions that all rules share, and the rules of literals, token trees, types and patterns.
-/

namespace DrainLint.Grammar

open Hir Peg List

set_option synthInstance.maxSize 1024

attribute [local simp] Node.textChildren Node.textFields Node.fields

/-! ## Shared expressions -/

instance : Places ws := inferInstanceAs (Places (.token _))

instance (sign : String) : Places (sym sign) := inferInstanceAs (Places (.token _))

instance (name : String) : Places (kw name) := inferInstanceAs (Places (.token _))

instance : Places ident := inferInstanceAs (Places (.token _))

instance : Places lifetimeName := inferInstanceAs (Places (.token _))

instance : Places colon := inferInstanceAs (Places (.token _))

instance : Places equalsSign := inferInstanceAs (Places (.token _))

instance : Places arrow := inferInstanceAs (Places (.token _))

instance : Places underscore := inferInstanceAs (Places (.token _))

instance (name : Rule) : Places (call name) := inferInstanceAs (Places (.rule name))

instance : Places ty := inferInstanceAs (Places (.rule .ty))

instance : Places tyPath := inferInstanceAs (Places (.rule .tyPath))

instance : Places pat := inferInstanceAs (Places (.rule .pat))

instance : Places expr := inferInstanceAs (Places (.rule .expr))

instance : Places block := inferInstanceAs (Places (.rule .block))

instance : Places tokenTrees := inferInstanceAs (Places (.rule .tokenTrees))

instance : Places literal := inferInstanceAs (Places (.rule .literal))

instance : Places stringLiteral := inferInstanceAs (Places (.rule .stringLit))

instance : Places exprList := inferInstanceAs (Places (.rule .exprList))

instance : Places genericArgs := inferInstanceAs (Places (.rule .genericArgs))

instance : Places simplePath := inferInstanceAs (Places (.rule .simplePath))

instance : Places armPat := inferInstanceAs (Places (.rule .armPat))

instance : Places declaration := inferInstanceAs (Places (.rule .declaration))

theorem sym_advances {sign : String} (spelled : sign.toList ≠ []) : Advances (sym sign) :=
  have := word_wordful spelled
  inferInstanceAs (Advances (.token _))

theorem kw_advances {name : String} (spelled : name.toList ≠ []) : Advances (kw name) :=
  have := wholeWord_wordful spelled
  inferInstanceAs (Advances (.token _))

instance : Advances (sym "(") := sym_advances (by decide)

instance : Advances (sym "[") := sym_advances (by decide)

instance : Advances (sym "\x7b") := sym_advances (by decide)

instance : Advances (sym "!") := sym_advances (by decide)

instance : Advances ident := inferInstanceAs (Advances (.token _))

instance : Advances underscore := inferInstanceAs (Advances (.token _))

section

variable {α : Type} [Forest α]

instance (piece : G α) [Places piece] : Places (present piece) := by
  unfold present
  infer_instance

instance (piece : G (List α)) [Places piece] : Places (optionalList piece) := by
  have : Respects fun found : Option (List α) => found.getD [] :=
    ⟨fun mark => ⟨Mark.le_refl mark, fun found _ carries => by
      cases found with
      | none => exact Forest.all_nil carries
      | some values => exact carries⟩⟩
  unfold optionalList
  infer_instance

instance (piece : G α) [Places piece] : Places (commaList piece) := by
  unfold commaList
  infer_instance

instance (opening closing : String) (pieces : G (List α)) [Places pieces] :
    Places (delimited opening closing pieces) := by
  unfold delimited
  infer_instance

instance (opening closing : String) (pieces : G (List α)) [Places pieces] [Advances (sym opening)] :
    Advances (delimited opening closing pieces) := by
  unfold delimited
  infer_instance

/-- A piece between parentheses stands for itself; several become a node. -/
theorem parenthesized_places {α : Type} [IsNode α] {tuple : Origin → List α → α} {pieces : G (List α)}
    [Places pieces] (makes : Makes [] fun (values : List α) (o : Origin) => tuple o values) :
    Places (parenthesized tuple pieces) := by
  have joined : ∀ {before after : Mark} {span : Span} {values : List α} {built : α} {last' : Nat},
      before.offset ≤ span.lo → span.hi ≤ after.offset → span.lo < span.hi →
      Carries ⟨span.lo, before.number⟩ ⟨span.hi, after.number⟩ values →
      Build.node span (tuple · values) after.number = .ok (built, last') →
      Carries before ⟨after.offset, last'⟩ built := by
    intro before after span values built last' starts ends filled carries succeeded
    obtain ⟨rfl, rfl⟩ := Build.node_eq_ok.mp succeeded
    have made := (((Makes.respects makes).carries _).2 values _ carries).2 ⟨after.number + 1, span⟩
      (Nat.le_refl _) (Nat.le_refl _) filled (Nat.lt_succ_self _)
    exact Carrier.widen made ⟨starts, Nat.le_refl _⟩ ⟨ends, Nat.le_refl _⟩
  refine Places.building fun {before after value built last'} carries succeeded => ?_
  obtain ⟨span, text, values⟩ := value
  obtain ⟨starts, ends, filled, middle, plain, carries⟩ := carries
  have inside : Carries ⟨span.lo, before.number⟩ ⟨span.hi, after.number⟩ values :=
    Carrier.widen carries plain (Mark.le_refl _)
  simp only at succeeded
  split at succeeded
  · rename_i value
    split at succeeded
    · exact joined starts ends filled inside succeeded
    · obtain ⟨rfl, rfl⟩ := Build.pure_eq_ok.mp succeeded
      have single : Node.InPlace ⟨span.lo, before.number⟩ ⟨span.hi, after.number⟩ [toNode built] := by
        simpa using Forest.inPlace inside
      exact single.widen ⟨starts, Nat.le_refl _⟩ ⟨ends, Nat.le_refl _⟩
  · exact joined starts ends filled inside succeeded

end

instance (first : G String) [Places first] : Places (pathOf first) := by
  unfold pathOf
  infer_instance

instance (mark : String) : Places (attributeAfter mark) := by
  unfold attributeAfter
  infer_instance

instance : Places outerAttr := inferInstanceAs (Places (attributeAfter _))

instance : Places innerAttr := inferInstanceAs (Places (attributeAfter _))

instance : Places outerAttrs := by
  unfold outerAttrs
  infer_instance

instance : Places visibility := by
  unfold visibility
  infer_instance

/-! ## Literals and token trees -/

theorem Makes.node_carries {τ : Type} [IsNode τ] {make : Origin → τ} {span : Span} {built : τ}
    {last' : Nat} {given : List Node} (before after : Mark) (makes : Makes given make)
    (placed : Node.InText ⟨span.lo, before.number⟩ ⟨span.hi, after.number⟩ given)
    (starts : before.offset ≤ span.lo) (ends : span.hi ≤ after.offset) (filled : span.lo < span.hi)
    (succeeded : Build.node span make after.number = .ok (built, last')) :
    Carries before ⟨after.offset, last'⟩ built := by
  obtain ⟨rfl, rfl⟩ := Build.node_eq_ok.mp succeeded
  have carried : Carries _ _ make := Maker.carries makes placed
  have made := carried.2 ⟨after.number + 1, span⟩ (Nat.le_refl _) (Nat.le_refl _) filled
    (Nat.lt_succ_self _)
  exact Carrier.widen made ⟨starts, Nat.le_refl _⟩ ⟨ends, Nat.le_refl _⟩

instance (word : List Char → Option Nat) [Bounded (Scanner.ofLength word)]
    [Wordful (Scanner.ofLength word)] (read : List Char → Except LiteralFault (Literal × String)) :
    Places (literalNode word read) := by
  refine Places.building fun {before after value built last'} carries succeeded => ?_
  obtain ⟨span, spelling⟩ := value
  obtain ⟨starts, ends, filled, plain⟩ := carries
  obtain ⟨⟨value, suffix⟩, between, known, succeeded⟩ := Build.bind_eq_ok.mp succeeded
  obtain ⟨_, rfl⟩ := Build.ofExcept_eq_ok.mp known
  have makes : Makes [] fun o => Expr.lit o value suffix := fun o => ⟨rfl, by simp, trivial⟩
  exact Makes.node_carries _ _ makes (.nil plain) starts ends filled succeeded

instance : Places stringLitRule := inferInstanceAs (Places (literalNode _ _))

instance : Places charLitRule := inferInstanceAs (Places (literalNode _ _))

instance : Places charLiteral := inferInstanceAs (Places (.rule .charLit))

instance : Places literalRule := by
  have : Respects fun (value : Bool) o => Expr.lit o (.bool value) "" :=
    Makes.respects fun value o => ⟨rfl, by simp, trivial⟩
  unfold literalRule
  infer_instance

instance : Places tokenTree := by
  unfold tokenTree
  infer_instance

instance : Places tokenTreesRule := by
  unfold tokenTreesRule
  infer_instance

/-! ## Types and generics -/

instance : Places bounds := inferInstanceAs (Places (.rule .bounds))

instance : Places genericParam := by
  unfold genericParam
  dsimp only
  infer_instance

instance : Places genericParamsRule := by
  unfold genericParamsRule
  infer_instance

instance : @Places (List String) _ (call .genericParams) :=
  inferInstanceAs (Places (.rule .genericParams))

instance : Places (call .genericParams <* ws : G (List String)) :=
  seqLeft_places _ _

instance : Places generics := by
  unfold generics
  infer_instance

instance : Places bound := by
  unfold bound
  infer_instance

instance : Places boundsRule := by
  have : Respects fun (first : Option Ty) rest => (first :: rest).filterMap id := by
    refine ⟨fun mark => ⟨Mark.le_refl mark, fun first middle carriesFirst => ?_⟩⟩
    refine ⟨Carrier.le carriesFirst, fun rest after carriesRest => ?_⟩
    have both : InRow mark after (first :: rest) := ⟨middle, carriesFirst, carriesRest⟩
    exact both.filterMap_id
  unfold boundsRule
  infer_instance

instance : Places wherePredicate := by
  unfold wherePredicate
  infer_instance

instance : Places whereClause := by
  unfold whereClause
  infer_instance

instance : Places refTy := by
  have : Respects fun isMut inner o => Ty.ref o isMut inner :=
    Makes.respects fun isMut inner o => ⟨rfl, by simp, trivial⟩
  unfold refTy
  infer_instance

instance : Places ptrTy := by
  have : Respects fun isMut inner o => Ty.ptr o isMut inner :=
    Makes.respects fun isMut inner o => ⟨rfl, by simp, trivial⟩
  unfold ptrTy
  infer_instance

instance : Places tupleTy :=
  parenthesized_places fun values o => ⟨rfl, by simp, trivial⟩

instance : Places sliceTy := by
  have : Respects fun inner length o => Ty.slice o inner length :=
    Makes.respects fun inner length o => ⟨rfl, by simp, trivial⟩
  unfold sliceTy
  infer_instance

instance : Places neverTy := by
  have : Respects fun (_ : Unit) o => Ty.never o :=
    Makes.respects fun _ o => ⟨rfl, by simp, trivial⟩
  unfold neverTy
  infer_instance

instance : Places inferTy := by
  have : Respects fun (_ : Unit) o => Ty.infer o :=
    Makes.respects fun _ o => ⟨rfl, by simp, trivial⟩
  unfold inferTy
  infer_instance

instance : Places boundedTy := by
  have : Respects fun keyword (found : List Ty) o => Ty.bounded o keyword found.head? := by
    refine Makes.respects fun keyword found o => ⟨rfl, ?_, trivial⟩
    cases found <;> simp
  have : Advances (kw "impl") := kw_advances (by decide)
  have : Advances (kw "dyn") := kw_advances (by decide)
  unfold boundedTy
  infer_instance

instance : Places fnPtrTy := by
  have : Respects fun params ret o => Ty.fnPtr o params ret :=
    Makes.respects fun params ret o => ⟨rfl, by simp, trivial⟩
  unfold fnPtrTy
  infer_instance

instance : Places tyRule := by
  unfold tyRule
  infer_instance

instance : Places assocBinding := by
  unfold assocBinding
  infer_instance

instance : Places genericArg := by
  unfold genericArg
  infer_instance

instance : Places genericArgsRule := by
  unfold genericArgsRule
  infer_instance

instance : Places callArgs := by
  unfold callArgs
  infer_instance

instance : Places tyPathSegment := by
  unfold tyPathSegment
  infer_instance

instance : Advances tyPathSegment := by
  unfold tyPathSegment
  infer_instance

theorem lastArgs_sublist (segments : List (String × List Ty)) :
    lastArgs segments <+ segments.flatMap Prod.snd := by
  suffices folded : ∀ kept, segments.foldl
      (fun kept segment => if segment.2.isEmpty then kept else segment.2) kept <+
        kept ++ segments.flatMap Prod.snd by
    simpa [lastArgs] using folded []
  induction segments with
  | nil => simp
  | cons segment segments inductionHypothesis =>
    intro kept
    rw [List.foldl_cons, List.flatMap_cons]
    split
    · rename_i isEmpty
      rw [List.isEmpty_iff.mp isEmpty]
      exact inductionHypothesis kept
    · rw [← List.append_assoc]
      exact (inductionHypothesis segment.2).trans
        ((List.sublist_append_right kept segment.2).append_right _)

instance : Places tyPathRule := by
  have : Respects fun (first : String × List Ty) rest o =>
      Ty.path o ((first :: rest).map Prod.fst) (lastArgs (first :: rest)) := by
    refine Makes.respects fun first rest o => ⟨rfl, ?_, trivial⟩
    have kept := (lastArgs_sublist (first :: rest)).flatMap fun ty => [Node.ty ty]
    simpa [List.flatMap_assoc] using kept
  unfold tyPathRule
  infer_instance

/-! ## Patterns -/

instance : Places refPat := by
  have : Respects fun isMut inner o => Pat.ref o isMut inner :=
    Makes.respects fun isMut inner o => ⟨rfl, by simp, trivial⟩
  unfold refPat
  infer_instance

instance : Places tuplePat := parenthesized_places fun values o => ⟨rfl, by simp, trivial⟩

instance : Places slicePat := by
  have : Respects fun elems o => Pat.slice o elems :=
    Makes.respects fun elems o => ⟨rfl, by simp, trivial⟩
  unfold slicePat
  infer_instance

instance : Places restPat := by
  have : Respects fun (_ : Unit) o => Pat.rest o :=
    Makes.respects fun _ o => ⟨rfl, by simp, trivial⟩
  have : Advances (sym "..") := sym_advances (by decide)
  unfold restPat
  infer_instance

instance : Places wildPat := by
  have : Respects fun (_ : Unit) o => Pat.wild o :=
    Makes.respects fun _ o => ⟨rfl, by simp, trivial⟩
  unfold wildPat
  infer_instance

/-- The minus is a node of its own, with the span of the pattern. -/
instance : Places litPat := by
  refine Places.building fun {before after value built last'} carries succeeded => ?_
  obtain ⟨span, isNegative, value⟩ := value
  obtain ⟨starts, ends, filled, middle, plain, carries⟩ := carries
  have placed : Node.InPlace ⟨span.lo, before.number⟩ ⟨span.hi, after.number⟩ [.expr value] :=
    carries.widen plain (Mark.le_refl _)
  -- Whatever the sign makes of the literal, the pattern is one more node over it.
  have patPlaced : ∀ {signed between}, Node.InPlace ⟨span.lo, before.number⟩ ⟨span.hi, between⟩
      [.expr signed] → Build.node span (Pat.lit · signed) between = .ok (built, last') →
      Carries before ⟨after.offset, last'⟩ built := by
    intro signed between inside succeeded
    have makes : Makes [.expr signed] fun o => Pat.lit o signed := fun o => ⟨rfl, by simp, trivial⟩
    exact Makes.node_carries before ⟨after.offset, between⟩ makes (.single inside) starts ends filled
      succeeded
  simp only at succeeded
  split at succeeded
  · obtain ⟨signed, between, sign, succeeded⟩ := Build.bind_eq_ok.mp succeeded
    have negated : Makes [.expr value] fun o => Expr.unary o .neg value :=
      fun o => ⟨rfl, by simp, trivial⟩
    have inside := Makes.node_carries ⟨span.lo, before.number⟩ ⟨span.hi, after.number⟩ negated
      (.single placed) (Nat.le_refl _) (Nat.le_refl _) filled sign
    exact patPlaced inside succeeded
  · exact patPlaced placed succeeded

instance : Places tupleStructPat := by
  have : Respects fun path elems o => Pat.tupleStruct o path elems :=
    Makes.respects fun path elems o => ⟨rfl, by simp, trivial⟩
  unfold tupleStructPat
  infer_instance

instance : Places structPat := by
  have : Respects fun path o => Pat.struct o path :=
    Makes.respects fun path o => ⟨rfl, by simp, trivial⟩
  unfold structPat
  infer_instance

instance : Places pathPat := by
  have : Respects fun first second rest o => Pat.path o (first :: second :: rest) :=
    Makes.respects fun first second rest o => ⟨rfl, by simp, trivial⟩
  unfold pathPat
  infer_instance

instance : Places identPat := by
  have : Respects fun byRef isMut name (sub : Option Pat) o =>
      if !(byRef || isMut || sub.isSome) && isCapitalised name then Pat.path o [name]
      else Pat.binding o name isMut byRef sub := by
    refine Makes.respects fun byRef isMut name sub o => ?_
    by_cases isPath : (!(byRef || isMut || sub.isSome) && isCapitalised name) = true
    · simp only [isPath, if_true]
      exact ⟨rfl, by simp, trivial⟩
    · simp only [isPath]
      exact ⟨rfl, by simp, trivial⟩
  unfold identPat
  infer_instance

instance : Places patRule := by
  unfold patRule
  infer_instance

instance : Places armPatRule := by
  refine Places.building fun {before after value built last'} carries succeeded => ?_
  obtain ⟨span, first, rest⟩ := value
  obtain ⟨starts, ends, filled, carries⟩ := carries
  have placed := Forest.inText carries
  simp only at succeeded
  split at succeeded
  · obtain ⟨rfl, rfl⟩ := Build.pure_eq_ok.mp succeeded
    have single : Node.InPlace ⟨span.lo, before.number⟩ ⟨span.hi, after.number⟩ [.pat built] := by
      simpa using placed.inPlace
    exact single.widen ⟨starts, Nat.le_refl _⟩ ⟨ends, Nat.le_refl _⟩
  · have makes : Makes (nodes (first, rest)) fun o => Pat.or o (first :: rest) :=
      fun o => ⟨rfl, by simp, trivial⟩
    exact Makes.node_carries _ _ makes placed starts ends filled succeeded

instance : Places simplePathRule := inferInstanceAs (Places (pathOf ident))

end DrainLint.Grammar
