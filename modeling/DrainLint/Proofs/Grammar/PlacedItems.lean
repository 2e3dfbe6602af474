import DrainLint.Parse
import DrainLint.Proofs.Grammar.PlacedExpressions

/-! # Placement of items and of a file

The rules of declarations and of a whole file, and what follows for a file that parses.

- `placed_readable`: whatever the grammar reads stands where it was read;
- `parse_inPlace`: the nodes of a file that parses nest in its text and have numbers of their own.
-/

namespace DrainLint.Grammar

open Hir Peg List

set_option synthInstance.maxSize 1024

attribute [local simp] Node.children_eq Node.textChildren Node.textFields Node.fields Subperm.refl

/-! ## Functions -/

instance : @Places (List Item) _ (call .item) := inferInstanceAs (Places (.rule .item))

instance : Places ((call .item : G (List Item)) <* ws : G (List Item)) := seqLeft_places _ _

instance : Places items := by
  unfold items
  infer_instance

instance : Places fnQualifier := by
  unfold fnQualifier
  infer_instance

/-- The type that is written for `self`, if one is. -/
def selfTy? : SelfForm → Option Ty
  | .byRef _ => none
  | .byValue _ ty => ty

instance : Forest SelfForm :=
  .inRow {
    Carries before after form := Carries before after (selfTy? form)
    le := Carrier.le
    widen := Carrier.widen } (fun form => nodes (selfTy? form))
    (fun {_ _ form} carries => Forest.inText (show Carries _ _ (selfTy? form) from carries))

/-- The pattern of a `self` parameter and the parameter itself, over a type that is in place. -/
theorem selfPattern_inPlace {before after : Mark} {span : Span} {isMut : Bool} {ty : Ty}
    {others : List Node} {param : Param} {last' : Nat}
    (placed : Node.InPlace before after (.ty ty :: others)) (lo : span.lo = before.offset)
    (hi : span.hi = after.offset) (filled : span.lo < span.hi)
    (succeeded : (Build.node span (Pat.binding · "self" isMut false none) >>= fun pat =>
      Build.node span (Param.mk · pat (some ty))) after.number = .ok (param, last')) :
    Node.InPlace before ⟨after.offset, last'⟩ [.param param] := by
  obtain ⟨pat, afterPat, madePat, madeParam⟩ := Build.bind_eq_ok.mp succeeded
  obtain ⟨rfl, rfl⟩ := Build.node_eq_ok.mp madePat
  obtain ⟨rfl, rfl⟩ := Build.node_eq_ok.mp madeParam
  have tyPlaced := placed.subperm (singleton_subperm_iff.mpr List.mem_cons_self)
  have withPat := tyPlaced.leaf (.pat (.binding ⟨after.number + 1, span⟩ "self" isMut false none))
    (by simp) (Nat.le_of_eq lo.symm) (Nat.le_of_eq hi) (Nat.lt_succ_self _) trivial filled (by simp)
  -- The pattern has the span of the parameter, so it starts no later than the type.
  have tyStarts := (tyPlaced.spans _ List.mem_cons_self).1
  have precedes : (Node.pat (.binding ⟨after.number + 1, span⟩ "self" isMut false none)).Precedes
      (.ty ty) := .inr ⟨Nat.le_trans (Nat.le_of_eq lo) tyStarts, .of_childless (by simp) (by simp)⟩
  have whole := withPat.node (.param (.mk ⟨after.number + 2, span⟩
    (.binding ⟨after.number + 1, span⟩ "self" isMut false none) (some ty))) (by simp)
    (Nat.le_of_eq lo) (Nat.le_of_eq hi.symm) (Nat.lt_succ_self _) trivial filled
    (by simpa using precedes)
  exact whole.widen ⟨Nat.le_of_eq lo.symm, Nat.le_refl _⟩ ⟨Nat.le_of_eq hi, Nat.le_refl _⟩

/-- All nodes of a `self` parameter but a type that is written have the span of the parameter. -/
theorem selfParam_inPlace {before after : Mark} {span : Span} {form : SelfForm} {param : Param}
    {last' : Nat} (placed : Node.InPlace before after (nodes form)) (lo : span.lo = before.offset)
    (hi : span.hi = after.offset) (filled : span.lo < span.hi)
    (succeeded : SelfForm.param span form after.number = .ok (param, last')) :
    Node.InPlace before ⟨after.offset, last'⟩ [.param param] := by
  obtain ⟨selfTy, afterTy, madeTy, succeeded⟩ := Build.bind_eq_ok.mp succeeded
  obtain ⟨rfl, rfl⟩ := Build.node_eq_ok.mp madeTy
  have withSelf := placed.leaf (.ty (.path ⟨after.number + 1, span⟩ ["Self"] [])) (by simp)
    (Nat.le_of_eq lo.symm) (Nat.le_of_eq hi) (Nat.lt_succ_self _) trivial filled (by simp)
  -- A borrowed `self` has its reference around the type; a written type stands in its place instead.
  cases form with
  | byRef isMut =>
    obtain ⟨ty, afterRef, madeRef, succeeded⟩ := Build.bind_eq_ok.mp succeeded
    obtain ⟨rfl, rfl⟩ := Build.node_eq_ok.mp madeRef
    have withRef := withSelf.wrap
      (.ty (.ref ⟨after.number + 2, span⟩ isMut (.path ⟨after.number + 1, span⟩ ["Self"] [])))
      (by simp) rfl (Nat.lt_succ_self _) trivial filled (by simp)
    have found := selfPattern_inPlace withRef lo hi filled succeeded
    exact found
  | byValue isMut ty =>
    cases ty with
    | none =>
      have found := selfPattern_inPlace withSelf lo hi filled succeeded
      exact found
    | some ty =>
      have swapped := withSelf.subperm (perm_append_singleton _ (nodes (some ty))).subperm
      have found := selfPattern_inPlace swapped lo hi filled succeeded
      exact found

instance : Places selfParam := by
  have : Respects SelfForm.byRef :=
    ⟨fun mark => ⟨Mark.le_refl mark, fun _ _ carries => carries⟩⟩
  have : Respects SelfForm.byValue := by
    refine ⟨fun mark => ⟨Mark.le_refl mark, fun isMut middle carriesMut => ?_⟩⟩
    exact ⟨carriesMut, fun ty after carries => Carrier.widen carries carriesMut (Mark.le_refl _)⟩
  have : Advances (kw "self") := kw_advances (by decide)
  refine Places.building fun {before after value built last'} carries succeeded => ?_
  obtain ⟨span, form⟩ := value
  obtain ⟨starts, ends, filled, carries⟩ := carries
  have placed := selfParam_inPlace (Forest.inPlace carries) rfl rfl filled succeeded
  exact placed.widen ⟨starts, Nat.le_refl _⟩ ⟨ends, Nat.le_refl _⟩

instance : Places typedParam := by
  have : Respects fun pat (ty : Ty) o => Param.mk o pat (some ty) :=
    Makes.respects fun pat ty o => ⟨rfl, by simp, trivial⟩
  unfold typedParam
  infer_instance

instance : Places fnParam := by
  unfold fnParam
  infer_instance

instance : Places fnDef := by
  have : Respects fun name generics params ret body o =>
      Item.fnDef o name generics params ret body [] :=
    Makes.respects fun name generics params ret body o => ⟨rfl, by simp, trivial⟩
  unfold fnDef
  infer_instance

/-! ## Structs and enums -/

instance : Places fieldDef := by
  have : Respects fun name ty o => FieldDef.mk o name ty :=
    Makes.respects fun name ty o => ⟨rfl, by simp, trivial⟩
  unfold fieldDef
  infer_instance

instance : Places namedFields := by
  unfold namedFields
  infer_instance

theorem numberFields_inPlace {before after : Mark} {index : Nat} {tys : List Ty}
    {others : List Node} {fields : List FieldDef} {last' : Nat}
    (placed : Node.InPlace before after (nodes tys ++ others))
    (succeeded : numberFields index tys after.number = .ok (fields, last')) :
    Node.InPlace before ⟨after.offset, last'⟩ (nodes fields ++ others) := by
  -- The fields already made are among the other trees.
  induction tys generalizing after index others fields with
  | nil =>
    obtain ⟨rfl, rfl⟩ := Build.pure_eq_ok.mp succeeded
    exact placed
  | cons ty tys inductionHypothesis =>
    obtain ⟨field, between, made, succeeded⟩ := Build.bind_eq_ok.mp succeeded
    obtain ⟨rest, between', numbered, same⟩ := Build.bind_eq_ok.mp succeeded
    obtain ⟨rfl, rfl⟩ := Build.pure_eq_ok.mp same
    have wrapped := wrapFirst_inPlace placed made fun o => ⟨rfl, by simp, by trivial, by simp⟩
    have rested := inductionHypothesis wrapped numbered
    apply rested.subperm
    simpa using perm_middle.symm.subperm

theorem numberFields_stand {index last last' : Nat} {tys : List Ty} {fields : List FieldDef}
    (succeeded : numberFields index tys last = .ok (fields, last')) :
    List.Forall₂ Node.StandsFor (nodes fields) (nodes tys) := by
  induction tys generalizing last index fields with
  | nil =>
    obtain ⟨rfl, rfl⟩ := Build.pure_eq_ok.mp succeeded
    exact .nil
  | cons ty tys inductionHypothesis =>
    obtain ⟨field, between, made, succeeded⟩ := Build.bind_eq_ok.mp succeeded
    obtain ⟨rest, between', numbered, same⟩ := Build.bind_eq_ok.mp succeeded
    obtain ⟨rfl, rfl⟩ := Build.pure_eq_ok.mp same
    exact .cons (wrapped_standsFor made fun o => ⟨rfl, by simp, by simp⟩)
      (inductionHypothesis numbered)

instance : Places tupleFields := by
  refine Places.building fun {before after value built last'} carries succeeded => ?_
  have placed : Node.InPlace before after (nodes value ++ []) := by
    rw [List.append_nil]
    exact Forest.all_inPlace carries
  have numbered := numberFields_inPlace placed succeeded
  rw [List.append_nil] at numbered
  have ordered := Node.pairwise_standsFor (Forest.all_inText carries).ordered
    (numberFields_stand succeeded)
  exact ⟨numbered, ordered⟩

instance : Places structDef := by
  have : Respects fun name generics fields o => Item.structDef o name generics fields [] :=
    Makes.respects fun name generics fields o => ⟨rfl, by simp, trivial⟩
  unfold structDef
  infer_instance

instance : Places enumDef := by
  have : Respects fun name o => Item.enumDef o name [] :=
    Makes.respects fun name o => ⟨rfl, by simp, trivial⟩
  unfold enumDef
  infer_instance

/-! ## Implementations and traits -/

instance : Places implBlock := by
  have : Respects fun generics traitRef selfTy items o =>
      Item.implBlock o generics selfTy traitRef items [] :=
    Makes.respects fun generics traitRef selfTy items o => ⟨rfl, by simp, trivial⟩
  unfold implBlock
  infer_instance

instance : Places traitDef := by
  have : Respects fun name generics items o => Item.traitDef o name generics items [] :=
    Makes.respects fun name generics items o => ⟨rfl, by simp, trivial⟩
  unfold traitDef
  infer_instance

/-! ## Use declarations -/

instance : Places useTree := inferInstanceAs (Places (.rule .useTree))

instance : Places usePath := by
  unfold usePath
  infer_instance

instance : Places useGroup := by
  unfold useGroup
  infer_instance

instance : Places useTreeRule := by
  unfold useTreeRule
  infer_instance

/-- Leaves are numbered one after the other, over the span of their declaration. -/
theorem useLeaves_inPlace {before after : Mark} {span : Span} {leaves : List UseLeaf}
    {others : List Node} {items : List Item} {last' : Nat}
    (placed : Node.InPlace before after others) (starts : before.offset ≤ span.lo)
    (ends : span.hi ≤ after.offset) (filled : span.lo < span.hi)
    (succeeded : Build.all (leaves.map fun leaf =>
      Build.node span (.useDecl · leaf.path leaf.newName leaf.glob [])) after.number =
        .ok (items, last')) :
    Node.InPlace before ⟨after.offset, last'⟩ (nodes items ++ others) := by
  induction leaves generalizing after others items with
  | nil =>
    obtain ⟨rfl, rfl⟩ := Build.pure_eq_ok.mp succeeded
    exact placed
  | cons leaf leaves inductionHypothesis =>
    obtain ⟨first, between, made, succeeded⟩ := Build.bind_eq_ok.mp succeeded
    obtain ⟨rest, between', all, same⟩ := Build.bind_eq_ok.mp succeeded
    obtain ⟨rfl, rfl⟩ := Build.pure_eq_ok.mp same
    obtain ⟨rfl, rfl⟩ := Build.node_eq_ok.mp made
    have beside := placed.leaf (.item (.useDecl ⟨after.number + 1, span⟩ leaf.path leaf.newName
      leaf.glob [])) (by simp) starts ends (Nat.lt_succ_self _) trivial filled (by simp)
    have rested := inductionHypothesis beside ends all
    apply rested.subperm
    simpa using perm_middle.symm.subperm

/-- Leaves start together and hold nothing, so any of them precedes any other. -/
theorem useLeaves_ordered {span : Span} {leaves : List UseLeaf} {items : List Item}
    {last last' : Nat} (succeeded : Build.all (leaves.map fun leaf =>
      Build.node span (.useDecl · leaf.path leaf.newName leaf.glob [])) last = .ok (items, last')) :
    (nodes items).Pairwise Node.Precedes ∧ ∀ node ∈ nodes items, node.span = span := by
  induction leaves generalizing last items with
  | nil =>
    obtain ⟨rfl, rfl⟩ := Build.pure_eq_ok.mp succeeded
    exact ⟨.nil, by simp⟩
  | cons leaf leaves inductionHypothesis =>
    obtain ⟨first, between, made, succeeded⟩ := Build.bind_eq_ok.mp succeeded
    obtain ⟨rest, between', all, same⟩ := Build.bind_eq_ok.mp succeeded
    obtain ⟨rfl, rfl⟩ := Build.pure_eq_ok.mp same
    obtain ⟨rfl, rfl⟩ := Build.node_eq_ok.mp made
    obtain ⟨ordered, spans⟩ := inductionHypothesis all
    refine ⟨List.pairwise_cons.mpr ⟨fun node listed => .inr ⟨?_, ?_⟩, ordered⟩,
      List.forall_mem_cons.mpr ⟨rfl, spans⟩⟩
    · exact Nat.le_of_eq (congrArg Span.lo (spans node listed).symm)
    · exact .of_childless (by simp) (by simp)

instance : Places useDecl := by
  have : Advances (kw "use") := kw_advances (by decide)
  refine Places.building fun {before after value built last'} carries succeeded => ?_
  obtain ⟨span, leaves⟩ := value
  obtain ⟨starts, ends, filled, plain⟩ := carries
  have le : before ≤ after :=
    ⟨Nat.le_trans starts (Nat.le_trans span.lo_le_hi ends), (Carrier.le plain).2⟩
  have placed := useLeaves_inPlace (.nil le) starts ends filled succeeded
  rw [List.append_nil] at placed
  exact ⟨placed, (useLeaves_ordered succeeded).1⟩

/-! ## Aliases, constants, modules and macros -/

instance : Places typeAlias := by
  have : Respects fun name generics ty o => Item.typeAlias o name generics ty [] :=
    Makes.respects fun name generics ty o => ⟨rfl, by simp, trivial⟩
  unfold typeAlias
  infer_instance

instance : Places constItem := by
  have : Respects fun name ty value o => Item.constItem o name ty value [] :=
    Makes.respects fun name ty value o => ⟨rfl, by simp, trivial⟩
  unfold constItem
  infer_instance

instance : Places modDef := by
  have : Respects fun name items o => Item.modDef o name items [] :=
    Makes.respects fun name items o => ⟨rfl, by simp, trivial⟩
  unfold modDef
  infer_instance

instance : Places macroItem := by
  have : Respects fun path o => Item.macroItem o path [] :=
    Makes.respects fun path o => ⟨rfl, by simp, trivial⟩
  unfold macroItem
  infer_instance

instance (item : G Item) [Places item] : Places (single item) := by
  unfold single
  infer_instance

instance : Places declarationRule := by
  unfold declarationRule
  infer_instance

theorem withAttrs_origin (attrs : List Attribute) (item : Item) :
    (item.withAttrs attrs).origin = item.origin := by
  cases item <;> rfl

theorem withAttrs_children (attrs : List Attribute) (item : Item) :
    (Node.item (item.withAttrs attrs)).children = (Node.item item).children := by
  cases item <;> simp [Item.withAttrs]

theorem withAttrs_inPlace {before after : Mark} (attrs : List Attribute) {items : List Item}
    {others : List Node} (placed : Node.InPlace before after (nodes items ++ others)) :
    Node.InPlace before after (nodes (items.map (Item.withAttrs attrs)) ++ others) := by
  induction items generalizing others with
  | nil => exact placed
  | cons item items inductionHypothesis =>
    have front : Node.InPlace before after (.item item :: (nodes items ++ others)) := by
      simpa using placed
    have spans := front.spans _ List.mem_cons_self
    have origin := withAttrs_origin attrs item
    have span : (Node.item (item.withAttrs attrs)).span = (Node.item item).span :=
      congrArg Origin.span origin
    have children := withAttrs_children attrs item
    have textChildren :
        (Node.item (item.withAttrs attrs)).textChildren = (Node.item item).textChildren := by
      cases item <;> simp [Item.withAttrs]
    have filled : (Node.item (item.withAttrs attrs)).Filled := .of_lt (by
      rw [span]
      exact front.head.filled)
    -- Attributes are no nodes: the item keeps its number, its span and its children.
    have marked := front.relabel (.item (item.withAttrs attrs)) children textChildren
      (congrArg Origin.id origin) (Nat.le_of_eq (congrArg Span.lo span))
      (Nat.le_of_eq (congrArg Span.hi span.symm))
      (by rw [span]; exact spans.1) (by rw [span]; exact spans.2) trivial filled
      (fun other _ apart => apart.within (Nat.le_of_eq (congrArg Span.lo span.symm))
        (Nat.le_of_eq (congrArg Span.hi span)) fun exprless =>
          .of_children (fun child isChild => exprless.child (by rwa [children] at isChild)) (by simp))
    have rested := inductionHypothesis (marked.subperm perm_middle.subperm)
    apply rested.subperm
    simpa using perm_middle.symm.subperm

theorem withAttrs_stand (attrs : List Attribute) (items : List Item) :
    List.Forall₂ Node.StandsFor (nodes (items.map (Item.withAttrs attrs))) (nodes items) := by
  induction items with
  | nil => exact .nil
  | cons item items inductionHypothesis =>
    refine .cons (.of_below (congrArg Origin.span (withAttrs_origin attrs item)) ?_ (by simp))
      inductionHypothesis
    intro below inside
    rw [toNode_item, withAttrs_children] at inside
    rw [Node.walk_eq]
    exact List.mem_cons_of_mem _ inside

theorem withAttrs_inText {before after : Mark} (attrs : List Attribute) {items : List Item}
    (placed : Node.InText before after (nodes items)) :
    Node.InText before after (nodes (items.map (Item.withAttrs attrs))) := by
  have whole : Node.InPlace before after (nodes items ++ []) := by
    rw [List.append_nil]
    exact placed.inPlace
  have marked := withAttrs_inPlace attrs whole
  rw [List.append_nil] at marked
  exact ⟨marked, Node.pairwise_standsFor placed.ordered (withAttrs_stand attrs items)⟩

instance : Places itemRule := by
  have : Respects fun (attrs : List Attribute) (found : List Item) =>
      if attrs.isEmpty then found else found.map (Item.withAttrs attrs) := by
    refine ⟨fun mark => ⟨Mark.le_refl mark, fun attrs middle carriesAttrs => ?_⟩⟩
    refine ⟨Carrier.le carriesAttrs, fun found after carries => ?_⟩
    have wide := Carrier.widen carries (Carrier.le carriesAttrs) (Mark.le_refl _)
    by_cases unmarked : attrs.isEmpty
    · simp only [unmarked, if_true]
      exact wide
    · simp only [unmarked]
      exact withAttrs_inText attrs (Forest.all_inText wide)
  unfold itemRule
  infer_instance

/-- A crate may be the empty text. -/
instance crateRule_places : Places crateRule where
  places := by
    rintro cursor last built after last' ⟨⟨span, make⟩, between, ⟨_, reads, same⟩, succeeded⟩
    obtain ⟨rfl, rfl⟩ := Prod.mk.inj same
    obtain ⟨rfl, rfl⟩ := Build.node_eq_ok.mp succeeded
    obtain ⟨_, beforeItems, numbered, items, ⟨attrs, _, readsAttrs, mapped⟩, readsItems, rfl⟩ := reads
    obtain ⟨rfl, rfl⟩ := Build.pure_eq_ok.mp mapped
    obtain ⟨staysAttrs, carriesAttrs⟩ := Places.places readsAttrs
    obtain ⟨staysItems, carriesItems⟩ := Places.places readsItems
    have attrsLe := Carrier.le carriesAttrs
    have forward := (Mark.le_trans attrsLe (Carrier.le carriesItems)).1
    have hi := Span.between_hi forward
    have placed := (Forest.inText carriesItems).widen attrsLe (Mark.le_refl _)
    have whole := placed.inPlace.node
      (.crate ⟨⟨between + 1, Span.between cursor.offset after.offset⟩, items, attrs⟩) (by simp)
      (Nat.le_refl _) (Nat.le_of_eq hi.symm) (Nat.lt_succ_self _) trivial trivial
      (by simpa using placed.ordered)
    simp only [Node.span, Node.id, Node.origin, hi] at whole
    exact ⟨by omega, whole⟩

/-! ## The whole grammar -/

theorem rules_place : ∀ name, Places (rules name)
  | .crate => inferInstanceAs (Places crateRule)
  | .item => inferInstanceAs (Places itemRule)
  | .declaration => inferInstanceAs (Places declarationRule)
  | .useTree => inferInstanceAs (Places useTreeRule)
  | .genericParams => inferInstanceAs (Places genericParamsRule)
  | .bounds => inferInstanceAs (Places boundsRule)
  | .ty => inferInstanceAs (Places tyRule)
  | .tyPath => inferInstanceAs (Places tyPathRule)
  | .genericArgs => inferInstanceAs (Places genericArgsRule)
  | .pat => inferInstanceAs (Places patRule)
  | .armPat => inferInstanceAs (Places armPatRule)
  | .simplePath => inferInstanceAs (Places simplePathRule)
  | .block => inferInstanceAs (Places blockRule)
  | .unsafeBlock => inferInstanceAs (Places unsafeBlockRule)
  | .stmt => inferInstanceAs (Places stmtRule)
  | .blockLike => inferInstanceAs (Places blockLikeRule)
  | .expr => inferInstanceAs (Places exprRule)
  | .operand => inferInstanceAs (Places operandRule)
  | .binary => inferInstanceAs (Places binaryRule)
  | .unary => inferInstanceAs (Places unaryRule)
  | .chain => inferInstanceAs (Places chainRule)
  | .primary => inferInstanceAs (Places primaryRule)
  | .literal => inferInstanceAs (Places literalRule)
  | .stringLit => inferInstanceAs (Places stringLitRule)
  | .charLit => inferInstanceAs (Places charLitRule)
  | .pathExpr => inferInstanceAs (Places pathExprRule)
  | .exprList => inferInstanceAs (Places exprListRule)
  | .ifExpr => inferInstanceAs (Places ifRule)
  | .matchExpr => inferInstanceAs (Places matchRule)
  | .whileExpr => inferInstanceAs (Places whileRule)
  | .loopExpr => inferInstanceAs (Places loopRule)
  | .forExpr => inferInstanceAs (Places forRule)
  | .macroBody => inferInstanceAs (Places macroBodyRule)
  | .tokenTrees => inferInstanceAs (Places tokenTreesRule)

theorem placed_readable {name : Rule} {cursor after : Cursor} {last last' : Nat} {value : Val name}
    (readable : Readable rules name cursor last value after last') :
    PlacedReading (Val name) cursor last value after last' :=
  -- The placed readings are closed under every rule, so the readable ones are among them.
  readable placedRules fun name {_ _ _ _ _} reads => (rules_place name).places reads

end DrainLint.Grammar

namespace DrainLint.SourceFile

open Hir Peg Grammar

theorem parse_readable {source : SourceFile} {crate : Crate} (parsed : source.parse = .ok crate) :
    ∃ after last, Readable rules .crate ⟨0, source.text⟩ 0 crate after last ∧ after.rest = [] := by
  unfold parse at parsed
  have yields : Yields source.text (Readable rules .crate) ⟨0, source.text⟩
    (matchCrate? source.text) := match?_readable
  cases found : matchCrate? source.text with
  | none =>
    rw [found] at parsed
    cases parsed
  | some result =>
    obtain ⟨build, after⟩ := result
    rw [found] at parsed yields
    obtain ⟨_, readings⟩ := yields build after rfl
    by_cases ended : after.rest.isEmpty
    · simp only [ended, if_true] at parsed
      cases built : build 0 with
      | error fault =>
        rw [built] at parsed
        cases parsed
      | ok result =>
        rw [built] at parsed
        cases parsed
        exact ⟨after, result.2, readings 0 result.1 result.2 built, List.isEmpty_iff.mp ended⟩
    · simp only [ended] at parsed
      cases parsed

/-- The nodes of a file that parses nest in its text and have numbers of their own. -/
theorem parse_inPlace {source : SourceFile} {crate : Crate} (parsed : source.parse = .ok crate) :
    ∃ last, Node.InPlace ⟨0, 0⟩ ⟨source.text.length, last⟩ [.crate crate] := by
  obtain ⟨after, last, readable, ended⟩ := parse_readable parsed
  obtain ⟨stays, carries⟩ := placed_readable readable
  -- Nothing is left of the text, so the crate ends where the text does.
  rw [ended] at stays
  have length : after.offset = source.text.length := by simpa using stays
  rw [length] at carries
  exact ⟨last, carries⟩

theorem parse_wellPlaced {source : SourceFile} {crate : Crate} (parsed : source.parse = .ok crate) :
    ∀ node ∈ crate.walk, node.WellPlaced := by
  obtain ⟨last, placed⟩ := parse_inPlace parsed
  intro node listed
  exact placed.wellPlaced node (Node.mem_walkAll_of_mem List.mem_cons_self listed)

theorem parse_distinct {source : SourceFile} {crate : Crate} (parsed : source.parse = .ok crate) :
    (crate.walk.map Node.id).Nodup := by
  obtain ⟨last, placed⟩ := parse_inPlace parsed
  simpa [Crate.walk] using placed.distinct

end DrainLint.SourceFile
