import DrainLint.Proofs.Grammar.MembersExpressions

/-! # Members in items and in a file

Modules, implementations, traits and crates have the members that are written in their place.

- `exists_writtenMembers`: items that are read are written members, put one after another;
- `braced_bears`: a node around braces bears the text out if the items between them do;
- `borne_readable`: whatever the grammar reads bears the text out;
- `parse_asWritten`, `parse_membersWritten`: so do all nodes of a file that parses.
-/

namespace DrainLint.Grammar

open Hir Peg List

set_option synthInstance.maxSize 1024

attribute [local simp] Node.children_eq Node.fields

variable {text : List Char} {cursor after : Cursor} {last last' : Nat}

/-! ## Written members -/

theorem exists_writtenMember {found : List Item}
    (readable : Readable rules .item cursor last found after last') :
    ∃ member, writtenMember.Reads (Readable rules) cursor last member after last' ∧
      found = member.items := by
  -- The attributes are joined with the items after them here and kept apart there; what is read
  -- before that is the same.
  obtain ⟨_, afterMark, numbered, bare, ⟨_, afterAttrs, numbered', _, ⟨attrs, _, readsAttrs, mapped⟩,
    readsMark, rfl⟩, readsBare, rfl⟩ := readable.reads
  obtain ⟨rfl, rfl⟩ := Build.pure_eq_ok.mp mapped
  refine ⟨⟨attrs, bare⟩, ?_, rfl⟩
  exact ⟨_, afterMark, numbered, bare, ⟨_, afterAttrs, numbered', _, ⟨attrs, _, readsAttrs, rfl⟩,
    readsMark, rfl⟩, readsBare, rfl⟩

theorem exists_writtenMembers {found : List Item}
    (reads : items.Reads (Readable rules) cursor last found after last') :
    ∃ members, writtenMembers.Reads (Readable rules) cursor last members after last' ∧
      found = members.flatMap WrittenMember.items := by
  obtain ⟨groups, _, repeats, mapped⟩ := reads
  obtain ⟨rfl, rfl⟩ := Build.pure_eq_ok.mp mapped
  induction repeats with
  | nil => exact ⟨[], .nil, rfl⟩
  | cons head _ inductionHypothesis =>
    obtain ⟨_, _, _, _, readable, readsBlanks, rfl⟩ := head
    obtain ⟨member, readsMember, rfl⟩ := exists_writtenMember readable
    obtain ⟨members, readsMembers, rest⟩ := inductionHypothesis rfl
    refine ⟨member :: members, .cons ⟨_, _, _, _, readsMember, readsBlanks, rfl⟩ readsMembers, ?_⟩
    rw [List.flatten_cons, rest, List.flatMap_cons]

/-! ## Functions -/

instance : @Honest text (List Item) _ (call .item) := inferInstanceAs (Honest text (.rule .item))

instance : Honest text ((call .item : G (List Item)) <* ws : G (List Item)) := seqLeft_honest _ _

instance : Honest text items := by
  unfold items
  infer_instance

instance : Honest text fnQualifier := by
  unfold fnQualifier
  infer_instance

theorem selfPattern_bears {span : Span} {isMut : Bool} {ty : Ty} {param : Param}
    (bears : AllWritten text [.ty ty])
    (succeeded : (Build.node span (Pat.binding · "self" isMut false none) >>= fun pat =>
      Build.node span (Param.mk · pat (some ty))) last = .ok (param, last')) :
    AllWritten text [.param param] := by
  obtain ⟨pat, afterPat, madePat, madeParam⟩ := Build.bind_eq_ok.mp succeeded
  obtain ⟨rfl, rfl⟩ := Build.node_eq_ok.mp madePat
  obtain ⟨rfl, rfl⟩ := Build.node_eq_ok.mp madeParam
  have named : AllWritten text [.pat (.binding ⟨last + 1, span⟩ "self" isMut false none)] :=
    AllWritten.nil.over (by simp) (.of_empty rfl)
  exact (allWritten_append.mpr ⟨named, bears⟩).over (by simp) (.of_empty rfl)

theorem selfParam_bears {span : Span} {form : SelfForm} {param : Param}
    (bears : AllWritten text (nodes form))
    (succeeded : form.param span last = .ok (param, last')) :
    AllWritten text [.param param] := by
  obtain ⟨selfTy, afterTy, madeTy, succeeded⟩ := Build.bind_eq_ok.mp succeeded
  obtain ⟨rfl, rfl⟩ := Build.node_eq_ok.mp madeTy
  have ownTy : AllWritten text [.ty (.path ⟨last + 1, span⟩ ["Self"] [])] :=
    AllWritten.nil.over (by simp) (.of_empty rfl)
  cases form with
  | byRef isMut =>
    obtain ⟨ty, afterRef, madeRef, succeeded⟩ := Build.bind_eq_ok.mp succeeded
    obtain ⟨rfl, rfl⟩ := Build.node_eq_ok.mp madeRef
    have borrowed := selfPattern_bears (ownTy.over (by simp) (.of_empty rfl)) succeeded
    exact borrowed
  | byValue isMut ty =>
    cases ty with
    | none =>
      have taken := selfPattern_bears ownTy succeeded
      exact taken
    | some ty =>
      have written : AllWritten text [.ty ty] := bears
      have taken := selfPattern_bears written succeeded
      exact taken

instance : Honest text selfParam := by
  have : Faithful text SelfForm.byRef := Gathers.faithful fun isMut => by simp [nodes, selfTy?]
  have : Faithful text SelfForm.byValue := Gathers.faithful fun isMut ty => by simp [nodes, selfTy?]
  unfold selfParam
  exact Honest.building fun {_ _ _ _} bears succeeded => selfParam_bears bears succeeded

instance : Honest text typedParam := by
  have : Faithful text fun pat (ty : Ty) o => Param.mk o pat (some ty) :=
    Gathers.faithful fun pat ty o => ⟨by simp, rfl⟩
  unfold typedParam
  infer_instance

instance : Honest text fnParam := by
  unfold fnParam
  infer_instance

instance : Honest text fnDef := by
  have : Faithful text fun name generics params ret body o =>
      Item.fnDef o name generics params ret body [] :=
    Gathers.faithful fun name generics params ret body o => ⟨by simp, rfl⟩
  unfold fnDef
  infer_instance

/-! ## Structs and enums -/

instance : Honest text fieldDef := by
  have : Faithful text fun name ty o => FieldDef.mk o name ty :=
    Gathers.faithful fun name ty o => ⟨by simp, rfl⟩
  unfold fieldDef
  infer_instance

instance : Honest text namedFields := by
  unfold namedFields
  infer_instance

theorem numberFields_bears {index : Nat} {tys : List Ty} {fields : List FieldDef}
    (bears : AllWritten text (nodes tys))
    (succeeded : numberFields index tys last = .ok (fields, last')) :
    AllWritten text (nodes fields) := by
  induction tys generalizing index last fields with
  | nil =>
    obtain ⟨rfl, rfl⟩ := Build.pure_eq_ok.mp succeeded
    exact .nil
  | cons ty tys inductionHypothesis =>
    obtain ⟨field, between, made, succeeded⟩ := Build.bind_eq_ok.mp succeeded
    obtain ⟨rest, between', numbered, same⟩ := Build.bind_eq_ok.mp succeeded
    obtain ⟨rfl, rfl⟩ := Build.pure_eq_ok.mp same
    obtain ⟨rfl, rfl⟩ := Build.node_eq_ok.mp made
    obtain ⟨tyBears, tysBear⟩ := allWritten_append.mp bears
    exact allWritten_append.mpr
      ⟨tyBears.over (by simp) (.of_empty rfl), inductionHypothesis tysBear numbered⟩

instance : Honest text tupleFields := Honest.building numberFields_bears

instance : Honest text structDef := by
  have : Faithful text fun name generics fields o => Item.structDef o name generics fields [] :=
    Gathers.faithful fun name generics fields o => ⟨by simp, rfl⟩
  unfold structDef
  infer_instance

instance : Honest text enumDef := by
  have : Faithful text fun name o => Item.enumDef o name [] :=
    Gathers.faithful fun name o => ⟨by simp, rfl⟩
  unfold enumDef
  infer_instance

/-! ## Use declarations, aliases, constants and macros -/

instance : Honest text useTree := inferInstanceAs (Honest text (.rule .useTree))

instance : Honest text usePath := by
  unfold usePath
  infer_instance

instance : Honest text useGroup := by
  unfold useGroup
  infer_instance

instance : Honest text useTreeRule := by
  unfold useTreeRule
  infer_instance

theorem useLeaves_bear {span : Span} {leaves : List UseLeaf} {items : List Item}
    (succeeded : Build.all (leaves.map fun leaf =>
      Build.node span (.useDecl · leaf.path leaf.newName leaf.glob [])) last =
        .ok (items, last')) :
    AllWritten text (nodes items) := by
  induction leaves generalizing last items with
  | nil =>
    obtain ⟨rfl, rfl⟩ := Build.pure_eq_ok.mp succeeded
    exact .nil
  | cons leaf leaves inductionHypothesis =>
    obtain ⟨first, between, made, succeeded⟩ := Build.bind_eq_ok.mp succeeded
    obtain ⟨rest, between', all, same⟩ := Build.bind_eq_ok.mp succeeded
    obtain ⟨rfl, rfl⟩ := Build.pure_eq_ok.mp same
    obtain ⟨rfl, rfl⟩ := Build.node_eq_ok.mp made
    exact allWritten_append.mpr
      ⟨AllWritten.nil.over (by simp) (.of_empty rfl), inductionHypothesis all⟩

instance : Honest text useDecl :=
  Honest.building fun {_ _ _ _} _ succeeded => useLeaves_bear succeeded

instance : Honest text typeAlias := by
  have : Faithful text fun name generics ty o => Item.typeAlias o name generics ty [] :=
    Gathers.faithful fun name generics ty o => ⟨by simp, rfl⟩
  unfold typeAlias
  infer_instance

instance : Honest text constItem := by
  have : Faithful text fun name ty value o => Item.constItem o name ty value [] :=
    Gathers.faithful fun name ty value o => ⟨by simp, rfl⟩
  unfold constItem
  infer_instance

instance : Honest text macroItem := by
  have : Faithful text fun path o => Item.macroItem o path [] :=
    Gathers.faithful fun path o => ⟨by simp, rfl⟩
  unfold macroItem
  infer_instance

/-! ## Modules, implementations and traits -/

def bracedItems : G (List Item) := sym "\x7b" *> ws *> items <* sym "\x7d"

instance : Honest text bracedItems := by
  unfold bracedItems
  infer_instance

theorem exists_bracedMembers {found : List Item}
    (reads : bracedItems.Reads (Readable rules) cursor last found after last') :
    ∃ members, bracedMembers.Reads (Readable rules) cursor last members after last' ∧
      found = members.flatMap WrittenMember.items := by
  obtain ⟨_, _, _, _, ⟨_, _, _, _, readsOpening, readsItems, rfl⟩, readsClosing, rfl⟩ := reads
  obtain ⟨members, readsMembers, rfl⟩ := exists_writtenMembers readsItems
  refine ⟨members, ?_, rfl⟩
  exact ⟨_, _, _, _, ⟨_, _, _, _, readsOpening, readsMembers, rfl⟩, readsClosing, rfl⟩

/-- An item whose members stand in the braces with which it ends. -/
theorem braced_bears {brace : Cursor} {found : List Item} {given : List Node} {item : Item}
    (on : cursor.On text) (forward : cursor.Reaches brace)
    (reads : bracedItems.Reads (borneRules text) brace last found after last')
    (span : item.origin.span = Span.between cursor.offset after.offset)
    (written : AllWritten text given) (children : (Node.item item).children ⊆ given ++ nodes found)
    (members : (Node.item item).members? = some found) : AllWritten text [.item item] := by
  have onBrace := on.of_reaches forward
  have inside : AllWritten text (nodes found) := Honest.borne reads onBrace
  refine (allWritten_append.mpr ⟨written, inside⟩).over children ?_
  obtain ⟨listed, readsMembers, same⟩ := exists_bracedMembers (readable_of_borne reads)
  have reaches := forward.trans (reaches_of_borne reads)
  refine .of_members ⟨listed, .braced onBrace ?_ readsMembers ?_, by
    rw [Node.members, members]
    exact same⟩ (fun _ => Node.noConfusion)
  · show item.origin.span.lo ≤ brace.offset
    rw [span, Span.between_lo]
    exact forward.offset_le
  · show after.offset = item.origin.span.hi
    rw [span, Span.between_hi reaches.offset_le]

instance : Honest text modDef where
  borne := by
    rintro cursor last built after last' ⟨⟨span, make⟩, between, ⟨_, reads, same⟩, succeeded⟩ on
    obtain ⟨rfl, rfl⟩ := Prod.mk.inj same
    obtain ⟨rfl, rfl⟩ := Build.node_eq_ok.mp succeeded
    -- The node starts before the brace, so the reading of what stands in front is taken along.
    obtain ⟨_, brace, number, found, readsFront, readsMembers, rfl⟩ := reads
    have forward := reaches_of_borne readsFront
    obtain ⟨name, _, _, mapped⟩ := readsFront
    obtain ⟨rfl, rfl⟩ := Build.pure_eq_ok.mp mapped
    rcases readsMembers with ⟨_, _, readsSemicolon, mapped⟩ | readsBraces
    · obtain ⟨rfl, rfl⟩ := Build.pure_eq_ok.mp mapped
      have reaches := forward.trans (reaches_of_borne readsSemicolon)
      refine AllWritten.nil.over (by simp) (.of_members ⟨[], .elsewhere (on.of_reaches forward)
        forward.offset_le (readable_of_borne readsSemicolon) ?_, rfl⟩ fun _ => Node.noConfusion)
      exact (Span.between_hi reaches.offset_le).symm
    · exact braced_bears on forward readsBraces rfl .nil (by simp) rfl

instance : Honest text traitDef where
  borne := by
    rintro cursor last built after last' ⟨⟨span, make⟩, between, ⟨_, reads, same⟩, succeeded⟩ on
    obtain ⟨rfl, rfl⟩ := Prod.mk.inj same
    obtain ⟨rfl, rfl⟩ := Build.node_eq_ok.mp succeeded
    obtain ⟨_, brace, number, found, readsFront, readsBraces, rfl⟩ := reads
    have forward := reaches_of_borne readsFront
    obtain ⟨_, _, _, _, ⟨_, _, _, _, ⟨_, _, _, generics, ⟨name, _, _, mapped⟩, _, rfl⟩, _, rfl⟩, _,
      rfl⟩ := readsFront
    obtain ⟨rfl, rfl⟩ := Build.pure_eq_ok.mp mapped
    exact braced_bears on forward readsBraces rfl .nil (by simp) rfl

instance : Honest text implBlock where
  borne := by
    rintro cursor last built after last' ⟨⟨span, make⟩, between, ⟨_, reads, same⟩, succeeded⟩ on
    obtain ⟨rfl, rfl⟩ := Prod.mk.inj same
    obtain ⟨rfl, rfl⟩ := Build.node_eq_ok.mp succeeded
    obtain ⟨_, brace, number, found, readsFront, readsBraces, rfl⟩ := reads
    have forward := reaches_of_borne readsFront
    obtain ⟨_, _, _, _, ⟨_, _, _, _, ⟨_, _, _, selfTy, ⟨_, _, _, traitRef, readsGenerics, readsTrait,
      rfl⟩, readsTy, rfl⟩, _, rfl⟩, _, rfl⟩ := readsFront
    have afterGenerics := reaches_of_borne readsGenerics
    have afterTrait := reaches_of_borne readsTrait
    obtain ⟨generics, _, _, mapped⟩ := readsGenerics
    obtain ⟨rfl, rfl⟩ := Build.pure_eq_ok.mp mapped
    have traitBears : AllWritten text (nodes traitRef) :=
      Honest.borne readsTrait (on.of_reaches afterGenerics)
    have tyBears : AllWritten text [.ty selfTy] :=
      Honest.borne readsTy (on.of_reaches (afterGenerics.trans afterTrait))
    exact braced_bears on forward readsBraces rfl (allWritten_append.mpr ⟨traitBears, tyBears⟩)
      (by simp) rfl

/-! ## Items with attributes, and crates -/

instance (item : G Item) [Honest text item] : Honest text (single item) := by
  unfold single
  infer_instance

instance : Honest text declarationRule := by
  unfold declarationRule
  infer_instance

/-- Attributes in front of items change no members. -/
theorem withAttrs_bears (attrs : List Attribute) {items : List Item}
    (bears : AllWritten text (nodes items)) :
    AllWritten text (nodes (items.map (Item.withAttrs attrs))) := by
  induction items with
  | nil => exact .nil
  | cons item items inductionHypothesis =>
    obtain ⟨itemBears, itemsBear⟩ := allWritten_append.mp bears
    refine allWritten_append.mpr ⟨?_, inductionHypothesis itemsBear⟩
    have origin : (item.withAttrs attrs).origin = item.origin := by cases item <;> rfl
    have children : (Node.item (item.withAttrs attrs)).children = (Node.item item).children := by
      cases item <;> simp [Item.withAttrs]
    have members : (Node.item (item.withAttrs attrs)).members? = (Node.item item).members? := by
      cases item <;> rfl
    have own : AsWritten text (.item item) :=
      itemBears _ (Node.mem_walkAll_of_mem List.mem_cons_self (Node.mem_walk_self _))
    exact itemBears.children.over (by simp only [toNode_item, children, List.Subset.refl])
      (.of_members (own.members.relabel (congrArg Origin.span origin) members)
        fun _ => Node.noConfusion)

instance : Honest text itemRule := by
  have : Faithful text fun (attrs : List Attribute) (found : List Item) =>
      if attrs.isEmpty then found else found.map (Item.withAttrs attrs) := by
    refine ⟨fun attrs _ found bears => ?_⟩
    by_cases unmarked : attrs.isEmpty
    · simp only [unmarked, if_true]
      exact bears
    · simp only [unmarked]
      exact withAttrs_bears attrs bears
  unfold itemRule
  infer_instance

instance : Honest text crateRule where
  borne := by
    rintro cursor last built after last' ⟨⟨span, make⟩, between, ⟨_, reads, same⟩, succeeded⟩ on
    obtain ⟨rfl, rfl⟩ := Prod.mk.inj same
    obtain ⟨rfl, rfl⟩ := Build.node_eq_ok.mp succeeded
    obtain ⟨_, opened, number, found, ⟨attrs, _, readsAttrs, mapped⟩, readsItems, rfl⟩ := reads
    obtain ⟨rfl, rfl⟩ := Build.pure_eq_ok.mp mapped
    have forward := reaches_of_borne readsAttrs
    have reaches := forward.trans (reaches_of_borne readsItems)
    have inside : AllWritten text (nodes found) := Honest.borne readsItems (on.of_reaches forward)
    obtain ⟨listed, readsMembers, listedAll⟩ := exists_writtenMembers (readable_of_borne readsItems)
    refine inside.over (by simp) (.of_members ⟨listed, .ofCrate on rfl (readable_of_borne readsAttrs)
      readsMembers ?_, listedAll⟩ fun _ => Node.noConfusion)
    exact (Span.between_hi reaches.offset_le).symm

/-! ## The whole grammar -/

theorem rules_honest : ∀ name, Honest text (rules name)
  | .crate => inferInstanceAs (Honest text crateRule)
  | .item => inferInstanceAs (Honest text itemRule)
  | .declaration => inferInstanceAs (Honest text declarationRule)
  | .useTree => inferInstanceAs (Honest text useTreeRule)
  | .genericParams => inferInstanceAs (Honest text genericParamsRule)
  | .bounds => inferInstanceAs (Honest text boundsRule)
  | .ty => inferInstanceAs (Honest text tyRule)
  | .tyPath => inferInstanceAs (Honest text tyPathRule)
  | .genericArgs => inferInstanceAs (Honest text genericArgsRule)
  | .pat => inferInstanceAs (Honest text patRule)
  | .armPat => inferInstanceAs (Honest text armPatRule)
  | .simplePath => inferInstanceAs (Honest text simplePathRule)
  | .block => inferInstanceAs (Honest text blockRule)
  | .unsafeBlock => inferInstanceAs (Honest text unsafeBlockRule)
  | .stmt => inferInstanceAs (Honest text stmtRule)
  | .blockLike => inferInstanceAs (Honest text blockLikeRule)
  | .expr => inferInstanceAs (Honest text exprRule)
  | .operand => inferInstanceAs (Honest text operandRule)
  | .binary => inferInstanceAs (Honest text binaryRule)
  | .unary => inferInstanceAs (Honest text unaryRule)
  | .chain => inferInstanceAs (Honest text chainRule)
  | .primary => inferInstanceAs (Honest text primaryRule)
  | .literal => inferInstanceAs (Honest text literalRule)
  | .stringLit => inferInstanceAs (Honest text stringLitRule)
  | .charLit => inferInstanceAs (Honest text charLitRule)
  | .pathExpr => inferInstanceAs (Honest text pathExprRule)
  | .exprList => inferInstanceAs (Honest text exprListRule)
  | .ifExpr => inferInstanceAs (Honest text ifRule)
  | .matchExpr => inferInstanceAs (Honest text matchRule)
  | .whileExpr => inferInstanceAs (Honest text whileRule)
  | .loopExpr => inferInstanceAs (Honest text loopRule)
  | .forExpr => inferInstanceAs (Honest text forRule)
  | .macroBody => inferInstanceAs (Honest text macroBodyRule)
  | .tokenTrees => inferInstanceAs (Honest text tokenTreesRule)

theorem borne_readable {name : Rule} {value : Val name}
    (readable : Readable rules name cursor last value after last') :
    BorneReading text (Val name) cursor last value after last' := by
  -- The borne readings are closed under every rule, so the readable ones are among them.
  have borne := readable (borneRules text) fun name {_ _ _ _ _} reads =>
    ⟨readable_closed rules name (readable_of_borne reads), (rules_honest name).borne reads⟩
  exact borne.2

end DrainLint.Grammar

namespace DrainLint.SourceFile

open Hir Peg Grammar

/-- What stands in the nodes of a file that parses is as written. -/
theorem parse_asWritten {source : SourceFile} {crate : Crate} (parsed : source.parse = .ok crate) :
    ∀ node ∈ crate.walk, AsWritten source.text node := by
  obtain ⟨after, last, readable, _⟩ := parse_readable parsed
  have bears : AllWritten source.text [.crate crate] := borne_readable readable rfl
  intro node listed
  exact bears node (Node.mem_walkAll_of_mem List.mem_cons_self listed)

/-- The members of every node of a file that parses are the ones written in their place. -/
theorem parse_membersWritten {source : SourceFile} {crate : Crate}
    (parsed : source.parse = .ok crate) :
    ∀ node ∈ crate.walk, MembersWritten source.text node :=
  fun node listed => (parse_asWritten parsed node listed).members

end DrainLint.SourceFile
