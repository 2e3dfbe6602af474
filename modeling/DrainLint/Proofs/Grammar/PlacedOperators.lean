import DrainLint.Proofs.Grammar.PlacedParts

/-! # Placement of folded chains

Operands, casts and links are read first and folded then, so that the nodes that join them are
numbered after all of them.

- `Row`: operands in the order of the text, over trees that are in place;
- `Row.joined`, `joinOperands_row`: joining neighbours keeps a row;
- `Links`: what is left of a chain after the part built so far;
- `foldLinks`, `foldLinks_carries`: the fold of casts and of links.
-/

namespace DrainLint.Grammar

open Hir Peg List

set_option synthInstance.maxSize 1024

attribute [local simp] Node.children_eq Node.textChildren Node.textFields Node.fields Subperm.refl

/-! ## Rows of operands -/

/-- An operand carries its expression, which stands in its span. -/
instance : Forest Operand :=
  .inRow {
    Carries before after operand := Carries before after (operand.span, operand.expr)
    le := Carrier.le
    widen := Carrier.widen } (fun operand => nodes (operand.span, operand.expr))
    (fun {_ _ operand} carries =>
      Forest.inText (show Carries _ _ (operand.span, operand.expr) from carries))

/-- Operands whose spans follow one another. -/
def InOrder : (lo hi : Nat) → List Operand → Prop
  | lo, hi, [] => lo ≤ hi
  | lo, hi, operand :: operands => lo ≤ operand.span.lo ∧
    operand.span.lo ≤ operand.expr.origin.span.lo ∧
    operand.expr.origin.span.hi ≤ operand.span.hi ∧ InOrder operand.span.hi hi operands

theorem InOrder.of_carries {before after : Mark} {operands : List Operand}
    (carries : Carries before after operands) : InOrder before.offset after.offset operands := by
  induction operands generalizing before with
  | nil => exact carries.1
  | cons operand operands inductionHypothesis =>
    obtain ⟨middle, ⟨starts, ends, _, inside⟩, carries⟩ := carries
    have spans := inside.spans (.expr operand.expr) List.mem_cons_self
    have after : Carries ⟨operand.span.hi, middle.number⟩ after operands :=
      carries.widen ⟨ends, Nat.le_refl _⟩ (Mark.le_refl _)
    exact ⟨starts, spans.1, spans.2, inductionHypothesis after⟩

/-- The operand that is left of two neighbours. -/
structure Operand.Joins (lhs rhs whole : Operand) : Prop where
  lo : whole.span.lo = lhs.span.lo
  hi : whole.span.hi = rhs.span.hi
  span : whole.expr.origin.span = whole.span
  children : (Node.expr whole.expr).children = [.expr lhs.expr, .expr rhs.expr]
  fields : (Node.expr whole.expr).FieldsInPlace

theorem InOrder.join {lo hi : Nat} {earlier later : List Operand} {lhs rhs whole : Operand}
    (ordered : InOrder lo hi (earlier ++ lhs :: rhs :: later)) (joins : lhs.Joins rhs whole) :
    InOrder lo hi (earlier ++ whole :: later) := by
  -- The operands before the neighbours stay what they are.
  induction earlier generalizing lo with
  | nil =>
    obtain ⟨starts, inLhs, _, follows, _, _, rest⟩ := ordered
    have := joins.lo
    have := joins.hi
    have lower : whole.span.lo ≤ whole.expr.origin.span.lo :=
      Nat.le_of_eq (congrArg Span.lo joins.span.symm)
    have upper : whole.expr.origin.span.hi ≤ whole.span.hi :=
      Nat.le_of_eq (congrArg Span.hi joins.span)
    refine ⟨by omega, lower, upper, ?_⟩
    rw [joins.hi]
    exact rest
  | cons operand earlier inductionHypothesis =>
    obtain ⟨starts, lower, upper, rest⟩ := ordered
    exact ⟨starts, lower, upper, inductionHypothesis rest⟩

theorem InOrder.le {lo hi : Nat} {operands : List Operand} (ordered : InOrder lo hi operands) :
    lo ≤ hi := by
  induction operands generalizing lo with
  | nil => exact ordered
  | cons operand operands inductionHypothesis =>
    obtain ⟨starts, _, _, rest⟩ := ordered
    have := inductionHypothesis rest
    have := operand.span.lo_le_hi
    omega

theorem InOrder.neighbours {lo hi : Nat} {earlier later : List Operand} {lhs rhs : Operand}
    (ordered : InOrder lo hi (earlier ++ lhs :: rhs :: later)) :
    lo ≤ lhs.span.lo ∧ lhs.span.hi ≤ rhs.span.lo ∧ rhs.span.hi ≤ hi ∧
      lhs.span.lo ≤ lhs.expr.origin.span.lo ∧ lhs.expr.origin.span.hi ≤ lhs.span.hi ∧
      rhs.span.lo ≤ rhs.expr.origin.span.lo ∧ rhs.expr.origin.span.hi ≤ rhs.span.hi := by
  induction earlier generalizing lo with
  | nil =>
    obtain ⟨starts, inLhs, inLhs', follows, inRhs, inRhs', rest⟩ := ordered
    exact ⟨starts, follows, rest.le, inLhs, inLhs', inRhs, inRhs'⟩
  | cons operand earlier inductionHypothesis =>
    obtain ⟨starts, _, _, rest⟩ := ordered
    have := operand.span.lo_le_hi
    obtain ⟨lower, found⟩ := inductionHypothesis rest
    exact ⟨by omega, found⟩

/-- Operands in order start where the row starts at the earliest. -/
theorem InOrder.starts {lo hi : Nat} {operands : List Operand} (ordered : InOrder lo hi operands)
    {operand : Operand} (member : operand ∈ operands) : lo ≤ operand.expr.origin.span.lo := by
  induction operands generalizing lo with
  | nil => cases member
  | cons head operands inductionHypothesis =>
    obtain ⟨starts, lower, _, rest⟩ := ordered
    have := head.span.lo_le_hi
    cases member with
    | head => omega
    | tail _ member =>
      have := inductionHypothesis rest member
      omega

/-- What stands beside two neighbours ends before the first of them or starts after the second. -/
theorem InOrder.beside {lo hi : Nat} {earlier later : List Operand} {lhs rhs : Operand}
    (ordered : InOrder lo hi (earlier ++ lhs :: rhs :: later)) :
    ∀ operand ∈ earlier ++ later, operand.expr.origin.span.hi ≤ lhs.span.lo ∨
      rhs.span.hi ≤ operand.expr.origin.span.lo := by
  induction earlier generalizing lo with
  | nil =>
    obtain ⟨_, _, _, _, _, _, rest⟩ := ordered
    exact fun operand member => .inr (rest.starts member)
  | cons head earlier inductionHypothesis =>
    obtain ⟨_, _, upper, rest⟩ := ordered
    intro operand member
    rcases List.mem_cons.mp member with rfl | member
    · exact .inl (Nat.le_trans upper rest.neighbours.1)
    · exact inductionHypothesis rest operand member

/-- Operands in order, over trees that are in place. -/
structure Row (before after : Mark) (operands : List Operand) : Prop where
  inOrder : InOrder before.offset after.offset operands
  inPlace : Node.InPlace before after (operands.map fun operand => .expr operand.expr)

theorem Row.joined {before after : Mark} {earlier later : List Operand} {lhs rhs whole : Operand}
    {op : BinaryOp} {last' : Nat} (row : Row before after (earlier ++ lhs :: rhs :: later))
    (succeeded : lhs.joined op rhs after.number = .ok (whole, last')) :
    Row before ⟨after.offset, last'⟩ (earlier ++ whole :: later) := by
  obtain ⟨expr, between, built, same⟩ := Build.bind_eq_ok.mp succeeded
  obtain ⟨rfl, rfl⟩ := Build.pure_eq_ok.mp same
  obtain ⟨rfl, rfl⟩ := Build.node_eq_ok.mp built
  obtain ⟨starts, follows, ends, inLhs, inLhs', inRhs, inRhs'⟩ := row.inOrder.neighbours
  have lhsOrdered := lhs.span.lo_le_hi
  have rhsOrdered := rhs.span.lo_le_hi
  have hi := Span.between_hi (show lhs.span.lo ≤ rhs.span.hi by omega)
  refine ⟨row.inOrder.join ⟨rfl, hi, rfl, by simp, trivial⟩, ?_⟩
  -- The order of trees does not matter, so the neighbours are moved to the front and gathered there.
  have separate : Node.InPlace before after ([.expr lhs.expr, .expr rhs.expr] ++
      (earlier ++ later).map fun operand => .expr operand.expr) := by
    apply row.inPlace.subperm
    simp only [List.map_append, List.map_cons, List.cons_append, List.nil_append]
    exact (List.perm_middle.trans (List.perm_middle.cons _)).symm.subperm
  have covers : ∀ child ∈ [Node.expr lhs.expr, .expr rhs.expr],
      lhs.span.lo ≤ child.span.lo ∧
        child.span.hi ≤ (Span.between lhs.span.lo rhs.span.hi).hi := by
    intro child member
    rw [hi]
    rcases List.mem_cons.mp member with rfl | member
    · simp only [Node.span_expr]
      omega
    · rw [List.mem_singleton.mp member]
      simp only [Node.span_expr]
      omega
  -- The left operand has some text, and what they make reaches over it.
  have filled : (Span.between lhs.span.lo rhs.span.hi).lo <
      (Span.between lhs.span.lo rhs.span.hi).hi := by
    have : lhs.expr.origin.span.lo < lhs.expr.origin.span.hi := separate.head.filled
    rw [hi, Span.between_lo]
    omega
  have apart : ∀ other ∈ (earlier ++ later).map fun operand => Node.expr operand.expr,
      Node.Apart (.expr (.binary ⟨after.number + 1, Span.between lhs.span.lo rhs.span.hi⟩ op lhs.expr
        rhs.expr)) other := by
    intro other member
    obtain ⟨operand, beside, rfl⟩ := List.mem_map.mp member
    simp only [Node.Apart, Node.span_expr, Expr.origin, hi, Span.between_lo]
    rcases row.inOrder.beside operand beside with before | after
    · exact .inr (.inl before)
    · exact .inl after
  have ordered : (Node.expr (.binary ⟨after.number + 1, Span.between lhs.span.lo rhs.span.hi⟩ op
      lhs.expr rhs.expr)).textChildren.Pairwise Node.Precedes := by
    have precedes : (Node.expr lhs.expr).Precedes (.expr rhs.expr) :=
      .inl (Nat.le_trans inLhs' (Nat.le_trans follows inRhs))
    simpa using precedes
  have gathered := separate.gather
    (.expr (.binary ⟨after.number + 1, Span.between lhs.span.lo rhs.span.hi⟩ op lhs.expr rhs.expr))
    (by simp) covers starts (Nat.le_trans (Nat.le_of_eq hi) ends) (Nat.lt_succ_self _) trivial
    filled ordered apart
  apply gathered.subperm
  simp only [List.map_append, List.map_cons]
  exact List.perm_middle.subperm

/-- Operands that wait, the last of them first, in the order of the text. -/
def waiting (pending : List (Operand × BinaryOp)) : List Operand := (pending.map Prod.fst).reverse

theorem waiting_cons (lhs : Operand) (op : BinaryOp) (pending : List (Operand × BinaryOp))
    (later : List Operand) :
    waiting ((lhs, op) :: pending) ++ later = waiting pending ++ lhs :: later := by
  simp [waiting]

theorem reduceWhile_row {before after : Mark} {precedence : Nat}
    {pending : List (Operand × BinaryOp)} {last : Operand} {later : List Operand}
    {reduced : List (Operand × BinaryOp) × Operand} {last' : Nat}
    (row : Row before after (waiting pending ++ last :: later))
    (succeeded : reduceWhile precedence pending last after.number = .ok (reduced, last')) :
    Row before ⟨after.offset, last'⟩ (waiting reduced.1 ++ reduced.2 :: later) := by
  -- The row of all operands, those that wait first, is kept by every join.
  induction pending generalizing last after with
  | nil =>
    obtain ⟨rfl, rfl⟩ := Build.pure_eq_ok.mp succeeded
    exact row
  | cons head pending inductionHypothesis =>
    obtain ⟨lhs, op⟩ := head
    simp only [reduceWhile] at succeeded
    split at succeeded
    · obtain ⟨whole, between, joined, succeeded⟩ := Build.bind_eq_ok.mp succeeded
      rw [waiting_cons] at row
      have shorter : Row before ⟨after.offset, between⟩ (waiting pending ++ whole :: later) :=
        row.joined joined
      have reducedRow := inductionHypothesis shorter succeeded
      exact reducedRow
    · obtain ⟨rfl, rfl⟩ := Build.pure_eq_ok.mp succeeded
      exact row

/-- The fold of a chain of operands is one of the operands of a row in the end. -/
theorem joinOperands_row {before after : Mark} {pending : List (Operand × BinaryOp)}
    {last whole : Operand} {rest : List (BinaryOp × Operand)} {last' : Nat}
    (row : Row before after (waiting pending ++ last :: rest.map Prod.snd))
    (succeeded : joinOperands pending last rest after.number = .ok (whole, last')) :
    ∃ earlier later, Row before ⟨after.offset, last'⟩ (earlier ++ whole :: later) := by
  induction rest generalizing pending last after with
  | nil =>
    obtain ⟨reduced, between, reduces, same⟩ := Build.bind_eq_ok.mp succeeded
    obtain ⟨rfl, rfl⟩ := Build.pure_eq_ok.mp same
    exact ⟨_, _, reduceWhile_row row reduces⟩
  | cons head rest inductionHypothesis =>
    -- What binds at least as tightly as the operator is joined; the result waits for the next one.
    obtain ⟨op, next⟩ := head
    obtain ⟨reduced, between, reduces, succeeded⟩ := Build.bind_eq_ok.mp succeeded
    have reducedRow := reduceWhile_row row reduces
    have waits : Row before ⟨after.offset, between⟩
        (waiting ((reduced.2, op) :: reduced.1) ++ next :: rest.map Prod.snd) := by
      rw [waiting_cons]
      exact reducedRow
    have joinedRow := inductionHypothesis waits succeeded
    exact joinedRow

theorem InRow.map_snd {α β : Type} [Forest α] [Forest β] {before after : Mark}
    {pairs : List (α × β)} (inRow : InRow before after pairs) :
    InRow before after (pairs.map Prod.snd) := by
  induction pairs generalizing before with
  | nil => exact inRow
  | cons pair pairs inductionHypothesis =>
    obtain ⟨middle, ⟨between, first, second⟩, rest⟩ := inRow
    exact ⟨middle, Carrier.widen second (Carrier.le first) (Mark.le_refl _),
      inductionHypothesis rest⟩

theorem Row.of_carries {before after : Mark} {operands : List Operand}
    (carries : Carries before after operands) : Row before after operands where
  inOrder := .of_carries carries
  inPlace := by
    have placed := Forest.inPlace carries
    rw [← List.flatMap_pure_eq_map]
    exact placed

instance : @Places Expr _ (call .operand) := inferInstanceAs (Places (.rule .operand))

instance : @Advances (Val .operand) (call .operand) := @node_advances Expr _ _ (call .operand) _

instance : Places operand := by
  refine Places.building fun {before after value built last'} carries succeeded => ?_
  obtain ⟨rfl, rfl⟩ := Build.pure_eq_ok.mp succeeded
  exact carries

instance : Places binaryRule := by
  refine Places.building fun {before after value built last'} carries succeeded => ?_
  obtain ⟨first, rest⟩ := value
  obtain ⟨whole, joined, rfl⟩ := Build.map_eq_ok.mp succeeded
  obtain ⟨middle, carriesFirst, carriesRest⟩ := carries
  have operands : Carries before after (first :: rest.map Prod.snd) :=
    ⟨middle, carriesFirst, InRow.map_snd carriesRest⟩
  have row : Row before after (waiting [] ++ first :: rest.map Prod.snd) := Row.of_carries operands
  obtain ⟨earlier, later, reduced⟩ := joinOperands_row row joined
  apply reduced.inPlace.subperm
  simp

instance : Places binary := inferInstanceAs (Places (.rule .binary))

/-! ## Ranges and assignments -/

instance : Places range := by
  have : Respects fun (start : Expr) inclusive stop o => Expr.range o (some start) stop inclusive :=
    Makes.respects fun start inclusive stop o => ⟨rfl, by simp, trivial⟩
  have : Respects fun inclusive stop o => Expr.range o none stop inclusive :=
    Makes.respects fun inclusive stop o => ⟨rfl, by simp, trivial⟩
  unfold range
  infer_instance

instance : Places exprRule := by
  refine Places.building fun {before after value built last'} carries succeeded => ?_
  obtain ⟨span, target, assigned⟩ := value
  obtain ⟨starts, ends, filled, carries⟩ := carries
  have placed := Forest.inText carries
  simp only at succeeded
  split at succeeded
  · obtain ⟨rfl, rfl⟩ := Build.pure_eq_ok.mp succeeded
    have single : Node.InPlace ⟨span.lo, before.number⟩ ⟨span.hi, after.number⟩ [.expr built] := by
      simpa using placed.inPlace
    exact single.widen ⟨starts, Nat.le_refl _⟩ ⟨ends, Nat.le_refl _⟩
  · rename_i op value
    have makes : Makes (nodes (target, some (op, value))) fun o => Expr.assign o target value op :=
      fun o => ⟨rfl, by simp, trivial⟩
    exact Makes.node_carries _ _ makes placed starts ends filled succeeded

/-! ## Casts and links -/

section

variable {α : Type}

/-- The fold of what follows an operand, each with the span it was read in. -/
def foldLinks (make : Expr → α → Origin → Expr) (lo : Nat) (base : Expr) :
    List (Span × α) → Build Expr
  | [] => Pure.pure base
  | (span, link) :: rest => do
    let linked ← Build.node (Span.between lo span.hi) (make base link)
    foldLinks make lo linked rest

theorem castAll_eq (lo : Nat) (operand : Expr) (casts : List (Span × Ty)) :
    castAll lo operand casts =
      foldLinks (fun operand ty o => .cast o operand ty) lo operand casts := by
  induction casts generalizing operand with
  | nil => rfl
  | cons cast casts inductionHypothesis => simp only [castAll, foldLinks, inductionHypothesis]

theorem linkAll_eq (lo : Nat) (base : Expr) (links : List (Span × Link)) :
    linkAll lo base links = foldLinks (fun base link o => link.expr base o) lo base links := by
  induction links generalizing base with
  | nil => rfl
  | cons link links inductionHypothesis => simp only [linkAll, foldLinks, inductionHypothesis]

variable [Forest α]

/-- What is left of a chain after an offset: each link stands in its span, after the one before. -/
def Follows : (start stop : Nat) → List (Span × α) → Prop
  | start, stop, [] => start ≤ stop
  | start, stop, (span, link) :: rest => start ≤ span.lo ∧
    (∃ first last, Carries ⟨span.lo, first⟩ ⟨span.hi, last⟩ link) ∧ Follows span.hi stop rest

theorem Follows.le {start stop : Nat} {links : List (Span × α)}
    (follows : Follows start stop links) : start ≤ stop := by
  induction links generalizing start with
  | nil => exact follows
  | cons link links inductionHypothesis =>
    obtain ⟨starts, _, rest⟩ := follows
    have := inductionHypothesis rest
    have := link.1.lo_le_hi
    omega

theorem Follows.starts {start stop : Nat} {links : List (Span × α)}
    (follows : Follows start stop links) : ∀ node ∈ nodes links, start ≤ node.span.lo := by
  induction links generalizing start with
  | nil => simp
  | cons link links inductionHypothesis =>
    obtain ⟨starts, ⟨first, last, carries⟩, rest⟩ := follows
    intro node member
    simp only [nodes_list, List.flatMap_cons, List.mem_append] at member
    rcases member with member | member
    · exact Nat.le_trans starts ((Forest.inPlace carries).spans node member).1
    · have := inductionHypothesis rest node member
      have := link.1.lo_le_hi
      omega

theorem Follows.of_inRow {before after : Mark} {links : List (Span × α)}
    (inRow : InRow before after links) {start : Nat} (starts : start ≤ before.offset) :
    Follows start after.offset links := by
  induction links generalizing before start with
  | nil => exact Nat.le_trans starts inRow.1
  | cons link links inductionHypothesis =>
    obtain ⟨middle, ⟨lower, upper, _, inside⟩, rest⟩ := inRow
    have next : InRow ⟨link.1.hi, middle.number⟩ after links :=
      rest.widen ⟨upper, Nat.le_refl _⟩ (Mark.le_refl _)
    exact ⟨Nat.le_trans starts lower, ⟨_, _, inside⟩,
      inductionHypothesis next (Nat.le_refl link.1.hi)⟩

/-- What a link makes is a node over the part before it and what the link holds, in this order. -/
structure Extends (make : Expr → α → Origin → Expr) : Prop where
  origin : ∀ base link o, (make base link o).origin = o
  children : ∀ base link o,
    (Node.expr (make base link o)).textChildren <+ .expr base :: nodes link
  fields : ∀ {before after : Mark} {base link o}, Carries before after link →
    base.origin.span.hi ≤ before.offset → after.offset ≤ o.span.hi →
    (Node.expr (make base link o)).FieldsInPlace

theorem foldLinks_inPlace {make : Expr → α → Origin → Expr} (extending : Extends make)
    {before after : Mark} {base built : Expr} {links : List (Span × α)} {last' : Nat}
    (placed : Node.InPlace before after (.expr base :: nodes links))
    (follows : Follows base.origin.span.hi after.offset links)
    (succeeded : foldLinks make before.offset base links after.number = .ok (built, last')) :
    Node.InPlace before ⟨after.offset, last'⟩ [.expr built] := by
  -- Each link is gathered with the part before it, and what they make is the base of the rest.
  induction links generalizing base after with
  | nil =>
    obtain ⟨rfl, rfl⟩ := Build.pure_eq_ok.mp succeeded
    exact placed
  | cons head rest inductionHypothesis =>
    obtain ⟨span, link⟩ := head
    obtain ⟨linked, between, made, succeeded⟩ := Build.bind_eq_ok.mp succeeded
    obtain ⟨rfl, rfl⟩ := Build.node_eq_ok.mp made
    obtain ⟨starts, ⟨first, last, carries⟩, follows⟩ := follows
    have baseSpan := placed.spans (.expr base) List.mem_cons_self
    have ordered := base.origin.span.lo_le_hi
    have spanOrdered := span.lo_le_hi
    simp only [Node.span_expr] at baseSpan
    have hi := Span.between_hi (show before.offset ≤ span.hi by omega)
    have lo := Span.between_lo before.offset span.hi
    generalize Span.between before.offset span.hi = whole at made succeeded hi lo
    have separate : Node.InPlace before after ((.expr base :: nodes link) ++ nodes rest) := by
      simpa using placed
    have covers : ∀ child ∈ Node.expr base :: nodes link,
        whole.lo ≤ child.span.lo ∧ child.span.hi ≤ whole.hi := by
      intro child member
      rcases List.mem_cons.mp member with rfl | member
      · simp only [Node.span_expr]
        omega
      · have := (Forest.inPlace carries).spans child member
        simp only at this
        omega
    -- What the link holds stands in its span, after the part before it.
    have ordered : (Node.expr base :: nodes link).Pairwise Node.Precedes := by
      refine List.pairwise_cons.mpr ⟨fun node listed => .inl ?_, (Forest.inText carries).ordered⟩
      exact Nat.le_trans starts ((Forest.inPlace carries).spans node listed).1
    have children := extending.children base link ⟨after.number + 1, whole⟩
    have fields := extending.fields carries starts (o := ⟨after.number + 1, whole⟩)
      (Nat.le_of_eq hi.symm)
    have origin := extending.origin base link ⟨after.number + 1, whole⟩
    have baseFilled : base.origin.span.lo < base.origin.span.hi := placed.head.filled
    generalize make base link ⟨after.number + 1, whole⟩ = linked at *
    have gathered : Node.InPlace before ⟨after.offset, after.number + 1⟩
        (.expr linked :: nodes rest) := by
      have := separate.gather (.expr linked) (Node.children_subperm children)
        (by simpa only [Node.span_expr, origin])
        (by simp only [Node.span_expr, origin]; omega)
        (by simp only [Node.span_expr, origin, hi]; exact follows.le)
        (by simp only [Node.id_expr, origin]; omega) fields
        (.of_lt (by simp only [Node.span_expr, origin]; omega)) (ordered.sublist children) (by
          intro other listed
          have := follows.starts other listed
          exact .inl (by simp only [Node.span_expr, origin]; omega))
      simpa only [Node.id_expr, origin] using this
    rw [← hi] at follows
    have next := inductionHypothesis gathered (by rwa [origin]) succeeded
    exact next

end

/-- The name of a method stands in its link; the rest of a link are the nodes it holds. -/
instance : Forest Link :=
  .inRow {
    Carries := fun
      | before, after, .method _ nameSpan genericArgs args =>
        (before.offset ≤ nameSpan.lo ∧ nameSpan.hi ≤ after.offset) ∧
          Carries before after (genericArgs, args)
      | before, after, .field _ | before, after, .question => before ≤ after
      | before, after, .call args => Carries before after args
      | before, after, .index i => Carries before after i
    le := fun {before after link} carries => by
      cases link with
      | method => exact Carrier.le carries.2
      | field | question => exact carries
      | call | index => exact Carrier.le carries
    widen := fun {before before' after after' link} carries lower upper => by
      cases link with
      | method =>
        exact ⟨⟨Nat.le_trans lower.1 carries.1.1, Nat.le_trans carries.1.2 upper.1⟩,
          Carrier.widen carries.2 lower upper⟩
      | field | question => exact Mark.le_trans lower (Mark.le_trans carries upper)
      | call | index => exact Carrier.widen carries lower upper }
    (fun
      | .method _ _ genericArgs args => nodes (genericArgs, args)
      | .field _ | .question => []
      | .call args => nodes args
      | .index i => nodes i)
    (fun {before after link} carries => by
      cases link with
      | method => exact Forest.inText carries.2
      | field | question => exact .nil carries
      | call args => exact Forest.inText (show Carries _ _ args from carries)
      | index i => exact Forest.inText (show Carries _ _ i from carries))

theorem cast_extends : Extends fun operand (ty : Ty) o => Expr.cast o operand ty where
  origin _ _ _ := rfl
  children _ _ _ := by simp
  fields _ _ _ := trivial

theorem link_extends : Extends fun base (link : Link) o => link.expr base o where
  origin base link o := by cases link <;> rfl
  children base link o := by
    cases link with
    | method name nameSpan genericArgs args =>
      show _ <+ .expr base :: (nodes genericArgs ++ nodes args)
      simp [Link.expr]
    | field | call | index | question => simp [Link.expr, nodes]
  fields {before after base link o} carries starts ends := by
    cases link with
    | method name nameSpan genericArgs args =>
      exact ⟨Nat.le_trans starts carries.1.1, Nat.le_trans carries.1.2 ends⟩
    | field | call | index | question => trivial

/-- The fold of what follows an operand stands where all of it was read. -/
theorem foldLinks_carries {α : Type} [Forest α] {make : Expr → α → Origin → Expr}
    (extending : Extends make) {before after : Mark} {span : Span} {base built : Expr}
    {links : List (Span × α)} {last' : Nat} (carries : Carries before after (span, base, links))
    (succeeded : foldLinks make span.lo base links after.number = .ok (built, last')) :
    Carries before ⟨after.offset, last'⟩ built := by
  obtain ⟨starts, ends, _, middle, carriesBase, carriesLinks⟩ := carries
  have placed : Node.InPlace ⟨span.lo, before.number⟩ ⟨span.hi, after.number⟩
      (.expr base :: nodes links) := carriesBase.append (Forest.all_inPlace carriesLinks)
  have baseSpan := carriesBase.spans (.expr base) List.mem_cons_self
  have folded := foldLinks_inPlace extending placed (.of_inRow carriesLinks baseSpan.2) succeeded
  exact folded.widen ⟨starts, Nat.le_refl _⟩ ⟨ends, Nat.le_refl _⟩

instance : Places unary := inferInstanceAs (Places (.rule .unary))

instance : Places operandRule := by
  refine Places.building fun {before after value built last'} carries succeeded => ?_
  obtain ⟨span, operand, casts⟩ := value
  have folded := congrFun (castAll_eq span.lo operand casts) after.number
  exact foldLinks_carries cast_extends carries (folded.symm.trans succeeded)

instance : @Places Expr _ (call .chain) := inferInstanceAs (Places (.rule .chain))

/-- The node that a mark makes of its operand. -/
def markedExpr (mark : UnaryMark) (operand : Expr) (o : Origin) : Expr :=
  match mark with
  | .borrow isMut => .addrOf o isMut operand
  | .op op => .unary o op operand

instance : Places unaryRule := by
  have : Respects markedExpr := by
    refine Makes.respects fun mark operand o => ?_
    cases mark with
    | borrow | op => exact ⟨rfl, by simp [markedExpr], trivial⟩
  have marked : Places (node (markedExpr <$> .token unaryMark <* ws <*> unary)) := inferInstance
  exact @choice_places _ _ _ (call .chain) marked inferInstance

instance : Places callArguments := by
  unfold callArguments
  infer_instance

/-- The name stands before the arguments, and both stand in the link. -/
instance : Places methodLink := by
  have : Respects fun ((nameSpan, name) : Span × String) (genericArgs : List Ty)
      (args : List Expr) => Link.method name nameSpan genericArgs args := by
    refine ⟨fun mark => ⟨Mark.le_refl mark, ?_⟩⟩
    rintro ⟨nameSpan, name⟩ named ⟨starts, ends, _, plain⟩
    have first : mark ≤ named := ⟨Nat.le_trans starts (Nat.le_trans nameSpan.lo_le_hi ends), plain.2⟩
    refine ⟨first, fun genericArgs middle carriesTys => ?_⟩
    have second := Mark.le_trans first (Carrier.le carriesTys)
    refine ⟨second, fun args after carriesArgs => ?_⟩
    have third := Mark.le_trans (Carrier.le carriesTys) (Carrier.le carriesArgs)
    exact ⟨⟨starts, Nat.le_trans ends third.1⟩, middle,
      Carrier.widen carriesTys first (Mark.le_refl _), carriesArgs⟩
  unfold methodLink
  infer_instance

instance : Places fieldLink := by
  have : Respects Link.field := ⟨fun mark => ⟨Mark.le_refl mark, fun _ _ carries => carries⟩⟩
  unfold fieldLink
  infer_instance

instance : Places indexLink := by
  have : Respects Link.index := ⟨fun mark => ⟨Mark.le_refl mark, fun _ _ carries => carries⟩⟩
  unfold indexLink
  infer_instance

instance : Places link := by
  have : Respects Link.call := ⟨fun mark => ⟨Mark.le_refl mark, fun _ _ carries => carries⟩⟩
  have : Respects fun (_ : Unit) => Link.question :=
    ⟨fun mark => ⟨Mark.le_refl mark, fun _ _ carries => carries⟩⟩
  unfold link
  infer_instance

instance : Advances link := by
  have : Advances (sym ".") := sym_advances (by decide)
  have : Advances (sym "?") := sym_advances (by decide)
  unfold link methodLink fieldLink callArguments indexLink
  infer_instance

instance : @Places Expr _ (call .primary) := inferInstanceAs (Places (.rule .primary))

instance : @Advances (Val .primary) (call .primary) := @node_advances Expr _ _ (call .primary) _

instance : Places chainRule := by
  refine Places.building fun {before after value built last'} carries succeeded => ?_
  obtain ⟨span, base, links⟩ := value
  have folded := congrFun (linkAll_eq span.lo base links) after.number
  exact foldLinks_carries link_extends carries (folded.symm.trans succeeded)

instance : Places exprListRule := inferInstanceAs (Places (commaList expr))

end DrainLint.Grammar
