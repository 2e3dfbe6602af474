import DrainLint.Grammar.Items
import DrainLint.Grammar.Literals
import DrainLint.Grammar.Operators
import DrainLint.Grammar.Patterns
import DrainLint.Proofs.Grammar.Scanners
import DrainLint.Proofs.Peg.Readings
import DrainLint.Proofs.Tree.Forest

/-! # Placement

What a piece of the grammar builds stands where the piece was read, and carries the numbers handed
out meanwhile.

- `Carrier`: values that stand between two marks; a function carries what is read before its
  arguments;
- `Forest`: carriers that hold some nodes;
- `Makes`: functions whose result is a node over what they are given;
- `Places`: expressions of the grammar whose values stand where they were read, with an instance for
  each way of composing them;
- `Advances`: expressions of the grammar that take a character at least, such as those whose values
  are nodes.
-/

namespace DrainLint.Grammar

open Hir Peg List

/-! ## Carriers -/

/-- Values that stand between two marks. -/
class Carrier (α : Type) where
  Carries : Mark → Mark → α → Prop
  le : ∀ {before after value}, Carries before after value → before ≤ after
  widen : ∀ {before before' after after' value}, Carries before after value →
    before' ≤ before → after ≤ after' → Carries before' after' value

export Carrier (Carries)

/-- Values that hold nodes. -/
class Forest (α : Type) extends Carrier α where
  nodes : α → List Node
  inText : ∀ {before after value}, Carries before after value →
    Node.InText before after (nodes value)
  /-- Several values between two marks. -/
  CarriesAll : Mark → Mark → List α → Prop
  all_nil : ∀ {before after}, before ≤ after → CarriesAll before after []
  all_cons : ∀ {before middle after value values}, Carries before middle value →
    CarriesAll middle after values → CarriesAll before after (value :: values)
  all_append : ∀ {before middle after values values'}, CarriesAll before middle values →
    CarriesAll middle after values' → CarriesAll before after (values ++ values')
  all_widen : ∀ {before before' after after' values}, CarriesAll before after values →
    before' ≤ before → after ≤ after' → CarriesAll before' after' values
  all_inText : ∀ {before after values}, CarriesAll before after values →
    Node.InText before after (values.flatMap nodes)

export Forest (nodes CarriesAll)

section

variable {α β γ : Type} {before middle after : Mark}

theorem Forest.inPlace [Forest α] {value : α} (carries : Carries before after value) :
    Node.InPlace before after (nodes value) :=
  (Forest.inText carries).inPlace

theorem Forest.all_inPlace [Forest α] {values : List α} (carries : CarriesAll before after values) :
    Node.InPlace before after (values.flatMap nodes) :=
  (Forest.all_inText carries).inPlace

/-! ## Values in a row -/

/-- Values that stand one after the other and are numbered in that order. -/
def InRow [Carrier α] : Mark → Mark → List α → Prop
  | before, after, [] => before ≤ after
  | before, after, value :: values =>
    ∃ middle, Carries before middle value ∧ InRow middle after values

theorem InRow.widen [Carrier α] {before' after' : Mark} {values : List α}
    (inRow : InRow before after values) (lower : before' ≤ before) (upper : after ≤ after') :
    InRow before' after' values := by
  induction values generalizing before before' with
  | nil => exact Mark.le_trans lower (Mark.le_trans inRow upper)
  | cons value values inductionHypothesis =>
    obtain ⟨middle, head, tail⟩ := inRow
    exact ⟨middle, Carrier.widen head lower (Mark.le_refl _),
      inductionHypothesis tail (Mark.le_refl _)⟩

theorem InRow.append [Carrier α] {values values' : List α} (first : InRow before middle values)
    (second : InRow middle after values') : InRow before after (values ++ values') := by
  induction values generalizing before with
  | nil => exact second.widen first (Mark.le_refl _)
  | cons value values inductionHypothesis =>
    obtain ⟨next, head, tail⟩ := first
    exact ⟨next, head, inductionHypothesis tail⟩

theorem InRow.inText [Carrier α] {held : α → List Node}
    (placed : ∀ {before after value}, Carries before after value →
      Node.InText before after (held value))
    {values : List α} (inRow : InRow before after values) :
    Node.InText before after (values.flatMap held) := by
  induction values generalizing before with
  | nil => exact .nil inRow
  | cons value values inductionHypothesis =>
    obtain ⟨middle, head, tail⟩ := inRow
    rw [List.flatMap_cons]
    exact (placed head).append (inductionHypothesis tail)

/-- Values several of which stand in a row. -/
@[reducible] def Forest.inRow (carrier : Carrier α) (held : α → List Node)
    (placed : ∀ {before after value}, Carries before after value →
      Node.InText before after (held value)) : Forest α where
  toCarrier := carrier
  nodes := held
  inText := placed
  CarriesAll := InRow
  all_nil le := le
  all_cons {_ middle _ _ _} head tail := ⟨middle, head, tail⟩
  all_append := InRow.append
  all_widen := InRow.widen
  all_inText := InRow.inText placed

/-! ## Instances -/

/-- Values without nodes. -/
class Plain (α : Type) : Prop

/-- Values that are nodes. -/
class IsNode (α : Type) where
  toNode : α → Node

export IsNode (toNode)

instance [Plain α] : Forest α :=
  .inRow {
    Carries before after _ := before ≤ after
    le le := le
    widen le lower upper := Mark.le_trans lower (Mark.le_trans le upper) } (fun _ => []) .nil

/-- Several nodes may be numbered in turns, as those of a `use` declaration among statements are: all
items come before the first statement. -/
instance [IsNode α] : Forest α where
  Carries before after value := Node.InPlace before after [toNode value]
  le placed := placed.le
  widen placed lower upper := placed.widen lower upper
  nodes value := [toNode value]
  inText := .single
  CarriesAll before after values := Node.InText before after (values.flatMap fun value => [toNode value])
  all_nil le := .nil le
  all_cons head tail := (Node.InText.single head).append tail
  all_append first second := by
    rw [List.flatMap_append]
    exact first.append second
  all_widen placed lower upper := placed.widen lower upper
  all_inText placed := placed

instance [Forest α] : Forest (Option α) :=
  .inRow {
    Carries := fun
      | before, after, none => before ≤ after
      | before, after, some value => Carries before after value
    le := fun {before after value} carries => by
      cases value with
      | none => exact carries
      | some value => exact Carrier.le carries
    widen := fun {before before' after after' value} carries lower upper => by
      cases value with
      | none => exact Mark.le_trans lower (Mark.le_trans carries upper)
      | some value => exact Carrier.widen carries lower upper }
    (fun
      | none => []
      | some value => nodes value)
    (fun {before after value} carries => by
      cases value with
      | none => exact .nil carries
      | some value => exact Forest.inText carries)

instance [Forest α] : Forest (List α) :=
  .inRow {
    Carries := CarriesAll
    le := fun carries => (Forest.all_inPlace carries).le
    widen := Forest.all_widen }
    (fun values => values.flatMap nodes) Forest.all_inText

instance [Forest α] [Forest β] : Forest (α × β) :=
  .inRow {
    Carries before after pair :=
      ∃ middle, Carries before middle pair.1 ∧ Carries middle after pair.2
    le := fun ⟨_, first, second⟩ => Mark.le_trans (Carrier.le first) (Carrier.le second)
    widen := fun ⟨middle, first, second⟩ lower upper =>
      ⟨middle, Carrier.widen first lower (Mark.le_refl _),
        Carrier.widen second (Mark.le_refl _) upper⟩ }
    (fun pair => nodes pair.1 ++ nodes pair.2)
    (fun ⟨_, first, second⟩ => (Forest.inText first).append (Forest.inText second))

instance spannedForest [Forest α] : Forest (Span × α) :=
  .inRow {
    Carries before after pair := before.offset ≤ pair.1.lo ∧ pair.1.hi ≤ after.offset ∧
      pair.1.lo < pair.1.hi ∧ Carries ⟨pair.1.lo, before.number⟩ ⟨pair.1.hi, after.number⟩ pair.2
    le := fun ⟨lower, upper, _, inside⟩ => by
      have := Carrier.le inside
      rw [Mark.le_iff] at *
      simp only at this
      omega
    widen := fun ⟨lower, upper, filled, inside⟩ lower' upper' => by
      rw [Mark.le_iff] at lower' upper'
      exact ⟨by omega, by omega, filled,
        Carrier.widen inside ⟨Nat.le_refl _, lower'.2⟩ ⟨Nat.le_refl _, upper'.2⟩⟩ }
    (fun pair => nodes pair.2)
    (fun ⟨lower, upper, _, inside⟩ =>
      (Forest.inText inside).widen ⟨lower, Nat.le_refl _⟩ ⟨upper, Nat.le_refl _⟩)

instance [Carrier α] [Carrier β] : Carrier (α → β) where
  Carries before after f := before ≤ after ∧
    ∀ value last, Carries after last value → Carries before last (f value)
  le carries := carries.1
  widen := fun ⟨le, takes⟩ lower upper =>
    ⟨Mark.le_trans lower (Mark.le_trans le upper), fun value last carries =>
      Carrier.widen (takes value last (Carrier.widen carries upper (Mark.le_refl _))) lower
        (Mark.le_refl _)⟩

theorem Carrier.apply [Carrier α] [Carrier β] {f : α → β} {value : α}
    (takes : Carries before middle f) (carries : Carries middle after value) :
    Carries before after (f value) := takes.2 value after carries

/-- A function that makes a node, over all that is read before, with some text and numbered after
it. -/
instance originCarrier [Carrier α] : Carrier (Origin → α) where
  Carries before after make := before ≤ after ∧ ∀ origin : Origin,
    origin.span.lo ≤ before.offset → after.offset ≤ origin.span.hi →
    origin.span.lo < origin.span.hi → after.number < origin.id →
    Carries ⟨origin.span.lo, before.number⟩ ⟨origin.span.hi, origin.id⟩ (make origin)
  le carries := carries.1
  widen := fun ⟨le, makes⟩ lower upper => by
    refine ⟨Mark.le_trans lower (Mark.le_trans le upper), ?_⟩
    intro origin starts ends filled numbered
    have made := makes origin (Nat.le_trans starts lower.1) (Nat.le_trans upper.1 ends) filled
      (Nat.lt_of_le_of_lt upper.2 numbered)
    exact Carrier.widen made ⟨Nat.le_refl _, lower.2⟩ (Mark.le_refl _)

/-! ## Functions that make nodes -/

/-- Functions that give a node in the end. -/
class Maker (μ : Type) extends Carrier μ where
  /-- The node is one over the nodes given before and those of the arguments, in this order. -/
  Makes : List Node → μ → Prop
  carries : ∀ {given make before after}, Makes given make → Node.InText before after given →
    Carries before after make

export Maker (Makes)

instance [IsNode α] : Maker (Origin → α) where
  Makes given make := ∀ origin : Origin, (toNode (make origin)).origin = origin ∧
    (toNode (make origin)).textChildren <+ given ∧ (toNode (make origin)).FieldsInPlace
  carries {given make before after} makes placed := by
    refine ⟨placed.inPlace.le, ?_⟩
    intro origin starts ends filled numbered
    obtain ⟨placedAt, children, fields⟩ := makes origin
    have whole := placed.inPlace.node _ (Node.children_subperm children)
      (by rw [Node.span, placedAt]; exact starts) (by rw [Node.span, placedAt]; exact ends)
      (by rw [Node.id, placedAt]; exact numbered) fields
      (.of_lt (by rw [Node.span, placedAt]; exact filled)) (placed.ordered.sublist children)
    rw [Node.span, Node.id, placedAt] at whole
    exact whole

instance [Forest α] {μ : Type} [Maker μ] : Maker (α → μ) where
  Makes given make := ∀ value, Makes (given ++ nodes value) (make value)
  carries makes placed :=
    ⟨placed.inPlace.le, fun value _ carries =>
      Maker.carries (makes value) (placed.append (Forest.inText carries))⟩

/-- Values of the grammar that stand anywhere: they bring no nodes of their own. -/
class Respects [Carrier α] (value : α) : Prop where
  carries : ∀ mark, Carries mark mark value

theorem Makes.respects {μ : Type} [Maker μ] {make : μ} (makes : Makes [] make) :
    Respects make where
  carries mark := Maker.carries makes (.nil (Mark.le_refl mark))

/-- Types none of whose values brings nodes, functions to such types included. -/
class Idle (μ : Type) [Carrier μ] : Prop where
  carries : ∀ {before after : Mark} (value : μ), before ≤ after → Carries before after value

instance [Plain α] : Idle α where
  carries _ le := le

instance [Forest α] [Idle α] : Idle (Option α) where
  carries value? le := by
    cases value? with
    | none => exact le
    | some value => exact Idle.carries value le

instance [Plain α] : Idle (List α) where
  carries values le := by
    induction values with
    | nil => exact le
    | cons value values inductionHypothesis => exact ⟨_, Mark.le_refl _, inductionHypothesis⟩

instance [Carrier α] [Carrier β] [Idle β] : Idle (α → β) where
  carries f le := ⟨le, fun value _ carries =>
    Idle.carries (f value) (Mark.le_trans le (Carrier.le carries))⟩

instance [Carrier α] [Idle α] (value : α) : Respects value where
  carries mark := Idle.carries value (Mark.le_refl mark)

instance [Forest α] : Respects (some : α → Option α) where
  carries mark := ⟨Mark.le_refl mark, fun _ _ carries => carries⟩

instance [Carrier α] [Forest β] : Respects (fun _ => none : α → Option β) where
  carries mark := ⟨Mark.le_refl mark, fun _ _ carries => Carrier.le carries⟩

instance [Carrier α] [Carrier β] [Forest γ] : Respects (fun _ _ => none : α → β → Option γ) where
  carries mark := by
    refine ⟨Mark.le_refl mark, fun _ middle carriesFirst => ?_⟩
    exact ⟨Carrier.le carriesFirst, fun _ after carriesSecond =>
      Mark.le_trans (Carrier.le carriesFirst) (Carrier.le carriesSecond)⟩

instance [Carrier α] [Forest β] : Respects (fun _ => [] : α → List β) where
  carries mark := ⟨Mark.le_refl mark, fun _ _ carries => Forest.all_nil (Carrier.le carries)⟩

instance [Forest α] : Respects (List.cons : α → List α → List α) where
  carries mark := by
    refine ⟨Mark.le_refl mark, fun head middle carriesHead => ?_⟩
    exact ⟨Carrier.le carriesHead, fun tail after carriesTail =>
      Forest.all_cons carriesHead carriesTail⟩

theorem Forest.all_single [Forest α] {value : α} (carries : Carries before after value) :
    CarriesAll before after [value] := all_cons carries (all_nil (Mark.le_refl after))

instance [Forest α] : Respects (fun value : α => [value]) where
  carries mark := ⟨Mark.le_refl mark, fun _ _ carries => Forest.all_single carries⟩

instance [Forest α] [Forest β] : Respects (Prod.mk : α → β → α × β) where
  carries mark := by
    refine ⟨Mark.le_refl mark, fun first middle carriesFirst => ?_⟩
    exact ⟨Carrier.le carriesFirst, fun second after carriesSecond =>
      ⟨middle, carriesFirst, carriesSecond⟩⟩

theorem InRow.flatten [Forest α] {values : List (List α)} (inRow : InRow before after values) :
    CarriesAll before after values.flatten := by
  induction values generalizing before with
  | nil => exact Forest.all_nil inRow
  | cons head tail inductionHypothesis =>
    obtain ⟨middle, carriesHead, rest⟩ := inRow
    exact Forest.all_append carriesHead (inductionHypothesis rest)

instance [Forest α] : Respects (List.flatten : List (List α) → List α) where
  carries mark := ⟨Mark.le_refl mark, fun _ _ carries => InRow.flatten carries⟩

theorem InRow.filterMap_id [Forest α] {values : List (Option α)}
    (inRow : InRow before after values) : CarriesAll before after (values.filterMap id) := by
  induction values generalizing before with
  | nil => exact Forest.all_nil inRow
  | cons value values inductionHypothesis =>
    obtain ⟨middle, head, rest⟩ := inRow
    cases value with
    | none => exact Forest.all_widen (inductionHypothesis rest) head (Mark.le_refl _)
    | some value => exact Forest.all_cons head (inductionHypothesis rest)

instance [Forest α] : Respects (List.filterMap id : List (Option α) → List α) where
  carries mark := ⟨Mark.le_refl mark, fun _ _ carries => InRow.filterMap_id carries⟩

end

/-! ## Carriers of the grammar -/

instance : Plain Unit where

instance : Plain Bool where

instance : Plain String where

instance : Plain (List Char) where

instance : Plain Attribute where

instance : Plain UseLeaf where

instance : Plain BinaryOp where

instance : Plain UnaryMark where

instance : IsNode Ty where
  toNode := .ty

instance : IsNode Pat where
  toNode := .pat

instance : IsNode Expr where
  toNode := .expr

instance : IsNode Block where
  toNode block := .expr (.block block)

instance : IsNode Stmt where
  toNode := .stmt

instance : IsNode Item where
  toNode := .item

instance : IsNode Arm where
  toNode := .arm

instance : IsNode Param where
  toNode := .param

instance : IsNode FieldDef where
  toNode := .fieldDef

instance : IsNode Crate where
  toNode := .crate

instance : IsNode PathNode where
  toNode node := .expr node.expr

instance : IsNode FieldInit where
  toNode init := .expr init.value

/-- Values that are nodes with some text: all but crates. -/
class Solid (α : Type) [IsNode α] : Prop where
  filled : ∀ value : α, (toNode value).Filled → (toNode value).span.lo < (toNode value).span.hi

instance : Solid Ty := ⟨fun _ => id⟩

instance : Solid Pat := ⟨fun _ => id⟩

instance : Solid Expr := ⟨fun _ => id⟩

instance : Solid Block := ⟨fun _ => id⟩

instance : Solid Stmt := ⟨fun _ => id⟩

instance : Solid Item := ⟨fun _ => id⟩

instance : Solid Arm := ⟨fun _ => id⟩

instance : Solid Param := ⟨fun _ => id⟩

instance : Solid FieldDef := ⟨fun _ => id⟩

instance : Solid PathNode := ⟨fun _ => id⟩

instance : Solid FieldInit := ⟨fun _ => id⟩

instance : Forest MacroBody :=
  .inRow {
    Carries before after body := Carries before after body.args
    le := Carrier.le
    widen := Carrier.widen } (fun body => nodes body.args)
    (fun {_ _ body} carries => Forest.inText (show Carries _ _ body.args from carries))

instance valForest : (name : Rule) → Forest (Val name)
  | .crate => inferInstanceAs (Forest Crate)
  | .item | .declaration => inferInstanceAs (Forest (List Item))
  | .useTree => inferInstanceAs (Forest (List UseLeaf))
  | .genericParams => inferInstanceAs (Forest (List String))
  | .bounds | .genericArgs => inferInstanceAs (Forest (List Ty))
  | .ty | .tyPath => inferInstanceAs (Forest Ty)
  | .pat | .armPat => inferInstanceAs (Forest Pat)
  | .simplePath => inferInstanceAs (Forest Path)
  | .block | .unsafeBlock => inferInstanceAs (Forest Block)
  | .stmt => inferInstanceAs (Forest (List Stmt))
  | .blockLike | .expr | .operand | .binary | .unary | .chain | .primary | .literal | .stringLit
  | .charLit | .ifExpr | .matchExpr | .whileExpr | .loopExpr | .forExpr =>
    inferInstanceAs (Forest Expr)
  | .pathExpr => inferInstanceAs (Forest PathNode)
  | .exprList => inferInstanceAs (Forest (List Expr))
  | .macroBody => inferInstanceAs (Forest MacroBody)
  | .tokenTrees => inferInstanceAs (Forest Unit)

/-! ## The nodes that carriers hold -/

section

variable {α β : Type}

@[simp] theorem nodes_plain [Plain α] : (nodes : α → List Node) = fun _ => [] := rfl

@[simp] theorem nodes_isNode [IsNode α] : (nodes : α → List Node) = fun value => [toNode value] :=
  rfl

@[simp] theorem nodes_option [Forest α] :
    (nodes : Option α → List Node) = fun value? => value?.toList.flatMap nodes := by
  funext value?
  cases value? <;> simp [nodes]

@[simp] theorem nodes_list [Forest α] :
    (nodes : List α → List Node) = fun values => values.flatMap nodes := rfl

@[simp] theorem flatMap_no_nodes (values : List α) :
    values.flatMap (fun _ => ([] : List Node)) = [] :=
  List.flatMap_eq_nil_iff.mpr fun _ _ => rfl

@[simp] theorem nodes_pair [Forest α] [Forest β] :
    (nodes : α × β → List Node) = fun pair => nodes pair.1 ++ nodes pair.2 := rfl

@[simp] theorem nodes_spanned [Forest α] :
    (nodes : Span × α → List Node) = fun pair => nodes pair.2 := rfl

@[simp] theorem nodes_macroBody :
    (nodes : MacroBody → List Node) = fun body => nodes body.args := rfl

end

@[simp] theorem toNode_ty (ty : Ty) : toNode ty = .ty ty := rfl

@[simp] theorem toNode_pat (pat : Pat) : toNode pat = .pat pat := rfl

@[simp] theorem toNode_expr (expr : Expr) : toNode expr = .expr expr := rfl

@[simp] theorem toNode_block (block : Block) : toNode block = .expr (.block block) := rfl

@[simp] theorem toNode_stmt (stmt : Stmt) : toNode stmt = .stmt stmt := rfl

@[simp] theorem toNode_item (item : Item) : toNode item = .item item := rfl

@[simp] theorem toNode_arm (arm : Arm) : toNode arm = .arm arm := rfl

@[simp] theorem toNode_param (param : Param) : toNode param = .param param := rfl

@[simp] theorem toNode_fieldDef (field : FieldDef) : toNode field = .fieldDef field := rfl

@[simp] theorem toNode_crate (crate : Crate) : toNode crate = .crate crate := rfl

@[simp] theorem toNode_pathNode (path : PathNode) : toNode path = .expr path.expr := rfl

@[simp] theorem toNode_fieldInit (init : FieldInit) : toNode init = .expr init.value := rfl

/-! ## Expressions of the grammar -/

/-- A reading that stays in the text and whose value stands where it was read. -/
def PlacedReading (α : Type) [Carrier α] : Reading α := fun cursor last value after last' =>
  after.offset + after.rest.length = cursor.offset + cursor.rest.length ∧
    Carries ⟨cursor.offset, last⟩ ⟨after.offset, last'⟩ value

/-- The readings of the rules, as far as placement goes. -/
abbrev placedRules : (name : Rule) → Reading (Val name) := fun name => PlacedReading (Val name)

/-- An expression whose values stand where they were read, if those of the rules do. -/
class Places {α : Type} [Carrier α] (piece : G α) : Prop where
  places : ∀ {cursor last value after last'},
    piece.Reads placedRules cursor last value after last' →
      PlacedReading α cursor last value after last'

section

variable {α β γ : Type} {cursor after : Cursor} {last last' : Nat}

instance [Carrier α] (value : α) [Respects value] : Places (Peg.pure value : G α) where
  places := by
    rintro cursor last _ _ _ ⟨rfl, rfl, rfl⟩
    exact ⟨rfl, Respects.carries _⟩

instance [Carrier α] [Idle α] (scan : Scanner α) [Bounded scan] :
    Places (Peg.token scan : G α) where
  places := by
    rintro cursor last value _ _ ⟨count, scanned, rfl, rfl⟩
    have := Bounded.le_length scanned
    refine ⟨?_, Idle.carries value ⟨Nat.le_add_right .., Nat.le_refl _⟩⟩
    simp only [Cursor.advance, List.length_drop]
    omega

instance (name : Rule) : Places (Peg.rule name : G (Val name)) where
  places reads := reads

/-- Two pieces joined by a function that takes up the values one after the other. -/
theorem Places.seqWith [Carrier α] [Carrier β] [Carrier γ] {combine : α → β → γ} {first : G α}
    {second : G β} [Places first] [Places second]
    (combines : ∀ {before middle after : Mark} {value value'}, Carries before middle value →
      Carries middle after value' → Carries before after (combine value value')) :
    Places (Peg.seqWith combine first second) where
  places := by
    rintro cursor last _ after last' ⟨value, middle, between, value', reads, reads', rfl⟩
    obtain ⟨stays, carries⟩ := Places.places reads
    obtain ⟨stays', carries'⟩ := Places.places reads'
    exact ⟨stays'.trans stays, combines carries carries'⟩

instance [Carrier α] [Carrier β] (first : G (α → β)) (second : G α) [Places first]
    [Places second] : Places (first <*> second) :=
  .seqWith Carrier.apply

instance seqLeft_places [Carrier α] [Carrier β] (first : G α) (second : G β) [Places first]
    [Places second] : Places (first <* second) :=
  .seqWith fun carries carries' => Carrier.widen carries (Mark.le_refl _) (Carrier.le carries')

instance [Carrier α] [Carrier β] (first : G α) (second : G β) [Places first] [Places second] :
    Places (first *> second) :=
  .seqWith fun carries carries' => Carrier.widen carries' (Carrier.le carries) (Mark.le_refl _)

/-- A piece whose value is built on, where the further building keeps it in place. -/
theorem Places.building [Carrier α] [Carrier β] {next : α → Build β} {piece : G α} [Places piece]
    (builds : ∀ {before after : Mark} {value built last'}, Carries before after value →
      next value after.number = .ok (built, last') →
      Carries before ⟨after.offset, last'⟩ built) :
    Places (Peg.building next piece) where
  places := by
    rintro cursor last built after last' ⟨value, between, reads, built⟩
    obtain ⟨stays, carries⟩ := Places.places reads
    exact ⟨stays, builds carries built⟩

instance map_places [Carrier α] [Carrier β] (f : α → β) [Respects f] (piece : G α) [Places piece] :
    Places (f <$> piece) := by
  refine Places.building fun {before after value built last'} carries succeeded => ?_
  obtain ⟨rfl, rfl⟩ := Build.pure_eq_ok.mp succeeded
  exact Carrier.apply (Respects.carries before) carries

instance choice_places [Carrier α] (first second : G α) [Places first] [Places second] :
    Places (first <|> second) where
  places reads := reads.elim Places.places Places.places

instance [Forest α] (piece : G α) [placing : Places piece] : Places (Peg.optional piece) where
  places := by
    rintro cursor last _ after last' (⟨value, reads, rfl⟩ | ⟨rfl, rfl, rfl⟩)
    · exact placing.places reads
    · exact ⟨rfl, Mark.le_refl _⟩

instance [Forest α] (piece : G α) [Places piece] : Places (Peg.many piece) where
  places := by
    intro cursor last values after last' repeats
    induction repeats with
    | nil => exact ⟨rfl, Forest.all_nil (Mark.le_refl _)⟩
    | cons reads _ inductionHypothesis =>
      obtain ⟨stays, carries⟩ := Places.places reads
      exact ⟨inductionHypothesis.1.trans stays, Forest.all_cons carries inductionHypothesis.2⟩

instance (piece : G α) : Places (Peg.notAhead piece) where
  places := by
    rintro cursor last value _ _ ⟨rfl, rfl⟩
    exact ⟨rfl, Mark.le_refl _⟩

/-! ## Expressions that take a character -/

/-- An expression that takes a character of the text at least. -/
class Advances (piece : G α) : Prop where
  advances : ∀ {cursor last value after last'},
    piece.Reads placedRules cursor last value after last' → cursor.offset < after.offset

/-- Nodes have some text. -/
instance node_advances [IsNode α] [Solid α] (piece : G α) [Places piece] : Advances piece where
  advances := by
    intro cursor last value after last' reads
    obtain ⟨_, placed⟩ := Places.places reads
    have spans := placed.spans (toNode value) List.mem_cons_self
    have filled := Solid.filled value placed.head.filled
    simp only at spans
    omega

instance token_advances (scan : Scanner α) [Wordful scan] : Advances (Peg.token scan : G α) where
  advances := by
    rintro cursor last value _ _ ⟨count, scanned, rfl, rfl⟩
    have := Wordful.length_pos scanned
    simp only [Cursor.advance]
    omega

theorem Advances.first [Carrier β] {combine : α → β → γ} {first : G α} {second : G β}
    [Advances first] [Places second] : Advances (Peg.seqWith combine first second) where
  advances := by
    rintro cursor last _ after last' ⟨_, middle, between, _, reads, reads', _⟩
    exact Nat.lt_of_lt_of_le (Advances.advances reads) (Carrier.le (Places.places reads').2).1

theorem Advances.second [Carrier α] {combine : α → β → γ} {first : G α} {second : G β}
    [Places first] [Advances second] : Advances (Peg.seqWith combine first second) where
  advances := by
    rintro cursor last _ after last' ⟨_, middle, between, _, reads, reads', _⟩
    exact Nat.lt_of_le_of_lt (Carrier.le (Places.places reads).2).1 (Advances.advances reads')

instance [Carrier α] [Carrier β] (first : G (α → β)) (second : G α) [Places first]
    [Advances second] : Advances (first <*> second) := .second

instance [Carrier α] (first : G (α → β)) (second : G α) [Advances first] [Places second] :
    Advances (first <*> second) := .first

instance [Carrier α] (first : G α) (second : G β) [Places first] [Advances second] :
    Advances (first <* second) := .second

instance [Carrier β] (first : G α) (second : G β) [Advances first] [Places second] :
    Advances (first <* second) := .first

instance [Carrier α] (first : G α) (second : G β) [Places first] [Advances second] :
    Advances (first *> second) := .second

instance [Carrier β] (first : G α) (second : G β) [Advances first] [Places second] :
    Advances (first *> second) := .first

instance building_advances (next : α → Build β) (piece : G α) [Advances piece] :
    Advances (Peg.building next piece) where
  advances := by
    rintro cursor last built after last' ⟨value, between, reads, _⟩
    exact Advances.advances reads

instance (f : α → β) (piece : G α) [Advances piece] : Advances (f <$> piece) :=
  building_advances _ piece

instance (first second : G α) [Advances first] [Advances second] : Advances (first <|> second) where
  advances reads := reads.elim Advances.advances Advances.advances

instance spanned_advances (piece : G α) [Advances piece] : Advances (Peg.spanned piece) where
  advances := by
    rintro cursor last _ after last' ⟨value, reads, _⟩
    exact Advances.advances reads

instance (piece : G α) [Advances piece] : Advances (Peg.captured piece) where
  advances := by
    rintro cursor last _ after last' ⟨value, reads, _⟩
    exact Advances.advances reads

/-! ## Spans and nodes -/

instance [Forest α] (piece : G α) [Places piece] [Advances piece] : Places (Peg.spanned piece) where
  places := by
    rintro cursor last _ after last' ⟨value, reads, rfl⟩
    obtain ⟨stays, carries⟩ := Places.places reads
    have forward := Advances.advances reads
    have hi := Span.between_hi (Nat.le_of_lt forward)
    refine ⟨stays, Nat.le_refl _, ?_, ?_, ?_⟩
    · exact Nat.le_of_eq hi
    · simpa only [Span.between_lo, hi] using forward
    · simp only [hi]
      exact carries

instance [Forest α] (piece : G α) [Places piece] : Places (Peg.captured piece) where
  places := by
    rintro cursor last _ after last' ⟨value, reads, rfl⟩
    obtain ⟨stays, carries⟩ := Places.places reads
    exact ⟨stays, _, Mark.le_refl _, carries⟩

/-- A node has the span of its piece and is numbered after what is in it. -/
instance [Carrier α] (piece : G (Origin → α)) [Places piece] [Advances piece] :
    Places (node piece) where
  places := by
    rintro cursor last built after last' ⟨⟨span, make⟩, between, ⟨_, reads, same⟩, succeeded⟩
    obtain ⟨rfl, rfl⟩ := Prod.mk.inj same
    obtain ⟨rfl, rfl⟩ := Build.node_eq_ok.mp succeeded
    obtain ⟨stays, le, makes⟩ := Places.places reads
    have forward := Advances.advances reads
    have hi := Span.between_hi le.1
    have made := makes ⟨between + 1, Span.between cursor.offset after.offset⟩ (Nat.le_refl _)
      (Nat.le_of_eq hi.symm) (by simpa only [Span.between_lo, hi] using forward)
      (Nat.lt_succ_self _)
    simp only [hi] at made
    exact ⟨stays, made⟩

end

end DrainLint.Grammar
