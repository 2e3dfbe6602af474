import DrainLint.Proofs.Grammar.Blocks
import DrainLint.Proofs.Grammar.PlacedItems

/-! # Members, blocks and fields as they are written

The items of a crate, a module, an implementation or a trait are read one after another, each with
the attributes in front of it, and so are the statements of a block; the name of a field is read at the
end of it.  What the grammar builds bears that out: it never holds a node whose members or statements
are not the ones read between its braces, or a field of another name.

- `Node.members`: the items that stand in a node by themselves;
- `WrittenMember`: a piece of the text that is read as items, with the attributes in front of them;
- `Node.MembersRead`: the members of a node are read one after another from its opening;
- `FieldRead`: the name of a field is read right before a place;
- `AsWritten`: the members of a node are as written, and so is the node if it is a block or a field;
- `Bearer`: values that hold such nodes only; a function hands on what its arguments hold;
- `Gathers`: functions whose result holds no more than what they are given;
- `Honest`: expressions of the grammar whose values hold such nodes only, with an instance for each
  way of composing them.
-/

namespace DrainLint.Hir

/-- The items of a crate, a module, an implementation or a trait; other nodes have no members. -/
def Node.members? : Node → Option (List Item)
  | .crate whole => some whole.items
  | .item (.modDef _ _ items _) => some items
  | .item (.implBlock _ _ _ _ items _) => some items
  | .item (.traitDef _ _ _ items _) => some items
  | _ => none

def Node.members (node : Node) : List Item := node.members?.getD []

/-- Whether a node has members, or statements as a block has, or the name of a field. -/
def Node.hasContents : Node → Bool
  | .crate _ | .item (.modDef ..) | .item (.implBlock ..) | .item (.traitDef ..)
  | .expr (.block _) | .expr (.field ..) => true
  | _ => false

theorem Node.members?_of_empty {node : Node} (empty : node.hasContents = false) :
    node.members? = none := by
  cases node with
  | crate => cases empty
  | item item => cases item <;> first | rfl | cases empty
  | _ => rfl

end DrainLint.Hir

namespace DrainLint.Grammar

open Hir Peg List

/-! ## Written members -/

/-- What is read in the place of a member: the outer attributes, and the items after them. -/
structure WrittenMember where
  attrs : List Attribute
  bare : List Item

/-- The items with the attributes in front of them, which all of them share. -/
def WrittenMember.items (member : WrittenMember) : List Item :=
  if member.attrs.isEmpty then member.bare else member.bare.map (Item.withAttrs member.attrs)

/-- An item as `itemRule` reads it, with the attributes kept apart. -/
def writtenMember : G WrittenMember :=
  WrittenMember.mk <$> outerAttrs <* visibility <*> (declaration <|> single macroItem)

def writtenMembers : G (List WrittenMember) := .many (writtenMember <* ws)

/-- What stands before the members of a crate. -/
def crateOpening : G (List Attribute) := ws *> .many (innerAttr <* ws)

def bracedMembers : G (List WrittenMember) :=
  sym "\x7b" *> ws *> writtenMembers <* sym "\x7d"

/-- The members of a node as a text has them, one after the other: those of a crate from where it
starts, the others between the braces with which their node ends.  The members of a module that ends
with a semicolon are in another file. -/
inductive MembersRead (text : List Char) (node : Node) : List WrittenMember → Prop where
  | nothing (none : node.members? = none) : MembersRead text node []
  | elsewhere {semicolon closed : Cursor} {last last' : Nat} (on : semicolon.On text)
      (starts : node.span.lo ≤ semicolon.offset)
      (reads : (sym ";").Reads (Readable rules) semicolon last () closed last')
      (ends : closed.offset = node.span.hi) : MembersRead text node []
  | ofCrate {start opened closed : Cursor} {last between last' : Nat} {attrs : List Attribute}
      {members : List WrittenMember} (on : start.On text) (starts : start.offset = node.span.lo)
      (opens : crateOpening.Reads (Readable rules) start last attrs opened between)
      (reads : writtenMembers.Reads (Readable rules) opened between members closed last')
      (ends : closed.offset = node.span.hi) : MembersRead text node members
  | braced {brace closed : Cursor} {last last' : Nat} {members : List WrittenMember}
      (on : brace.On text) (starts : node.span.lo ≤ brace.offset)
      (reads : bracedMembers.Reads (Readable rules) brace last members closed last')
      (ends : closed.offset = node.span.hi) : MembersRead text node members

/-- The members of a node are the ones that a text has in their place. -/
def MembersWritten (text : List Char) (node : Node) : Prop :=
  ∃ members, MembersRead text node members ∧ node.members = members.flatMap WrittenMember.items

variable {text : List Char}

theorem MembersWritten.of_none {node : Node} (none : node.members? = none) :
    MembersWritten text node := ⟨[], .nothing none, by rw [Node.members, none]; rfl⟩

/-- A node in the place of another with the same members and the same span. -/
theorem MembersWritten.relabel {node node' : Node} (written : MembersWritten text node)
    (span : node'.span = node.span) (same : node'.members? = node.members?) :
    MembersWritten text node' := by
  obtain ⟨members, read, eq⟩ := written
  refine ⟨members, ?_, by rw [Node.members, same]; exact eq⟩
  cases read with
  | nothing none => exact .nothing (same.trans none)
  | elsewhere on starts reads ends =>
    exact .elsewhere on (by rw [span]; exact starts) reads (by rw [span, ends])
  | ofCrate on starts opens reads ends =>
    exact .ofCrate on (by rw [span, starts]) opens reads (by rw [span, ends])
  | braced on starts reads ends =>
    exact .braced on (by rw [span]; exact starts) reads (by rw [span, ends])

/-! ## Names of fields -/

variable (text) in
/-- The name of a field is read from a text, after a point and right before a place. -/
inductive FieldRead (stop : Nat) (name : String) : Prop where
  | intro {point after : Cursor} {last last' : Nat} (on : point.On text)
      (reads : fieldLink.Reads (Readable rules) point last (.field name) after last')
      (ends : after.offset = stop)

/-! ## Nodes that are as written -/

variable (text) in
/-- What stands in a node by itself, members, statements or the name of a field, is as written. -/
structure AsWritten (node : Node) : Prop where
  members : MembersWritten text node
  block : ∀ block, node = .expr (.block block) → BlockWritten text block
  field : ∀ origin base name, node = .expr (.field origin base name) →
    FieldRead text origin.span.hi name

/-- Other nodes have nothing that would have to be as written. -/
theorem AsWritten.of_empty {node : Node} (empty : node.hasContents = false) :
    AsWritten text node := by
  refine ⟨.of_none (Node.members?_of_empty empty), ?_, ?_⟩
  · rintro _ rfl
    cases empty
  · rintro _ _ _ rfl
    cases empty

/-- A block has no members. -/
theorem AsWritten.of_block {block : Block} (written : BlockWritten text block) :
    AsWritten text (.expr (.block block)) := by
  refine ⟨.of_none rfl, ?_, nofun⟩
  rintro _ ⟨⟩
  exact written

/-- Neither has a field. -/
theorem AsWritten.of_field {origin : Origin} {base : Expr} {name : String}
    (read : FieldRead text origin.span.hi name) : AsWritten text (.expr (.field origin base name)) := by
  refine ⟨.of_none rfl, nofun, ?_⟩
  rintro _ _ _ ⟨⟩
  exact read

/-- An item or a crate is no expression. -/
theorem AsWritten.of_members {node : Node} (written : MembersWritten text node)
    (other : ∀ value, node ≠ .expr value) : AsWritten text node :=
  ⟨written, fun _ same => absurd same (other _), fun _ _ _ same => absurd same (other _)⟩

variable (text) in
/-- Whether some nodes, and all nodes below them, are as written. -/
def AllWritten (nodes : List Node) : Prop := ∀ node ∈ Node.walkAll nodes, AsWritten text node

theorem AllWritten.nil : AllWritten text [] := by simp [AllWritten]

theorem allWritten_append {nodes nodes' : List Node} :
    AllWritten text (nodes ++ nodes') ↔ AllWritten text nodes ∧ AllWritten text nodes' := by
  simp [AllWritten, or_imp, forall_and]

theorem AllWritten.mono {nodes nodes' : List Node} (written : AllWritten text nodes)
    (fewer : nodes' ⊆ nodes) : AllWritten text nodes' := fun node listed => by
  obtain ⟨root, isRoot, below⟩ := List.mem_flatMap.mp listed
  exact written node (Node.mem_walkAll_of_mem (fewer isRoot) below)

/-- A node over some of the nodes. -/
theorem AllWritten.over {nodes : List Node} {node : Node} (written : AllWritten text nodes)
    (children : node.children ⊆ nodes) (own : AsWritten text node) : AllWritten text [node] := by
  intro below listed
  simp only [Node.walkAll_cons, Node.walkAll_nil, List.append_nil, Node.walk_eq] at listed
  rcases List.mem_cons.mp listed with rfl | deeper
  · exact own
  · exact written.mono children below deeper

theorem AllWritten.children {node : Node} (written : AllWritten text [node]) :
    AllWritten text node.children := by
  intro below deeper
  apply written
  simp only [Node.walkAll_cons, Node.walkAll_nil, List.append_nil, Node.walk_eq]
  exact List.mem_cons_of_mem node deeper

/-! ## Values -/

/-- Values that may hold nodes.  One bears a text out if all these nodes are as written; a function
does if it never holds other nodes than its arguments do. -/
class Bearer (α : Type) where
  BearsOut : List Char → α → Prop

export Bearer (BearsOut)

section

variable {α β γ : Type}

instance [Forest α] : Bearer α where
  BearsOut text value := AllWritten text (nodes value)

instance [Bearer α] [Bearer β] : Bearer (α → β) where
  BearsOut text f := ∀ value, BearsOut text value → BearsOut text (f value)

/-- A function that makes a node. -/
instance originBearer [Bearer α] : Bearer (Origin → α) where
  BearsOut text make := ∀ origin : Origin, BearsOut text (make origin)

/-- Functions that hold in the end what they are given, or a node over it that has no contents of
its own. -/
class Gatherer (μ : Type) extends Bearer μ where
  Gathers : List Node → μ → Prop
  bearsOut : ∀ {text given make}, Gathers given make → AllWritten text given → BearsOut text make

export Gatherer (Gathers)

instance [Forest α] : Gatherer α where
  Gathers given value := nodes value ⊆ given
  bearsOut gathers written := written.mono gathers

instance [IsNode α] : Gatherer (Origin → α) where
  Gathers given make := ∀ origin : Origin, (toNode (make origin)).children ⊆ given ∧
    (toNode (make origin)).hasContents = false
  bearsOut gathers written origin :=
    written.over (gathers origin).1 (.of_empty (gathers origin).2)

instance [Forest α] {μ : Type} [Gatherer μ] : Gatherer (α → μ) where
  Gathers given make := ∀ value, Gathers (given ++ nodes value) (make value)
  bearsOut gathers written value bears :=
    Gatherer.bearsOut (gathers value) (allWritten_append.mpr ⟨written, bears⟩)

@[simp] theorem gathers_iff [Forest α] {given : List Node} {value : α} :
    Gathers given value ↔ nodes value ⊆ given := Iff.rfl

/-- Values of the grammar that bear every text out. -/
class Faithful (text : List Char) {α : Type} [Bearer α] (value : α) : Prop where
  bearsOut : BearsOut text value

theorem Gathers.faithful {μ : Type} [Gatherer μ] {make : μ} (gathers : Gathers [] make) :
    Faithful text make where
  bearsOut := Gatherer.bearsOut gathers .nil

/-- Types none of whose values holds nodes, functions to such types included. -/
class Memberless (μ : Type) [Bearer μ] : Prop where
  bearsOut : ∀ {text} (value : μ), BearsOut text value

instance [Plain α] : Memberless α where
  bearsOut _ := .nil

instance [Forest α] [Memberless α] : Memberless (Option α) where
  bearsOut value? := by
    cases value? with
    | none => exact .nil
    | some value => exact Memberless.bearsOut value

instance [Plain α] : Memberless (List α) where
  bearsOut values := by
    intro node listed
    simp at listed

instance [Bearer α] [Bearer β] [Memberless β] : Memberless (α → β) where
  bearsOut f value _ := Memberless.bearsOut (f value)

instance [Bearer α] [Memberless α] (value : α) : Faithful text value where
  bearsOut := Memberless.bearsOut value

instance [Forest α] : Faithful text (some : α → Option α) :=
  Gathers.faithful fun value => by simp

instance [Forest α] [Forest β] : Faithful text (fun _ => none : α → Option β) :=
  Gathers.faithful fun value => by simp

instance [Forest α] [Forest β] [Forest γ] : Faithful text (fun _ _ => none : α → β → Option γ) :=
  Gathers.faithful fun first second => by simp

instance [Forest α] [Forest β] : Faithful text (fun _ => [] : α → List β) :=
  Gathers.faithful fun value => by simp

instance [Forest α] : Faithful text (List.cons : α → List α → List α) :=
  Gathers.faithful fun head tail => by simp

instance [Forest α] : Faithful text (fun value : α => [value]) :=
  Gathers.faithful fun value => by simp

instance [Forest α] [Forest β] : Faithful text (Prod.mk : α → β → α × β) :=
  Gathers.faithful fun first second => by simp

theorem nodes_flatten [Forest α] (values : List (List α)) :
    nodes values.flatten = nodes values := by
  induction values with
  | nil => rfl
  | cons head tail inductionHypothesis => simpa using inductionHypothesis

instance [Forest α] : Faithful text (List.flatten : List (List α) → List α) :=
  Gathers.faithful fun values => by
    rw [gathers_iff, nodes_flatten]
    exact List.Subset.refl _

theorem nodes_filterMap_id [Forest α] (values : List (Option α)) :
    nodes (values.filterMap id) = nodes values := by
  induction values with
  | nil => rfl
  | cons value values inductionHypothesis =>
    cases value with
    | none => simpa using inductionHypothesis
    | some value => simpa using inductionHypothesis

instance [Forest α] : Faithful text (List.filterMap id : List (Option α) → List α) :=
  Gathers.faithful fun values => by
    rw [gathers_iff, nodes_filterMap_id]
    exact List.Subset.refl _

/-! ## Expressions of the grammar -/

variable (text) in
/-- A reading of a text whose value bears the text out. -/
def BorneReading (α : Type) [Bearer α] : Reading α := fun cursor _ value _ _ =>
  cursor.On text → BearsOut text value

variable (text) in
/-- The readings of the rules, with what their values bear out. -/
def borneRules (name : Rule) : Reading (Val name) := fun cursor last value after last' =>
  Readable rules name cursor last value after last' ∧
    BorneReading text (Val name) cursor last value after last'

/-- An expression whose values bear a text out, if those of the rules do. -/
class Honest (text : List Char) {α : Type} [Bearer α] (piece : G α) : Prop where
  borne : ∀ {cursor last value after last'},
    piece.Reads (borneRules text) cursor last value after last' →
      BorneReading text α cursor last value after last'

section

variable {piece : G α} {cursor after : Cursor} {last last' : Nat} {value : α}

theorem readable_of_borne (reads : piece.Reads (borneRules text) cursor last value after last') :
    piece.Reads (Readable rules) cursor last value after last' :=
  Reads.mono (fun _ {_ _ _ _ _} borne => borne.1) piece reads

theorem reaches_of_borne (reads : piece.Reads (borneRules text) cursor last value after last') :
    cursor.Reaches after :=
  Reads.reaches (fun _ {_ _ _ _ _} borne => borne.1.reaches) piece reads

end

instance [Bearer α] (value : α) [Faithful text value] : Honest text (Peg.pure value : G α) where
  borne := by
    rintro cursor last _ _ _ ⟨rfl, rfl, rfl⟩ on
    exact Faithful.bearsOut

instance [Bearer α] [Memberless α] (scan : Scanner α) : Honest text (Peg.token scan : G α) where
  borne := by
    rintro cursor last value _ _ ⟨count, scanned, rfl, rfl⟩ on
    exact Memberless.bearsOut value

instance (name : Rule) : Honest text (Peg.rule name : G (Val name)) where
  borne reads := reads.2

theorem Honest.seqWith [Bearer α] [Bearer β] [Bearer γ] {combine : α → β → γ} {first : G α}
    {second : G β} [Honest text first] [Honest text second]
    (combines : ∀ {value value'}, BearsOut text value → BearsOut text value' →
      BearsOut text (combine value value')) : Honest text (Peg.seqWith combine first second) where
  borne := by
    rintro cursor last _ after last' ⟨value, middle, between, value', reads, reads', rfl⟩ on
    have onMiddle := on.of_reaches (reaches_of_borne reads)
    exact combines (Honest.borne reads on) (Honest.borne reads' onMiddle)

instance [Bearer α] [Bearer β] (first : G (α → β)) (second : G α) [Honest text first]
    [Honest text second] : Honest text (first <*> second) :=
  .seqWith fun {f value} bears bears' => (bears : BearsOut text f) value bears'

instance seqLeft_honest [Bearer α] [Bearer β] (first : G α) (second : G β) [Honest text first]
    [Honest text second] : Honest text (first <* second) :=
  .seqWith fun bears _ => bears

instance [Bearer α] [Bearer β] (first : G α) (second : G β) [Honest text first]
    [Honest text second] : Honest text (first *> second) :=
  .seqWith fun _ bears => bears

/-- A piece whose value is built on, where the further building brings no other contents. -/
theorem Honest.building [Bearer α] [Bearer β] {next : α → Build β} {piece : G α}
    [Honest text piece]
    (builds : ∀ {value last built last'}, BearsOut text value →
      next value last = .ok (built, last') → BearsOut text built) :
    Honest text (Peg.building next piece) where
  borne := by
    rintro cursor last built after last' ⟨value, between, reads, succeeded⟩ on
    exact builds (Honest.borne reads on) succeeded

instance map_honest [Bearer α] [Bearer β] (f : α → β) [Faithful text f] (piece : G α)
    [Honest text piece] : Honest text (f <$> piece) := by
  refine Honest.building fun {value last built last'} bears succeeded => ?_
  obtain ⟨rfl, rfl⟩ := Build.pure_eq_ok.mp succeeded
  exact (Faithful.bearsOut : BearsOut text f) value bears

instance choice_honest [Bearer α] (first second : G α) [Honest text first] [Honest text second] :
    Honest text (first <|> second) where
  borne reads := reads.elim Honest.borne Honest.borne

instance [Forest α] (piece : G α) [honest : Honest text piece] :
    Honest text (Peg.optional piece) where
  borne := by
    rintro cursor last _ after last' (⟨value, reads, rfl⟩ | ⟨rfl, rfl, rfl⟩) on
    · exact honest.borne reads on
    · exact .nil

instance [Forest α] (piece : G α) [Honest text piece] : Honest text (Peg.many piece) where
  borne := by
    intro cursor last values after last' repeats
    induction repeats with
    | nil => exact fun _ => .nil
    | cons reads _ inductionHypothesis =>
      intro on
      have onMiddle := on.of_reaches (reaches_of_borne reads)
      exact allWritten_append.mpr ⟨Honest.borne reads on, inductionHypothesis onMiddle⟩

instance (piece : G α) : Honest text (Peg.notAhead piece) where
  borne := by
    rintro cursor last value _ _ _ _
    exact .nil

instance [Forest α] (piece : G α) [honest : Honest text piece] :
    Honest text (Peg.spanned piece) where
  borne := by
    rintro cursor last _ after last' ⟨value, reads, rfl⟩ on
    exact honest.borne reads on

instance [Forest α] (piece : G α) [honest : Honest text piece] :
    Honest text (Peg.captured piece) where
  borne := by
    rintro cursor last _ after last' ⟨value, reads, rfl⟩ on
    exact honest.borne reads on

instance [Bearer α] (piece : G (Origin → α)) [Honest text piece] : Honest text (node piece) where
  borne := by
    rintro cursor last built after last' ⟨⟨span, make⟩, between, ⟨_, reads, same⟩, succeeded⟩ on
    obtain ⟨rfl, rfl⟩ := Prod.mk.inj same
    obtain ⟨rfl, rfl⟩ := Build.node_eq_ok.mp succeeded
    exact Honest.borne reads on _

end

end DrainLint.Grammar
