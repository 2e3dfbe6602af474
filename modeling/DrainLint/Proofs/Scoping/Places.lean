import DrainLint.Proofs.Scoping.Refinement

/-! # Places

Where some code stands and what it sees there.

- `Node.Sees`: some code below a node, with what is visible to it;
- `Node.parts_append`: what a part sees stands in front of what its parent sees, or hides it all;
- `Node.answers_of_sees`: the names in the code refer to what they refer to in the whole;
- `Node.Source`, `Node.answer_source`: a name refers to a variable that is bound in the code around it
  or to one that the code sees, and what it refers to elsewhere.
-/

namespace DrainLint.Hir

open List

namespace Node

/-- Some code below a node, with what is visible to it. -/
inductive Sees (root : Node) (visible : Visible) : Visible → Node → Prop
  | root : Sees root visible visible root
  | part {seen : Visible} {node : Node} {part : Visible × Node} (sees : Sees root visible seen node)
      (isPart : part ∈ node.parts seen) : Sees root visible part.1 part.2

theorem Sees.trans {root middle node : Node} {visible seen inner : Visible}
    (upper : Sees root visible seen middle) (lower : Sees middle seen inner node) :
    Sees root visible inner node := by
  induction lower with
  | root => exact upper
  | part _ isPart inductionHypothesis => exact inductionHypothesis.part isPart

theorem Sees.mem_code {root node : Node} {visible seen : Visible}
    (sees : Sees root visible seen node) : node ∈ root.code := by
  induction sees with
  | root => exact mem_code_self root
  | part _ isPart inductionHypothesis =>
    exact mem_code_trans inductionHypothesis
      (mem_code_of_child (mem_codeChildren_of_parts isPart) (mem_code_self _))

/-- All code stands at some place. -/
theorem exists_sees {root node : Node} (visible : Visible) (inCode : node ∈ root.code) :
    ∃ seen, Sees root visible seen node := by
  rw [code_eq, ← parts_snd visible root] at inCode
  cases inCode with
  | head => exact ⟨visible, .root⟩
  | tail _ below =>
    obtain ⟨child, isChild, inside⟩ := List.mem_flatMap.mp below
    obtain ⟨part, isPart, rfl⟩ := List.mem_map.mp isChild
    have below : ∃ seen, Sees part.2 part.1 seen node := exists_sees part.1 inside
    obtain ⟨seen, sees⟩ := below
    exact ⟨seen, (Sees.root.part isPart).trans sees⟩
termination_by root.weight
decreasing_by exact weight_child_lt (mem_children_of_code (mem_codeChildren_of_parts isPart))

theorem answers_of_sees {root node : Node} {visible seen : Visible} {entry : Nat × Option Nat}
    (sees : Sees root visible seen node) (answered : entry ∈ node.answers seen) :
    entry ∈ root.answers visible := by
  induction sees with
  | root => exact answered
  | part _ isPart inductionHypothesis =>
    exact inductionHypothesis (mem_answers_iff.mpr (.inr ⟨_, isPart, answered⟩))

/-- The body of a function of a crate sees its parameters. -/
theorem sees_body {root : Crate} {origin : Origin} {name : String} {generics : List String}
    {params : List Param} {ret : Option Ty} {body : Block} {attrs : List Attribute}
    (listed : Item.fnDef origin name generics params ret (some body) attrs ∈ root.items) :
    Sees (crate root) [] (Param.bindersAll params) (expr (.block body)) := by
  have isItem : ([], item (.fnDef origin name generics params ret (some body) attrs)) ∈
      (crate root).parts [] := by
    simpa [parts, codeChildren, children_eq, fields, isCode, ← List.map_eq_flatMap] using listed
  have isBody : (Param.bindersAll params, expr (.block body)) ∈
      (item (.fnDef origin name generics params ret (some body) attrs)).parts [] :=
    List.mem_singleton.mpr rfl
  exact (Sees.root.part isItem).part isBody

/-! ## What parts see -/

/-- Some code with more that is visible behind all else. -/
def behind (visible : Visible) (part : Visible × Node) : Visible × Node := (part.1 ++ visible, part.2)

theorem stmt_parts_append (front visible : Visible) (stmts : List Stmt) :
    Stmt.parts (front ++ visible) stmts = (Stmt.parts front stmts).map (behind visible) := by
  induction stmts generalizing front with
  | nil => rfl
  | cons first rest inductionHypothesis =>
    rw [Stmt.parts, Stmt.parts, List.map_cons, ← List.append_assoc, inductionHypothesis]
    rfl

/-- What a node that is no item shows to its parts stands in front of what it sees itself. -/
theorem parts_append {node : Node} (other : node.isItem = false) (visible : Visible) :
    node.parts visible = (node.parts []).map (behind visible) := by
  have stmts := stmt_parts_append [] visible
  rw [List.nil_append] at stmts
  unfold parts
  split
  case h_7 | h_8 => cases other
  all_goals simp [stmts, behind]

/-- What a part sees is its own, with what its parent sees behind it unless that is an item; and so
wherever the parent stands. -/
theorem exists_own_of_parts {node : Node} {visible : Visible} {part : Visible × Node}
    (isPart : part ∈ node.parts visible) : ∃ own, (own, part.2) ∈ node.parts [] ∧
      (part.1 = own ∧ (∀ after, (own, part.2) ∈ node.parts after) ∨
        part.1 = own ++ visible ∧ ∀ after, (own ++ after, part.2) ∈ node.parts after) := by
  cases other : node.isItem with
  | true =>
    cases node with
    | item declared =>
      rw [parts_item] at isPart
      exact ⟨part.1, isPart, .inl ⟨rfl, fun after => parts_item after declared ▸ isPart⟩⟩
    | _ => cases other
  | false =>
    rw [parts_append other] at isPart
    obtain ⟨own, isOwn, rfl⟩ := List.mem_map.mp isPart
    refine ⟨own.1, isOwn, .inr ⟨rfl, fun after => ?_⟩⟩
    rw [parts_append other]
    exact List.mem_map_of_mem isOwn

/-! ## Where names lead -/

/-- A variable that a pattern below a node binds. -/
def BindsBelow (node : Node) (entry : String × Nat) : Prop :=
  ∃ binder ∈ node.walk, binder.binds? = some entry

theorem mem_walk_of_within {root node : Node} (inside : node ∈ root.within) : node ∈ root.walk := by
  rcases mem_within_iff.mp inside with rfl | ⟨child, isChild, _, below⟩
  · exact mem_walk_self _
  · exact mem_walk_of_child isChild (mem_walk_of_within below)
termination_by root.weight
decreasing_by exact weight_child_lt isChild

theorem BindsWithin.below {node : Node} {entry : String × Nat} (binds : BindsWithin node entry) :
    BindsBelow node entry := by
  obtain ⟨binder, inside, bound⟩ := binds
  exact ⟨binder, mem_walk_of_within inside, bound⟩

theorem BindsBelow.up {node child : Node} {entry : String × Nat} (binds : BindsBelow child entry)
    (isChild : child ∈ node.children) : BindsBelow node entry := by
  obtain ⟨binder, inside, bound⟩ := binds
  exact ⟨binder, mem_walk_of_child isChild inside, bound⟩

/-- What a part sees of its own is bound by the node around it. -/
theorem bindsBelow_of_own {node : Node} {own : Visible × Node} {entry : String × Nat}
    (isPart : own ∈ node.parts []) (member : entry ∈ own.1) : BindsBelow node entry := by
  rcases visible_or_bindsWithin isPart member with ⟨_, none⟩ | binds
  · cases none
  · exact binds.below

/-- Where the answer to a name in some code comes from: from a variable bound in the code, and then it
is the answer wherever the code stands, or from what the code sees, and then it is always what has the
name there. -/
inductive Source (visible : Visible) (node : Node) (id binding : Nat) (name : String) : Prop
  | inner (bound : BindsBelow node (name, binding))
      (stays : ∀ after, (id, some binding) ∈ node.answers after)
  | outer (seen : visible.lookup name = some binding)
      (follows : ∀ after added, after.lookup name = some added →
        (id, some added) ∈ node.answers after)

theorem Source.bound_or_seen {visible : Visible} {node : Node} {id binding : Nat} {name : String}
    (source : Source visible node id binding name) :
    BindsBelow node (name, binding) ∨ visible.lookup name = some binding := by
  cases source with
  | inner bound => exact .inl bound
  | outer seen => exact .inr seen

/-- A source in a part is one in the node around it. -/
theorem Source.up {visible : Visible} {node : Node} {part : Visible × Node} {id binding : Nat}
    {name : String} (source : Source part.1 part.2 id binding name)
    (isPart : part ∈ node.parts visible) : Source visible node id binding name := by
  have isChild := mem_children_of_code (mem_codeChildren_of_parts isPart)
  have answered : ∀ {seen after entry}, (seen, part.2) ∈ node.parts after →
      entry ∈ part.2.answers seen → entry ∈ node.answers after :=
    fun isPart inside => mem_answers_iff.mpr (.inr ⟨_, isPart, inside⟩)
  obtain ⟨own, isOwn, ⟨same, elsewhere⟩ | ⟨same, elsewhere⟩⟩ := exists_own_of_parts isPart
  all_goals rw [same] at source
  · cases source with
    | inner bound stays =>
      exact .inner (bound.up isChild) fun after => answered (elsewhere after) (stays own)
    | outer seen follows =>
      exact .inner (bindsBelow_of_own isOwn (mem_of_lookup seen)) fun after =>
        answered (elsewhere after) (follows own binding seen)
  · cases source with
    | inner bound stays =>
      exact .inner (bound.up isChild) fun after => answered (elsewhere after) (stays (own ++ after))
    | outer seen follows =>
      -- What the part binds itself is found before anything behind it.
      cases isOuter : own.lookup name with
      | some inner =>
        have found : ∀ after, (own ++ after).lookup name = some inner := fun after => by
          rw [List.lookup_append, isOuter, Option.some_or]
        obtain rfl := Option.some.inj ((found visible).symm.trans seen)
        exact .inner (bindsBelow_of_own isOwn (mem_of_lookup isOuter)) fun after =>
          answered (elsewhere after) (follows _ _ (found after))
      | none =>
        have behind : ∀ after, (own ++ after).lookup name = after.lookup name := fun after => by
          rw [List.lookup_append, isOuter, Option.none_or]
        exact .outer ((behind visible).symm.trans seen) fun after added found =>
          answered (elsewhere after) (follows _ _ ((behind after).trans found))

/-- A name that refers to a variable refers to one bound in the code around it, or to one that the
code sees. -/
theorem answer_source {visible : Visible} {node : Node} {id binding : Nat}
    (answered : (id, some binding) ∈ node.answers visible) :
    ∃ origin name genericArgs, expr (.path origin [name] genericArgs) ∈ node.code ∧
      origin.id = id ∧ Source visible node id binding name := by
  rcases mem_answers_iff.mp answered with own | ⟨part, isPart, inside⟩
  · unfold answer? at own
    split at own
    · next origin name genericArgs =>
      rw [Option.some.injEq, Prod.mk.injEq] at own
      refine ⟨origin, name, genericArgs, mem_code_self _, own.1, .outer own.2 ?_⟩
      intro after added found
      exact mem_answers_iff.mpr (.inl (by rw [answer?, own.1, found]))
    · cases own
  · have isChild := mem_codeChildren_of_parts isPart
    have below := answer_source inside
    obtain ⟨origin, name, genericArgs, inCode, isId, source⟩ := below
    exact ⟨origin, name, genericArgs, mem_code_of_child isChild inCode, isId, source.up isPart⟩
termination_by node.weight
decreasing_by exact weight_child_lt (mem_children_of_code isChild)

/-- Names that refer to variables go on doing so where all that was visible still is. -/
theorem answers_mono {before after : Visible} {node : Node} {id binding : Nat}
    (kept : ∀ name binding, before.lookup name = some binding → after.lookup name = some binding)
    (answered : (id, some binding) ∈ node.answers before) :
    (id, some binding) ∈ node.answers after := by
  obtain ⟨_, name, _, _, _, source⟩ := answer_source answered
  cases source with
  | inner _ stays => exact stays after
  | outer seen follows => exact follows after binding (kept name binding seen)

end Node
end DrainLint.Hir

namespace DrainLint.Typing

open Hir

/-! ## Bindings at a place -/

section

variable {crate : Crate} {origin : Origin} {name : String} {genericArgs : List Ty} {binding : Nat}

/-- A name that has a binding is code. -/
theorem mem_code_of_binding (distinct : (crate.walk.map Node.id).Nodup)
    (listed : Node.expr (.path origin [name] genericArgs) ∈ crate.walk)
    (resolves : (inferCrate crate).tables.resolver.binding origin.id = some binding) :
    Node.expr (.path origin [name] genericArgs) ∈ (Node.crate crate).code := by
  have noted := (inferCrate_bindings crate).mem_iff.mp (mem_of_lookup resolves)
  obtain ⟨⟨id, _ | answer⟩, answered, same⟩ := List.mem_filterMap.mp noted
  · cases same
  · cases same
    obtain ⟨_, _, _, inCode, sameId, _⟩ := Node.answer_source answered
    cases List.inj_on_of_nodup_map distinct ((Node.code_sublist _).subset inCode) listed sameId
    exact inCode

/-- A name below some code refers to a variable that is bound there, or to one that the code
sees. -/
theorem binding_source (distinct : (crate.walk.map Node.id).Nodup) {visible : Visible} {node : Node}
    (sees : Node.Sees (.crate crate) [] visible node)
    (inside : Node.expr (.path origin [name] genericArgs) ∈ node.walk)
    (resolves : (inferCrate crate).tables.resolver.binding origin.id = some binding) :
    Node.Source visible node origin.id binding name := by
  have inWalk := (Node.code_sublist _).subset sees.mem_code
  have listed := Node.mem_walk_trans inWalk inside
  obtain ⟨_, inCode⟩ := Node.mem_code_split distinct inWalk inside
    (mem_code_of_binding distinct listed resolves)
  have visited : ∃ answer, (origin.id, answer) ∈ node.answers visible :=
    Node.mem_answers_of_code inCode
  obtain ⟨answer, answered⟩ := visited
  have isBinding := binding_of_answer distinct (Node.answers_of_sees sees answered)
  rw [resolves] at isBinding
  subst isBinding
  obtain ⟨_, _, _, inCode', sameId, source⟩ := Node.answer_source answered
  have listed' := Node.mem_walk_trans inWalk ((Node.code_sublist _).subset inCode')
  cases List.inj_on_of_nodup_map distinct listed' listed sameId
  exact source

end

end DrainLint.Typing
