import DrainLint.Proofs.SameCode.Equivalence

/-! # The same code without effects

Where effects are refused, two values are the same code exactly if they are with effects allowed and
nothing that is compared has one.

- `compared`, `comparedPart`: the nodes that a comparison comes to, which are neither those inside an
  item nor the generic arguments of a path that is bound;
- `sameNode_refusing_iff`: what a node must be to be the same code as another, effects refused;
- `refusing_iff_of`: the induction over fields that takes the effects out of the comparison;
- `pure_of_same`: what is the same code as something without effects has none;
- `RefusesEffects`, `refusesEffects`: what refusing effects comes to.
-/

namespace DrainLint.Hir.Comparison

/-- The comparison of the same names that refuses effects. -/
def refusing (resolver? : Option Resolver) : Comparison :=
  { resolver? := resolver?, allowsEffects := false }

/-- The comparison of the same names that allows effects. -/
def allowing (resolver? : Option Resolver) : Comparison :=
  { resolver? := resolver?, allowsEffects := true }

/-! ## The part that is compared -/

section

variable (comparison : Comparison)

/-- The children of a node that are compared.  An item is told by its number and a bound path by its
binding, whatever else there is to them. -/
def comparedChildren (node : Node) : List Node :=
  match node with
  | .item _ => []
  | .expr (.path origin _ _) =>
    if (comparison.binding? origin.id).isSome then [] else node.children
  | _ => node.children

theorem mem_children_of_compared {node child : Node}
    (member : child ∈ comparison.comparedChildren node) : child ∈ node.children := by
  rw [comparedChildren.eq_def] at member
  split at member
  · cases member
  · split at member
    · cases member
    · exact member
  · exact member

/-- A node and what is compared below it. -/
def compared (node : Node) : List Node :=
  node :: (comparison.comparedChildren node).attach.flatMap fun ⟨child, _⟩ => compared child
termination_by node.weight
decreasing_by exact Node.weight_child_lt (mem_children_of_compared _ (by assumption))

/-- The part of a value that is compared: the nodes in it and what is compared below them. -/
def comparedPart (value : Value) : List Node := value.nodes.flatMap comparison.compared

/-- That nothing compared in some nodes has an effect. -/
def PureIn (nodes : List Node) : Prop :=
  ∀ node ∈ nodes.flatMap comparison.compared, hasEffect node = false

theorem compared_eq (node : Node) :
    comparison.compared node =
      node :: (comparison.comparedChildren node).flatMap comparison.compared := by
  rw [compared]
  simp [List.flatMap]

@[simp] theorem pureIn_nil : comparison.PureIn [] := fun _ member => by cases member

@[simp] theorem pureIn_append_iff (first second : List Node) :
    comparison.PureIn (first ++ second) ↔
      comparison.PureIn first ∧ comparison.PureIn second := by
  rw [PureIn, List.flatMap_append, List.forall_mem_append]
  rfl

theorem pureIn_singleton_iff (node : Node) :
    comparison.PureIn [node] ↔
      hasEffect node = false ∧ comparison.PureIn (comparison.comparedChildren node) := by
  rw [PureIn, List.flatMap_singleton, compared_eq, List.forall_mem_cons]
  rfl

theorem pureIn_item (item : Item) : comparison.PureIn [.item item] :=
  (pureIn_singleton_iff ..).2 ⟨rfl, comparison.pureIn_nil⟩

/-- What has no identity is compared in all its children. -/
theorem comparedChildren_of_unnamed {node : Node} (unnamed : comparison.identity? node = none) :
    comparison.comparedChildren node = node.children := by
  rw [comparedChildren.eq_def]
  split
  · cases unnamed
  · rename_i origin segments genericArgs
    rw [identity?, Option.map_eq_none_iff] at unnamed
    rw [unnamed]
    rfl
  · rfl

/-- What has an identity is compared in no child that could have an effect: a literal has none, and that
of a declaration is the item. -/
theorem pureIn_of_named {node : Node} {identity : Identity}
    (named : comparison.identity? node = some identity) :
    hasEffect node = false ∧ comparison.PureIn (comparison.comparedChildren node) := by
  rw [identity?.eq_def] at named
  -- In turn: a literal, a path that is bound, a declaration in a body, an item.
  split at named
  · refine ⟨rfl, ?_⟩
    simp [comparedChildren, Node.children, Node.fields, Value.nodesAll, Value.nodes]
  · rename_i origin segments genericArgs
    obtain ⟨binding, isBound, -⟩ := Option.map_eq_some_iff.mp named
    refine ⟨rfl, ?_⟩
    rw [comparedChildren, isBound]
    exact comparison.pureIn_nil
  · rename_i origin item
    refine ⟨rfl, ?_⟩
    have held : comparison.comparedChildren (.stmt (.item origin item)) = [.item item] := by
      simp [comparedChildren, Node.children, Node.fields, Value.nodesAll, Value.nodes, Value.ofItem]
    rw [held]
    exact comparison.pureIn_item item
  · exact ⟨rfl, comparison.pureIn_nil⟩
  · cases named

end

/-! ## Comparing without effects -/

variable {resolver? : Option Resolver}

/-- Whether a node has an effect shows in its class. -/
theorem hasEffect_eq (node : Node) :
    hasEffect node =
      ["Call", "MethodCall", "MacroCall", "Assign"].contains node.className := by
  cases node with
  | expr e => cases e <;> rfl
  | ty t => cases t <;> rfl
  | pat p => cases p <;> rfl
  | stmt s => cases s <;> rfl
  | item i => cases i <;> rfl
  | arm a => cases a; rfl
  | param p => cases p; rfl
  | fieldDef f => cases f; rfl
  | crate c => rfl

theorem sameNode_refusing_iff (left right : Node) :
    (refusing resolver?).sameNode left right = true ↔
      hasEffect left = false ∧ left.className = right.className ∧
        (refusing resolver?).identity? left = (refusing resolver?).identity? right ∧
          ((refusing resolver?).identity? left = none →
            (refusing resolver?).sameValues (left.fields.map Prod.snd)
              (right.fields.map Prod.snd) = true) := by
  have refused : (refusing resolver?).allowsEffects = false := rfl
  rw [sameNode]
  by_cases classes : left.className = right.className
  · cases effect : hasEffect left with
    | true => simp [classes, refused]
    | false =>
      cases leftIdentity : (refusing resolver?).identity? left <;>
        cases rightIdentity : (refusing resolver?).identity? right <;>
        simp [classes, refused]
  · simp [classes]

/-- The identities do not ask whether effects are allowed. -/
theorem identity_allowing (node : Node) :
    (refusing resolver?).identity? node = (allowing resolver?).identity? node := rfl

variable (resolver?) in
/-- Effects come out of the comparison field by field. -/
theorem refusing_iff_of :
    FieldInduction
      (fun left => ∀ right, (refusing resolver?).sameNode left right = true ↔
        (allowing resolver?).sameNode left right = true ∧ (allowing resolver?).PureIn [left])
      (fun left => ∀ right, (refusing resolver?).sameValue left right = true ↔
        (allowing resolver?).sameValue left right = true ∧
          (allowing resolver?).PureIn left.nodes)
      (fun lefts => ∀ rights, (refusing resolver?).sameValues lefts rights = true ↔
        (allowing resolver?).sameValues lefts rights = true ∧
          (allowing resolver?).PureIn (Value.nodesAll lefts)) where
  node left fields right := by
    rw [sameNode_refusing_iff, sameNode_iff rfl, pureIn_singleton_iff]
    simp only [identity_allowing]
    cases identity : (allowing resolver?).identity? left with
    | none =>
      rw [comparedChildren_of_unnamed _ identity, Node.children]
      have same := fields (right.fields.map Prod.snd)
      constructor
      · rintro ⟨noEffect, classes, identities, refused⟩
        obtain ⟨allowed, pure⟩ := same.1 (refused rfl)
        exact ⟨⟨classes, identities, fun _ => allowed⟩, noEffect, pure⟩
      · rintro ⟨⟨classes, identities, allowed⟩, noEffect, pure⟩
        exact ⟨noEffect, classes, identities, fun _ => same.2 ⟨allowed rfl, pure⟩⟩
    | some name =>
      -- A node with an identity has no effect, and nothing in it is compared that could have one.
      obtain ⟨noEffect, pure⟩ := pureIn_of_named _ identity
      simp [noEffect, pure]
  ofNode left same right := by
    rw [sameValue_node_iff, sameValue_node_iff, Value.nodes]
    constructor
    · rintro ⟨node, rfl, nodes⟩
      obtain ⟨allowed, pure⟩ := (same node).1 nodes
      exact ⟨⟨node, rfl, allowed⟩, pure⟩
    · rintro ⟨⟨node, rfl, allowed⟩, pure⟩
      exact ⟨node, rfl, (same node).2 ⟨allowed, pure⟩⟩
  ofList lefts same right := by
    rw [sameValue_list_iff, sameValue_list_iff, Value.nodes]
    constructor
    · rintro ⟨rights, rfl, values⟩
      obtain ⟨allowed, pure⟩ := (same rights).1 values
      exact ⟨⟨rights, rfl, allowed⟩, pure⟩
    · rintro ⟨⟨rights, rfl, allowed⟩, pure⟩
      exact ⟨rights, rfl, (same rights).2 ⟨allowed, pure⟩⟩
  plain left isPlain right := by
    cases left <;> simp_all [Value.isPlain, Value.nodes]
  nil rights := by
    simp [Value.nodesAll]
  cons left lefts sameHead sameTail rights := by
    rw [sameValues_cons_iff, sameValues_cons_iff, Value.nodesAll, pureIn_append_iff]
    constructor
    · rintro ⟨right, rest, rfl, head, tail⟩
      obtain ⟨allowedHead, pureHead⟩ := (sameHead right).1 head
      obtain ⟨allowedTail, pureTail⟩ := (sameTail rest).1 tail
      exact ⟨⟨right, rest, rfl, allowedHead, allowedTail⟩, pureHead, pureTail⟩
    · rintro ⟨⟨right, rest, rfl, allowedHead, allowedTail⟩, pureHead, pureTail⟩
      exact ⟨right, rest, rfl, (sameHead right).2 ⟨allowedHead, pureHead⟩,
        (sameTail rest).2 ⟨allowedTail, pureTail⟩⟩

/-- What is the same code as something without effects has none. -/
theorem pure_of_same :
    FieldInduction
      (fun left => ∀ right, (allowing resolver?).sameNode left right = true →
        (allowing resolver?).PureIn [left] → (allowing resolver?).PureIn [right])
      (fun left => ∀ right, (allowing resolver?).sameValue left right = true →
        (allowing resolver?).PureIn left.nodes → (allowing resolver?).PureIn right.nodes)
      (fun lefts => ∀ rights, (allowing resolver?).sameValues lefts rights = true →
        (allowing resolver?).PureIn (Value.nodesAll lefts) →
          (allowing resolver?).PureIn (Value.nodesAll rights)) where
  node left fields right same pure := by
    obtain ⟨classes, identities, sameFields⟩ := (sameNode_iff rfl ..).1 same
    obtain ⟨noEffect, pureBelow⟩ := (pureIn_singleton_iff ..).1 pure
    rw [pureIn_singleton_iff]
    cases identity : (allowing resolver?).identity? left with
    | none =>
      rw [comparedChildren_of_unnamed _ identity] at pureBelow
      rw [comparedChildren_of_unnamed _ (identities.symm.trans identity)]
      refine ⟨?_, fields _ (sameFields identity) pureBelow⟩
      -- The other node is of the same class, and the class tells the effect.
      rwa [hasEffect_eq, ← classes, ← hasEffect_eq]
    | some name => exact pureIn_of_named _ (identities.symm.trans identity)
  ofNode left keeps right same pure := by
    obtain ⟨node, rfl, nodes⟩ := (sameValue_node_iff ..).1 same
    rw [Value.nodes] at pure ⊢
    exact keeps node nodes pure
  ofList lefts keeps right same pure := by
    obtain ⟨rights, rfl, values⟩ := (sameValue_list_iff ..).1 same
    rw [Value.nodes] at pure ⊢
    exact keeps rights values pure
  plain left isPlain right same pure := by
    cases left <;> simp [Value.isPlain] at isPlain same
    case span => obtain ⟨span, rfl⟩ := same; simp [Value.nodes]
    all_goals simp [same, Value.nodes]
  nil rights same pure := by
    cases (sameValues_nil_iff ..).1 same
    exact pure
  cons left lefts keepsHead keepsTail rights same pure := by
    obtain ⟨right, rest, rfl, head, tail⟩ := (sameValues_cons_iff ..).1 same
    rw [Value.nodesAll, pureIn_append_iff] at pure ⊢
    exact ⟨keepsHead right head pure.1, keepsTail rest tail pure.2⟩

/-! ## What refusing effects comes to -/

/-- The comparison that refuses effects, told by the one that allows them. -/
structure RefusesEffects (resolver? : Option Resolver) : Prop where
  exactly : ∀ left right : Value, (refusing resolver?).sameValue left right = true ↔
    (allowing resolver?).sameValue left right = true ∧
      ∀ node ∈ (allowing resolver?).comparedPart left, hasEffect node = false
  contained : ∀ left right : Value, (refusing resolver?).sameValue left right = true →
    (allowing resolver?).sameValue left right = true
  symm : ∀ left right : Value, (refusing resolver?).sameValue left right = true →
    (refusing resolver?).sameValue right left = true
  trans : ∀ left middle right : Value, (refusing resolver?).sameValue left middle = true →
    (refusing resolver?).sameValue middle right = true →
      (refusing resolver?).sameValue left right = true

/-- Whatever the resolver knows, refusing effects is being the same code and having no effect in what is
compared. -/
theorem refusesEffects (resolver? : Option Resolver) : RefusesEffects resolver? := by
  have exactly := (refusing_iff_of resolver?).toValue
  refine ⟨exactly, fun left right same => ((exactly left right).1 same).1, ?_, ?_⟩
  · intro left right same
    obtain ⟨allowed, pure⟩ := (exactly left right).1 same
    exact (exactly right left).2
      ⟨(same_symm rfl).toValue left right allowed, pure_of_same.toValue left right allowed pure⟩
  · intro left middle right first second
    obtain ⟨allowedFirst, pure⟩ := (exactly left middle).1 first
    obtain ⟨allowedSecond, -⟩ := (exactly middle right).1 second
    exact (exactly left right).2
      ⟨(same_trans rfl).toValue left middle right allowedFirst allowedSecond, pure⟩

end DrainLint.Hir.Comparison
