import DrainLint.Hir.SameCode

/-! # Being the same code is an equivalence

With effects allowed, "the same code" is reflexive, symmetric and transitive on everything that a
field can hold, whatever the resolver knows.

- `FieldInduction`: what a property of nodes and of fields needs to hold of all of them;
- `sameNode_iff`: two nodes are the same code where their classes and identities agree and, if they
  have no identity, their fields are the same code;
- `sameValue_node_iff`, `sameValue_list_iff`, …: what a field must be to be the same code as another;
- `sameValue_equivalence`: the three laws together.
-/

namespace DrainLint.Hir

/-! ## Induction over fields -/

/-- Whether a field holds neither a node nor a list. -/
def Value.isPlain : Value → Bool
  | .node _ | .list _ => false
  | _ => true

/-- The steps of an induction over nodes, their fields and lists of fields. -/
structure FieldInduction (onNode : Node → Prop) (onValue : Value → Prop)
    (onValues : List Value → Prop) : Prop where
  node : ∀ node : Node, onValues (node.fields.map Prod.snd) → onNode node
  ofNode : ∀ node, onNode node → onValue (.node node)
  ofList : ∀ values, onValues values → onValue (.list values)
  plain : ∀ value : Value, value.isPlain = true → onValue value
  nil : onValues []
  cons : ∀ value values, onValue value → onValues values → onValues (value :: values)

namespace FieldInduction

variable {onNode : Node → Prop} {onValue : Value → Prop} {onValues : List Value → Prop}

mutual

theorem toNode (steps : FieldInduction onNode onValue onValues) (node : Node) : onNode node :=
  steps.node node (steps.toValues (node.fields.map Prod.snd))
termination_by (node.weight, 0)
decreasing_by exact Prod.Lex.left _ _ node.fields_weight_lt

theorem toValue (steps : FieldInduction onNode onValue onValues) (value : Value) :
    onValue value := by
  cases value with
  | node node => exact steps.ofNode node (steps.toNode node)
  | list values => exact steps.ofList values (steps.toValues values)
  | absent | text | flag | literal | symbol | span | attr => exact steps.plain _ rfl
termination_by (value.weight, sizeOf value)
decreasing_by
  · exact Node.lex_of_le (by simp) (by simp +arith)
  · exact Node.lex_of_le (by simp) (by simp)

theorem toValues (steps : FieldInduction onNode onValue onValues) (values : List Value) :
    onValues values := by
  cases values with
  | nil => exact steps.nil
  | cons value values =>
    exact steps.cons value values (steps.toValue value) (steps.toValues values)
termination_by (Value.weightAll values, sizeOf values)
decreasing_by
  · exact Node.lex_of_le (by simp) (by simp +arith)
  · exact Node.lex_of_le (by simp) (by simp +arith)

end

end FieldInduction

namespace Comparison

section

variable (comparison : Comparison)

/-! ## Inversion -/

/-- The bound and the unbound paths never meet here: a path that is bound has an identity and one
that is not has none, so the identities decide before any segment is looked at. -/
theorem sameNode_iff {comparison : Comparison} (effects : comparison.allowsEffects = true)
    (left right : Node) :
    comparison.sameNode left right = true ↔
      left.className = right.className ∧
        comparison.identity? left = comparison.identity? right ∧
          (comparison.identity? left = none →
            comparison.sameValues (left.fields.map Prod.snd) (right.fields.map Prod.snd) = true) := by
  rw [sameNode]
  by_cases classes : left.className = right.className
  · cases leftIdentity : comparison.identity? left with
    | none =>
      cases rightIdentity : comparison.identity? right with
      | none => simp [classes, effects]
      | some identity => simp [classes, effects]
    | some identity =>
      cases rightIdentity : comparison.identity? right with
      | none => simp [classes, effects]
      | some other => simp [classes, effects]
  · simp [classes]

@[simp] theorem sameValue_absent_iff (right : Value) :
    comparison.sameValue .absent right = true ↔ right = .absent := by
  cases right <;> simp [sameValue]

@[simp] theorem sameValue_node_iff (left : Node) (right : Value) :
    comparison.sameValue (.node left) right = true ↔
      ∃ node, right = .node node ∧ comparison.sameNode left node = true := by
  cases right <;> simp [sameValue]

@[simp] theorem sameValue_list_iff (left : List Value) (right : Value) :
    comparison.sameValue (.list left) right = true ↔
      ∃ values, right = .list values ∧ comparison.sameValues left values = true := by
  cases right <;> simp [sameValue]

@[simp] theorem sameValue_text_iff (left : String) (right : Value) :
    comparison.sameValue (.text left) right = true ↔ right = .text left := by
  cases right <;> simp [sameValue, eq_comm (a := left)]

@[simp] theorem sameValue_flag_iff (left : Bool) (right : Value) :
    comparison.sameValue (.flag left) right = true ↔ right = .flag left := by
  cases right <;> simp [sameValue, eq_comm (a := left)]

@[simp] theorem sameValue_literal_iff (left : Literal) (right : Value) :
    comparison.sameValue (.literal left) right = true ↔ right = .literal left := by
  cases right <;> simp [sameValue, eq_comm (a := left)]

@[simp] theorem sameValue_symbol_iff (left : String) (right : Value) :
    comparison.sameValue (.symbol left) right = true ↔ right = .symbol left := by
  cases right <;> simp [sameValue, eq_comm (a := left)]

@[simp] theorem sameValue_attr_iff (left : Attribute) (right : Value) :
    comparison.sameValue (.attr left) right = true ↔ right = .attr left := by
  cases right <;> simp [sameValue, eq_comm (a := left)]

@[simp] theorem sameValue_span_iff (left : Span) (right : Value) :
    comparison.sameValue (.span left) right = true ↔ ∃ span, right = .span span := by
  cases right <;> simp [sameValue]

@[simp] theorem sameValues_nil_iff (right : List Value) :
    comparison.sameValues [] right = true ↔ right = [] := by
  cases right <;> simp [sameValues]

@[simp] theorem sameValues_cons_iff (left : Value) (lefts right : List Value) :
    comparison.sameValues (left :: lefts) right = true ↔
      ∃ value values, right = value :: values ∧ comparison.sameValue left value = true ∧
        comparison.sameValues lefts values = true := by
  cases right with
  | nil => simp [sameValues]
  | cons right rights =>
    rw [sameValues, Bool.and_eq_true]
    constructor
    · rintro ⟨head, tail⟩
      exact ⟨right, rights, rfl, head, tail⟩
    · rintro ⟨value, values, equal, head, tail⟩
      cases equal
      exact ⟨head, tail⟩

end

/-! ## The three laws -/

variable {comparison : Comparison}

theorem same_refl (effects : comparison.allowsEffects = true) :
    FieldInduction (fun node => comparison.sameNode node node = true)
      (fun value => comparison.sameValue value value = true)
      (fun values => comparison.sameValues values values = true) where
  node node fields := (sameNode_iff effects node node).2 ⟨rfl, rfl, fun _ => fields⟩
  ofNode node same := (sameValue_node_iff ..).2 ⟨node, rfl, same⟩
  ofList values same := (sameValue_list_iff ..).2 ⟨values, rfl, same⟩
  plain value isPlain := by cases value <;> simp_all [Value.isPlain]
  nil := (sameValues_nil_iff ..).2 rfl
  cons value values head tail := (sameValues_cons_iff ..).2 ⟨value, values, rfl, head, tail⟩

theorem same_symm (effects : comparison.allowsEffects = true) :
    FieldInduction
      (fun left => ∀ right, comparison.sameNode left right = true →
        comparison.sameNode right left = true)
      (fun left => ∀ right, comparison.sameValue left right = true →
        comparison.sameValue right left = true)
      (fun lefts => ∀ rights, comparison.sameValues lefts rights = true →
        comparison.sameValues rights lefts = true) where
  node left fields right same := by
    rw [sameNode_iff effects] at same ⊢
    obtain ⟨classes, identities, sameFields⟩ := same
    exact ⟨classes.symm, identities.symm,
      fun unnamed => fields _ (sameFields (identities.trans unnamed))⟩
  ofNode left symm right same := by
    obtain ⟨node, rfl, nodes⟩ := (sameValue_node_iff ..).1 same
    exact (sameValue_node_iff ..).2 ⟨left, rfl, symm node nodes⟩
  ofList lefts symm right same := by
    obtain ⟨rights, rfl, values⟩ := (sameValue_list_iff ..).1 same
    exact (sameValue_list_iff ..).2 ⟨lefts, rfl, symm rights values⟩
  plain left isPlain right same := by
    cases left <;> simp [Value.isPlain] at isPlain same
    case span => obtain ⟨span, rfl⟩ := same; simp
    all_goals simp [same]
  nil rights same := by
    cases (sameValues_nil_iff ..).1 same
    exact same
  cons left lefts symmHead symmTail rights same := by
    obtain ⟨right, rest, rfl, head, tail⟩ := (sameValues_cons_iff ..).1 same
    exact (sameValues_cons_iff ..).2 ⟨left, lefts, rfl, symmHead right head, symmTail rest tail⟩

theorem same_trans (effects : comparison.allowsEffects = true) :
    FieldInduction
      (fun left => ∀ middle right, comparison.sameNode left middle = true →
        comparison.sameNode middle right = true → comparison.sameNode left right = true)
      (fun left => ∀ middle right, comparison.sameValue left middle = true →
        comparison.sameValue middle right = true → comparison.sameValue left right = true)
      (fun lefts => ∀ middles rights, comparison.sameValues lefts middles = true →
        comparison.sameValues middles rights = true →
          comparison.sameValues lefts rights = true) where
  node left fields middle right first second := by
    rw [sameNode_iff effects] at first second ⊢
    obtain ⟨firstClasses, firstIdentities, firstFields⟩ := first
    obtain ⟨secondClasses, secondIdentities, secondFields⟩ := second
    refine ⟨firstClasses.trans secondClasses, firstIdentities.trans secondIdentities, ?_⟩
    intro unnamed
    exact fields _ _ (firstFields unnamed) (secondFields (firstIdentities.symm.trans unnamed))
  ofNode left trans middle right first second := by
    obtain ⟨middleNode, rfl, firstNodes⟩ := (sameValue_node_iff ..).1 first
    obtain ⟨rightNode, rfl, secondNodes⟩ := (sameValue_node_iff ..).1 second
    exact (sameValue_node_iff ..).2 ⟨rightNode, rfl, trans _ _ firstNodes secondNodes⟩
  ofList lefts trans middle right first second := by
    obtain ⟨middles, rfl, firstValues⟩ := (sameValue_list_iff ..).1 first
    obtain ⟨rights, rfl, secondValues⟩ := (sameValue_list_iff ..).1 second
    exact (sameValue_list_iff ..).2 ⟨rights, rfl, trans _ _ firstValues secondValues⟩
  plain left isPlain middle right first second := by
    cases left <;> simp [Value.isPlain] at isPlain first
    case span => obtain ⟨span, rfl⟩ := first; simpa using second
    all_goals simpa [first] using second
  nil middles rights first second := by
    cases (sameValues_nil_iff ..).1 first
    exact second
  cons left lefts transHead transTail middles rights first second := by
    obtain ⟨middle, restMiddles, rfl, firstHead, firstTail⟩ := (sameValues_cons_iff ..).1 first
    obtain ⟨right, restRights, rfl, secondHead, secondTail⟩ := (sameValues_cons_iff ..).1 second
    exact (sameValues_cons_iff ..).2 ⟨right, restRights, rfl,
      transHead _ _ firstHead secondHead, transTail _ _ firstTail secondTail⟩

/-- Whatever the resolver knows, or without one, being the same code is an equivalence of
expressions, patterns, types, statements, blocks, lists of them and missing ones. -/
theorem sameValue_equivalence (resolver? : Option Resolver) :
    Equivalence fun left right : Value =>
      sameValue { resolver? := resolver?, allowsEffects := true } left right = true where
  refl := (same_refl rfl).toValue
  symm {left right} := (same_symm rfl).toValue left right
  trans {left middle right} := (same_trans rfl).toValue left middle right

end Comparison
end DrainLint.Hir
