import DrainLint.Keyed
import DrainLint.Proofs.Tree.Code

/-! # Lexical scoping

What the names in a crate refer to, told by the place where they stand: what is visible is handed
down the tree, and nothing is ever taken back.

- `Visible`: the variables that are visible at a place;
- `Pat.binders`, `Stmt.binders`, `Expr.binders`: the variables that patterns, statements and
  conditions bind;
- `Node.parts`: the code in a node, each part with what is visible there;
- `Node.answers`: what the names in some code refer to;
- `mem_answers_of_code`: every name in the code has an answer;
- `sameBody_of_answers`: a name refers to a variable of that name in the same body.
-/

namespace DrainLint.Hir

open List

/-- The variables that are visible at a place, the innermost first: their names and the numbers of
the patterns that bind them. -/
abbrev Visible := List (String × Nat)

/-! ## What binds variables -/

mutual

/-- The variables that a pattern binds, the last first. -/
def Pat.binders : Pat → Visible
  | .binding origin name _ _ none => [(name, origin.id)]
  | .binding origin name _ _ (some sub) => sub.binders ++ [(name, origin.id)]
  | .ref _ _ inner => inner.binders
  | .tuple _ elems | .tupleStruct _ _ elems | .slice _ elems => Pat.bindersAll elems
  | .or _ alts => Pat.bindersAll alts
  | .wild _ | .rest _ | .struct .. | .path .. | .lit .. => []

/-- The variables that some patterns bind, one after the other. -/
def Pat.bindersAll : List Pat → Visible
  | [] => []
  | pat :: pats => Pat.bindersAll pats ++ pat.binders

end

/-- The variables that a condition binds. -/
def Expr.binders : Expr → Visible
  | .letCond _ pat _ => pat.binders
  | _ => []

def Param.bindersAll (params : List Param) : Visible := Pat.bindersAll (params.map Param.pat)

/-- The variables that a statement binds for those after it. -/
def Stmt.binders : Stmt → Visible
  | .letStmt _ pat .. => pat.binders
  | .expr .. | .item .. => []

def Stmt.bindersAll : List Stmt → Visible
  | [] => []
  | stmt :: stmts => Stmt.bindersAll stmts ++ stmt.binders

/-! ## What is visible -/

/-- Some statements, each with what is visible to it: what the statements before it bind. -/
def Stmt.parts (visible : Visible) : List Stmt → List (Visible × Node)
  | [] => []
  | stmt :: stmts => (visible, .stmt stmt) :: Stmt.parts (stmt.binders ++ visible) stmts

namespace Node

/-- The code in a node, each part with what is visible there.  The constructs that bind variables
show them to a part of their own; an item sees none from outside; all else sees what its parent
sees. -/
def parts (visible : Visible) : Node → List (Visible × Node)
  | expr (.block (.mk _ stmts tail _)) =>
    Stmt.parts visible stmts ++
      tail.toList.map fun value => (Stmt.bindersAll stmts ++ visible, expr value)
  | expr (.ite _ cond onTrue onFalse) =>
    (visible, expr cond) :: (cond.binders ++ visible, expr (.block onTrue)) ::
      onFalse.toList.map fun value => (visible, expr value)
  | expr (.whileLoop _ cond body _ _) =>
    [(visible, expr cond), (cond.binders ++ visible, expr (.block body))]
  | expr (.forLoop _ p iter body _) =>
    [(visible, expr iter), (p.binders ++ visible, expr (.block body))]
  | expr (.closure _ params body _ _) => [(Param.bindersAll params ++ visible, expr body)]
  | arm (.mk _ p guard body) =>
    (guard.toList ++ [body]).map fun value => (p.binders ++ visible, expr value)
  | item (.fnDef _ _ _ params _ body _) =>
    body.toList.map fun block => (Param.bindersAll params, expr (.block block))
  | item declared => (item declared).codeChildren.map fun child => ([], child)
  | node => node.codeChildren.map fun child => (visible, child)

theorem stmt_parts_snd (visible : Visible) (stmts : List Stmt) :
    (Stmt.parts visible stmts).map Prod.snd = stmts.map stmt := by
  induction stmts generalizing visible with
  | nil => rfl
  | cons first rest inductionHypothesis => simp [Stmt.parts, inductionHypothesis]

attribute [local simp] codeChildren children_eq fields isCode List.filter_map List.filter_cons
  Function.comp_def

theorem parts_snd (visible : Visible) (node : Node) :
    (node.parts visible).map Prod.snd = node.codeChildren := by
  unfold parts
  split
  all_goals simp [← List.map_eq_flatMap, stmt_parts_snd]

/-- There is no code in a name. -/
theorem parts_path (visible : Visible) (origin : Origin) (segments : Path) (genericArgs : List Ty) :
    (expr (.path origin segments genericArgs)).parts visible = [] := by
  simp [parts, ← List.map_eq_flatMap]

theorem mem_codeChildren_of_parts {visible : Visible} {node : Node} {part : Visible × Node}
    (isPart : part ∈ node.parts visible) : part.2 ∈ node.codeChildren := by
  rw [← parts_snd visible node]
  exact List.mem_map_of_mem isPart

/-! ## What names refer to -/

/-- What a name refers to, by the number of the node: the innermost variable of that name. -/
def answer? (visible : Visible) : Node → Option (Nat × Option Nat)
  | expr (.path origin [name] _) => some (origin.id, visible.lookup name)
  | _ => none

/-- What the names in some code refer to. -/
def answers (visible : Visible) (node : Node) : List (Nat × Option Nat) :=
  (node.answer? visible).toList ++
    (node.parts visible).attach.flatMap fun ⟨part, _⟩ => answers part.1 part.2
termination_by node.weight
decreasing_by
  exact weight_child_lt (mem_children_of_code (mem_codeChildren_of_parts (by assumption)))

/-- What the names in some parts refer to, one part after the other. -/
def answersAll (parts : List (Visible × Node)) : List (Nat × Option Nat) :=
  parts.flatMap fun part => part.2.answers part.1

theorem answers_eq (visible : Visible) (node : Node) :
    node.answers visible = (node.answer? visible).toList ++ answersAll (node.parts visible) := by
  rw [answers, answersAll, List.flatMap, List.flatMap]
  congr 2
  exact List.attach_map_val (f := fun part : Visible × Node => part.2.answers part.1)

@[simp] theorem answersAll_nil : answersAll [] = [] := rfl

@[simp] theorem answersAll_cons (part : Visible × Node) (parts : List (Visible × Node)) :
    answersAll (part :: parts) = part.2.answers part.1 ++ answersAll parts := by
  simp [answersAll]

@[simp] theorem answersAll_append (first second : List (Visible × Node)) :
    answersAll (first ++ second) = answersAll first ++ answersAll second := by
  simp [answersAll]

theorem mem_answers_iff {visible : Visible} {node : Node} {entry : Nat × Option Nat} :
    entry ∈ node.answers visible ↔ node.answer? visible = some entry ∨
      ∃ part ∈ node.parts visible, entry ∈ part.2.answers part.1 := by
  rw [answers_eq, List.mem_append, Option.mem_toList]
  exact or_congr_right List.mem_flatMap

/-- An item sees nothing from outside. -/
theorem parts_item (visible : Visible) (declared : Item) :
    (item declared).parts visible = (item declared).parts [] := by
  cases declared <;> simp [parts]

/-- What stands around an item makes no difference to the names in it. -/
theorem answers_item (visible : Visible) (declared : Item) :
    (item declared).answers visible = (item declared).answers [] := by
  rw [answers_eq, answers_eq, parts_item]
  rfl

/-- Names are answered in the order in which they stand in the code. -/
theorem answers_sublist (visible : Visible) (node : Node) :
    (node.answers visible).map Prod.fst <+ node.code.map id := by
  have own : (node.answer? visible).toList.map Prod.fst <+ [node.id] := by
    unfold answer?
    split
    · exact Sublist.refl _
    · exact nil_sublist _
  have below : ∀ parts : List (Visible × Node), (∀ part ∈ parts, part ∈ node.parts visible) →
      (answersAll parts).map Prod.fst <+ (codeAll (parts.map Prod.snd)).map id := by
    intro parts
    induction parts with
    | nil => exact fun _ => Sublist.slnil
    | cons part parts inductionHypothesis =>
      intro all
      rw [answersAll_cons, List.map_cons, codeAll_cons, List.map_append, List.map_append]
      have isPart := all part List.mem_cons_self
      exact (answers_sublist part.1 part.2).append
        (inductionHypothesis fun other member => all other (List.mem_cons_of_mem _ member))
  rw [answers_eq, code_eq, List.map_append, List.map_cons, ← parts_snd visible node]
  exact own.append (below _ fun _ member => member)
termination_by node.weight
decreasing_by exact weight_child_lt (mem_children_of_code (mem_codeChildren_of_parts isPart))

/-- Every name in the code has an answer. -/
theorem mem_answers_of_code {visible : Visible} {node : Node} {origin : Origin} {name : String}
    {genericArgs : List Ty} (inCode : expr (.path origin [name] genericArgs) ∈ node.code) :
    ∃ answer, (origin.id, answer) ∈ node.answers visible := by
  rw [code_eq, ← parts_snd visible node] at inCode
  cases inCode with
  | head => exact ⟨_, mem_answers_iff.mpr (.inl rfl)⟩
  | tail _ below =>
    obtain ⟨child, isChild, inside⟩ := List.mem_flatMap.mp below
    obtain ⟨part, isPart, rfl⟩ := List.mem_map.mp isChild
    have below : ∃ answer, (origin.id, answer) ∈ part.2.answers part.1 := mem_answers_of_code inside
    obtain ⟨answer, answered⟩ := below
    exact ⟨answer, mem_answers_iff.mpr (.inr ⟨part, isPart, answered⟩)⟩
termination_by node.weight
decreasing_by exact weight_child_lt (mem_children_of_code (mem_codeChildren_of_parts isPart))

/-! ## The same body -/

def isItem : Node → Bool
  | item _ => true
  | _ => false

/-- The nodes of an item, less those of the items declared in it. -/
def within (node : Node) : List Node :=
  node :: (node.children.filter fun child => !child.isItem).attach.flatMap
    fun ⟨child, _⟩ => within child
termination_by node.weight
decreasing_by exact weight_child_lt (List.mem_of_mem_filter (by assumption))

theorem mem_within_iff {root node : Node} : node ∈ root.within ↔
    node = root ∨ ∃ child ∈ root.children, child.isItem = false ∧ node ∈ child.within := by
  rw [within]
  simp [and_assoc]

theorem mem_within_self (node : Node) : node ∈ node.within := mem_within_iff.mpr (.inl rfl)

theorem mem_within_trans {root node below : Node} (upper : node ∈ root.within)
    (lower : below ∈ node.within) : below ∈ root.within := by
  rcases mem_within_iff.mp upper with rfl | ⟨child, isChild, other, inside⟩
  · exact lower
  · exact mem_within_iff.mpr (.inr ⟨child, isChild, other, mem_within_trans inside lower⟩)
termination_by root.weight
decreasing_by exact weight_child_lt isChild

theorem mem_within_child {root node child : Node} (upper : node ∈ root.within)
    (isChild : child ∈ node.children) (other : child.isItem = false) : child ∈ root.within :=
  mem_within_trans upper (mem_within_iff.mpr (.inr ⟨child, isChild, other, mem_within_self child⟩))

/-- The variable that a node binds, if it is a pattern that binds one. -/
def binds? : Node → Option (String × Nat)
  | pat (.binding origin name _ _ _) => some (name, origin.id)
  | _ => none

/-- A variable that a pattern within a node binds. -/
def BindsWithin (node : Node) (entry : String × Nat) : Prop :=
  ∃ binder ∈ node.within, binder.binds? = some entry

theorem BindsWithin.up {node child : Node} {entry : String × Nat} (binds : BindsWithin child entry)
    (isChild : child ∈ node.children) (other : child.isItem = false) : BindsWithin node entry := by
  obtain ⟨binder, inside, bound⟩ := binds
  exact ⟨binder, mem_within_iff.mpr (.inr ⟨child, isChild, other, inside⟩), bound⟩

theorem mem_bindersAll_iff {entry : String × Nat} {pats : List Pat} :
    entry ∈ Pat.bindersAll pats ↔ ∃ p ∈ pats, entry ∈ p.binders := by
  induction pats with
  | nil => simp [Pat.bindersAll]
  | cons first rest inductionHypothesis =>
    rw [Pat.bindersAll, List.mem_append, inductionHypothesis, or_comm]
    simp

theorem bindsWithin_pat {entry : String × Nat} {p : Pat} (member : entry ∈ p.binders) :
    BindsWithin (pat p) entry := by
  cases p with
  | binding origin name isMut byRef sub =>
    have own : BindsWithin (pat (.binding origin name isMut byRef sub)) (name, origin.id) :=
      ⟨_, mem_within_self _, rfl⟩
    cases sub with
    | none =>
      rw [Pat.binders, List.mem_singleton] at member
      exact member ▸ own
    | some sub =>
      rw [Pat.binders, List.mem_append, List.mem_singleton] at member
      rcases member with inside | last
      · exact (bindsWithin_pat inside).up (by simp) rfl
      · exact last ▸ own
  | ref origin isMut inner =>
    rw [Pat.binders] at member
    exact (bindsWithin_pat member).up (by simp) rfl
  | tuple _ elems | tupleStruct _ _ elems | slice _ elems | or _ elems =>
    rw [Pat.binders] at member
    obtain ⟨elem, listed, inside⟩ := mem_bindersAll_iff.mp member
    exact (bindsWithin_pat inside).up (by simpa [← List.map_eq_flatMap] using listed) rfl
  | wild | rest | struct | path | lit => simp [Pat.binders] at member

theorem bindsWithin_cond {entry : String × Nat} {cond : Expr} (member : entry ∈ cond.binders) :
    BindsWithin (expr cond) entry := by
  cases cond with
  | letCond origin p init => exact (bindsWithin_pat member).up (by simp) rfl
  | _ => simp [Expr.binders] at member

theorem bindsWithin_params {entry : String × Nat} {params : List Param}
    (member : entry ∈ Param.bindersAll params) : ∃ p ∈ params, BindsWithin (param p) entry := by
  obtain ⟨_, listed, inside⟩ := mem_bindersAll_iff.mp member
  obtain ⟨⟨origin, p, t⟩, isParam, rfl⟩ := List.mem_map.mp listed
  exact ⟨_, isParam, (bindsWithin_pat inside).up (by simp [Param.pat]) rfl⟩

theorem bindsWithin_stmts {entry : String × Nat} {stmts : List Stmt}
    (member : entry ∈ Stmt.bindersAll stmts) : ∃ s ∈ stmts, BindsWithin (stmt s) entry := by
  induction stmts with
  | nil => simp [Stmt.bindersAll] at member
  | cons first rest inductionHypothesis =>
    rw [Stmt.bindersAll, List.mem_append] at member
    rcases member with later | own
    · obtain ⟨s, listed, binds⟩ := inductionHypothesis later
      exact ⟨s, List.mem_cons_of_mem _ listed, binds⟩
    · refine ⟨first, List.mem_cons_self, ?_⟩
      cases first with
      | letStmt origin p t init els => exact (bindsWithin_pat own).up (by simp) rfl
      | expr | item => simp [Stmt.binders] at own

/-- What is visible to a statement was visible before or is bound by the statements. -/
theorem mem_of_stmt_parts {visible : Visible} {stmts : List Stmt} {part : Visible × Node}
    {entry : String × Nat} (isPart : part ∈ Stmt.parts visible stmts) (member : entry ∈ part.1) :
    entry ∈ Stmt.bindersAll stmts ++ visible := by
  induction stmts generalizing visible with
  | nil => simp [Stmt.parts] at isPart
  | cons first rest inductionHypothesis =>
    rw [Stmt.parts, List.mem_cons] at isPart
    rw [Stmt.bindersAll, List.append_assoc]
    rcases isPart with rfl | later
    · exact List.mem_append_right _ (List.mem_append_right _ member)
    · exact inductionHypothesis later

/-- What stands in front of the variables that were visible before is bound within the node. -/
theorem visible_or_bindsWithin_append {node : Node} {binders visible : Visible}
    {entry : String × Nat} (other : node.isItem = false)
    (bound : entry ∈ binders → BindsWithin node entry) (seen : entry ∈ binders ++ visible) :
    node.isItem = false ∧ entry ∈ visible ∨ BindsWithin node entry := by
  rcases List.mem_append.mp seen with inner | outer
  · exact .inr (bound inner)
  · exact .inl ⟨other, outer⟩

/-- What is visible to a part was visible before or is bound within the node. -/
theorem visible_or_bindsWithin {visible : Visible} {node : Node} {part : Visible × Node}
    {entry : String × Nat} (isPart : part ∈ node.parts visible) (member : entry ∈ part.1) :
    node.isItem = false ∧ entry ∈ visible ∨ BindsWithin node entry := by
  unfold parts at isPart
  split at isPart
  · next origin stmts tail isUnsafe =>
    have seen : entry ∈ Stmt.bindersAll stmts ++ visible := by
      rcases List.mem_append.mp isPart with isStmt | isTail
      · exact mem_of_stmt_parts isStmt member
      · obtain ⟨value, _, rfl⟩ := List.mem_map.mp isTail
        exact member
    refine visible_or_bindsWithin_append rfl (fun inner => ?_) seen
    obtain ⟨s, listed, binds⟩ := bindsWithin_stmts inner
    exact binds.up (by simp [← List.map_eq_flatMap, listed]) rfl
  · next origin cond onTrue onFalse =>
    rcases isPart with _ | ⟨_, _ | ⟨_, isElse⟩⟩
    · exact .inl ⟨rfl, member⟩
    · exact visible_or_bindsWithin_append rfl
        (fun inner => (bindsWithin_cond inner).up (by simp) rfl) member
    · obtain ⟨value, _, rfl⟩ := List.mem_map.mp isElse
      exact .inl ⟨rfl, member⟩
  · next origin cond body header label =>
    rcases isPart with _ | ⟨_, _ | ⟨_, isNone⟩⟩
    · exact .inl ⟨rfl, member⟩
    · exact visible_or_bindsWithin_append rfl
        (fun inner => (bindsWithin_cond inner).up (by simp) rfl) member
    · cases isNone
  · next origin p iter body label =>
    rcases isPart with _ | ⟨_, _ | ⟨_, isNone⟩⟩
    · exact .inl ⟨rfl, member⟩
    · exact visible_or_bindsWithin_append rfl
        (fun inner => (bindsWithin_pat inner).up (by simp) rfl) member
    · cases isNone
  · next origin params body ret isMove =>
    rw [List.mem_singleton] at isPart
    subst isPart
    refine visible_or_bindsWithin_append rfl (fun inner => ?_) member
    obtain ⟨p, listed, binds⟩ := bindsWithin_params inner
    exact binds.up (by simp [← List.map_eq_flatMap, listed]) rfl
  · next origin p guard body =>
    obtain ⟨value, _, rfl⟩ := List.mem_map.mp isPart
    exact visible_or_bindsWithin_append rfl
      (fun inner => (bindsWithin_pat inner).up (by simp) rfl) member
  · next origin name generics params ret body attrs =>
    -- A function sees its parameters and nothing else.
    obtain ⟨block, _, rfl⟩ := List.mem_map.mp isPart
    obtain ⟨p, listed, binds⟩ := bindsWithin_params member
    exact .inr (binds.up (by simp [← List.map_eq_flatMap, listed]) rfl)
  · obtain ⟨child, _, rfl⟩ := List.mem_map.mp isPart
    cases member
  · next notFn notItem =>
    obtain ⟨child, _, rfl⟩ := List.mem_map.mp isPart
    refine .inl ⟨?_, member⟩
    cases node with
    | item declared => exact absurd rfl (notItem declared)
    | _ => rfl

/-- Two nodes of one function or constant, apart from the items declared in it. -/
def SameBody (root first second : Node) : Prop :=
  ∃ owner ∈ root.code, owner.body?.isSome = true ∧ first ∈ owner.within ∧ second ∈ owner.within

/-- Whether a node stands in no body by itself. -/
def isOuter : Node → Bool
  | item _ | crate _ => true
  | _ => false

/-- The place of some code: outside of bodies or in one, where it sees what that binds. -/
def Stands (root : Node) (visible : Visible) (node : Node) : Prop :=
  node.isOuter = true ∨ ∃ owner ∈ root.code, owner.body?.isSome = true ∧ node ∈ owner.within ∧
    ∀ entry ∈ visible, BindsWithin owner entry

theorem isOuter_of_isItem {node : Node} (declares : node.isItem = true) : node.isOuter = true := by
  cases node with
  | item => rfl
  | _ => cases declares

/-- A part of an item or a crate is an item too, or the body. -/
theorem body?_of_isOuter {node child : Node} (outer : node.isOuter = true)
    (isChild : child ∈ node.codeChildren) (other : child.isItem = false) :
    node.isItem = true ∧ node.body?.isSome = true := by
  cases node with
  | item declared =>
    rcases item_codeChildren isChild with ⟨body, _, isBody⟩ | ⟨inner, rfl⟩
    · exact ⟨rfl, Option.isSome_iff_exists.mpr ⟨body, isBody⟩⟩
    · cases other
  | crate root =>
    simp [← List.map_eq_flatMap] at isChild
    obtain ⟨inner, _, rfl⟩ := isChild
    cases other
  | _ => cases outer

theorem Stands.part {root node : Node} {visible : Visible} {part : Visible × Node}
    (stands : Stands root visible node) (inCode : node ∈ root.code)
    (isPart : part ∈ node.parts visible) : Stands root part.1 part.2 := by
  have isChild := mem_codeChildren_of_parts isPart
  have below := mem_children_of_code isChild
  cases other : part.2.isItem with
  | true => exact .inl (isOuter_of_isItem other)
  | false =>
    rcases stands with outer | ⟨owner, inRoot, isBody, inside, seen⟩
    · -- The part is the body of the node, and sees only what that binds.
      obtain ⟨declares, isBody⟩ := body?_of_isOuter outer isChild other
      refine .inr ⟨node, inCode, isBody, mem_within_child (mem_within_self node) below other, ?_⟩
      intro entry member
      rcases visible_or_bindsWithin isPart member with ⟨undeclared, _⟩ | binds
      · rw [declares] at undeclared
        cases undeclared
      · exact binds
    · refine .inr ⟨owner, inRoot, isBody, mem_within_child inside below other, ?_⟩
      intro entry member
      rcases visible_or_bindsWithin isPart member with ⟨_, before⟩ | ⟨binder, bound, binds⟩
      · exact seen entry before
      · exact ⟨binder, mem_within_trans inside bound, binds⟩

/-- A name that refers to a variable refers to one of that name in the same body. -/
theorem sameBody_of_answers {root node : Node} {visible : Visible} {id binding : Nat}
    (stands : Stands root visible node) (inCode : node ∈ root.code)
    (answered : (id, some binding) ∈ node.answers visible) :
    ∃ origin name genericArgs binder, expr (.path origin [name] genericArgs) ∈ root.code ∧
      origin.id = id ∧ binder.binds? = some (name, binding) ∧
        SameBody root (expr (.path origin [name] genericArgs)) binder := by
  rcases mem_answers_iff.mp answered with own | ⟨part, isPart, inside⟩
  · unfold answer? at own
    split at own
    · next origin name genericArgs =>
      rw [Option.some.injEq, Prod.mk.injEq] at own
      obtain ⟨isId, found⟩ := own
      rcases stands with outer | ⟨owner, inRoot, isBody, inside, seen⟩
      · cases outer
      · -- The innermost variable of the name is one of those that the body binds.
        obtain ⟨binder, bound, binds⟩ := seen _ (mem_of_lookup found)
        exact ⟨origin, name, genericArgs, binder, inCode, isId, binds, owner, inRoot, isBody,
          inside, bound⟩
    · cases own
  · have isChild := mem_codeChildren_of_parts isPart
    exact sameBody_of_answers (stands.part inCode isPart)
      (mem_code_trans inCode (mem_code_of_child isChild (mem_code_self _))) inside
termination_by node.weight
decreasing_by exact weight_child_lt (mem_children_of_code isChild)

end Node

/-- What the names in the code of a crate refer to, by the numbers of their nodes. -/
def Crate.answers (crate : Crate) : List (Nat × Option Nat) := (Node.crate crate).answers []

end DrainLint.Hir
